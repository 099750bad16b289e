import AerospikePhp.Library.Procedure
import AerospikePhp.Requests
import Mathlib.Tactic

/-!
# Methods of the client class

The frame in which the methods of the class run: the client object, the
configuration behind its handle, the error objects, the requests sent so far,
and the two ways in which a method body ends early, `return` and
`goto CLEANUP`.
-/

namespace AerospikePhp

open Procedure

/-- What does not change from call to call. -/
structure Engine where
  rt : Runtime
  operators : OperatorCodes
  /-- The `AS_INDEX_TYPE_*` value of each index type. -/
  indexTypes : IndexType → ℤ
  indexTypes_injective : Function.Injective indexTypes
  /-- The results of the `as_policy_*_init` functions. -/
  init : Policies
  /-- The INI setting `aerospike.serializer`. -/
  iniSerializer : Int64
  /-- Whether `as_key_init` accepts the key. -/
  keyInit : AsKey → Bool
  /-- The digest of a set and a primary key. -/
  digest : String → AsKeyValue → String

/-- The key after a request, in which the client has put its digest. -/
def Engine.digested (engine : Engine) (key : AsKey) : AsKey :=
  match key.value with
  | .absent => key
  | value => { key with digest := some (engine.digest key.set value) }

/-- The fields of an `AerospikeClient` that the guards look at. -/
structure Client where
  /-- `as_client` is not NULL. -/
  hasClient : Bool
  isValid : Bool
  isConnected : Bool
  deriving DecidableEq, Repr

/-- The registered Lua file, as `register` finds and copies it. -/
inductive UdfFile where
  | failed (code : AsStatus) (message : String)
  | copied (content : List UInt8)

/-- What the environment answers during one call. -/
structure Oracle where
  /-- The `as_operations_add_*` calls, in order. -/
  addOk : ℕ → Bool
  whereOk : Bool
  queryInitOk : Bool
  scanInitOk : Bool
  applyOk : Bool
  udfFile : UdfFile
  /-- The name and port of the first configured host. -/
  firstHost : String × ℕ
  /-- The addresses of the cluster's nodes, NULL without a cluster. -/
  nodes : Option (List String)
  /-- The client's answers, by the number of requests before. -/
  answer : ℕ → Request → Answer

/-- `as_client` points to a client that is valid and connected. -/
def Client.Ready (client : Client) : Prop :=
  client.hasClient = true ∧ client.isValid = true ∧ client.isConnected = true

/-! ## A plain setting

An engine without callbacks, whose policies are all zero, and a cluster that
answers every request with success; for the concrete runs below.
-/

def Engine.plain : Engine where
  rt := Runtime.plain
  operators := ⟨2, 1, 5, 10, 9, 11, 14, by decide, by decide⟩
  indexTypes := fun
    | .list => 1
    | .mapKeys => 2
    | .mapValues => 3
  indexTypes_injective := by
    intro a b hab
    cases a <;> cases b <;> simp at hab <;> rfl
  init := default
  iniSerializer := 0
  keyInit := fun _ => true
  digest := fun _ _ => "00000000000000000000"

def Client.connected : Client := ⟨true, true, true⟩

def Oracle.accepting : Oracle where
  addOk _ := true
  whereOk := true
  queryInitOk := true
  scanInitOk := true
  applyOk := true
  udfFile := .copied []
  firstHost := ("127.0.0.1", 3000)
  nodes := none
  answer _ _ := { err := .init }

/-! ## The state of a call -/

structure CallState where
  err : AsError
  /-- The error fields of the client object. -/
  clientError : AsError
  /-- `as_client->config.policies`. -/
  policies : Policies
  requests : List Request
  /-- The parameter that is passed by reference, once it is written. -/
  output : Option Zval

/-- The value that a method returns to PHP. -/
inductive Reply where
  | long (status : AsStatus)
  | null
  | value (z : Zval)

inductive Exit where
  | ret (reply : Reply)
  | cleanup
  | crash

abbrev Method (α : Type) : Type := Proc CallState Exit α

/-- The call returned, or crashed, in this state. -/
structure Outcome where
  reply : Option Reply
  state : CallState

def Method.call (method : Method Reply) (state : CallState) : Outcome :=
  match method.run state with
  | (.ok reply, state') => ⟨some reply, state'⟩
  | (.error (.ret reply), state') => ⟨some reply, state'⟩
  | (.error _, state') => ⟨none, state'⟩

/-- The state in which a method starts, with the error object set up. -/
def CallState.start (policies : Policies) (clientError : AsError) : CallState :=
  ⟨.init, clientError, policies, [], none⟩

/-- The method reports failure: a status other than OK, or null. -/
def Reply.Failed : Reply → Prop
  | .long status => status ≠ .ok
  | .null => True
  | .value _ => False

namespace Method

/-! ## Statements -/

/-- `as_error_update`. -/
def setErr (code : AsStatus) (message : String) : Method Unit :=
  Proc.modify fun s => { s with err := s.err.update code message }

/-- `err.code = code`. -/
def setErrCode (code : AsStatus) : Method Unit :=
  Proc.modify fun s => { s with err.code := code }

def setErrTo (err : AsError) : Method Unit :=
  Proc.modify fun s => { s with err := err }

def errorInit : Method Unit := setErrTo .init

def resetClientError : Method Unit :=
  Proc.modify fun s => { s with clientError := .init }

def updateClientError (code : AsStatus) (message : String) : Method Unit :=
  Proc.modify fun s => { s with clientError := ⟨code, message, false⟩ }

/-- `update_client_error` with the call's own error. -/
def reportErr : Method Unit :=
  Proc.modify fun s => { s with clientError := s.err }

def setOutput (z : Zval) : Method Unit :=
  Proc.modify fun s => { s with output := some z }

def returnLong {α : Type} (status : AsStatus) : Method α :=
  Proc.exit (.ret (.long status))

def returnErrCode {α : Type} : Method α := do
  let s ← Proc.get
  returnLong s.err.code

def gotoCleanup {α : Type} : Method α := Proc.exit .cleanup

def crash {α : Type} : Method α := Proc.exit .crash

/-- `update_client_error(..., code, message, false); RETURN_LONG(code);` -/
def failReturn {α : Type} (code : AsStatus) (message : String) : Method α := do
  updateClientError code message
  returnLong code

/-- `as_error_update(&err, code, message); goto CLEANUP;` -/
def failCleanup {α : Type} (code : AsStatus) (message : String) : Method α := do
  setErr code message
  gotoCleanup

/-- Run the statement when the condition holds. -/
def runIf (condition : Prop) [Decidable condition] (statement : Method Unit) :
    Method Unit :=
  if condition then statement else pure ()

/-- The value, or the failure when there is none. -/
def orFail {α : Type} (value : Option α) (failure : Method α) : Method α :=
  match value with
  | some v => pure v
  | none => failure

/-- Run the statement with the value when there is one. -/
def forSome {α : Type} (value : Option α) (statement : α → Method Unit) :
    Method Unit :=
  match value with
  | some v => statement v
  | none => pure ()

/-- The part of a method before the label `CLEANUP`, and the part after it. -/
def withCleanup {α : Type} (body : Method Unit) (cleanup : Method α) :
    Method α := do
  Proc.catchExit body fun exit =>
    match exit with
    | .cleanup => pure ()
    | exit => Proc.exit exit
  cleanup

/-- The usual `CLEANUP`: report the error, if any, and return the code. -/
def cleanupErr : Method Reply := do
  let s ← Proc.get
  runIf (s.err.code ≠ .ok) reportErr
  returnErrCode

/-! ## Pieces that several methods share -/

section

variable (engine : Engine) (client : Client) (oracle : Oracle)

/-- Send a request: its answer brings the new error object. -/
def issue (request : Request) : Method Answer := do
  let s ← Proc.get
  let answer := oracle.answer s.requests.length request
  Proc.modify fun s =>
    { s with requests := s.requests ++ [request], err := answer.err }
  pure answer

def checkObjectAndConnection : Method AsStatus :=
  if client.hasClient = false ∨ client.isValid = false then do
    setErr .errClient "Invalid class object"
    pure .errClient
  else if client.isConnected = false then do
    setErr .errCluster "Not connected"
    pure .errCluster
  else pure .ok

/-- The guard of most methods. -/
def requireConnection : Method Unit := do
  let status ← checkObjectAndConnection client
  runIf (status ≠ .ok) do
    reportErr
    returnErrCode

/-- The guard of the methods that leave the report to their `CLEANUP`. -/
def requireConnectionOrCleanup : Method Unit := do
  let status ← checkObjectAndConnection client
  runIf (status ≠ .ok) gotoCleanup

/-- The guard written out, with the code and the texts of each method. -/
def validateClientAndConnection (code : AsStatus) (invalid notConnected : String) :
    Method Unit :=
  if client.hasClient = false ∨ client.isValid = false then
    failReturn .errClient invalid
  else if client.isConnected = false then failReturn code notConnected
  else pure ()

/-- A conversion with the call's own error object. -/
def convert {α : Type} (converter : AsError → Converted α) :
    Method (Converted α) := do
  let s ← Proc.get
  setErrTo (converter s.err).err
  pure (converter s.err)

/-- A policy in the client's configuration. -/
structure PolicyField (P : Type) where
  get : Policies → P
  set : P → Policies → Policies
  set_get : ∀ policies, set (get policies) policies = policies

/-- A policy converter, given a pointer into the client's configuration. -/
def loadPolicy {P : Type} (field : PolicyField P)
    (converter : P → ConvertedPolicy P) : Method (ConvertedPolicy P) := do
  let s ← Proc.get
  let converted := converter (field.get s.policies)
  Proc.modify fun s =>
    { s with policies := field.set converted.defaultPolicy s.policies }
  pure converted

/-- The key, or the failure when it does not convert. -/
def requireKey (zKey : HashTable) (failure : Method AsKey) : Method AsKey := do
  let converted ← convert (zHashtableToAsKey engine.keyInit zKey)
  if converted.status ≠ .ok then failure else orFail converted.val failure

/-- The policy, or the failure when it does not convert. -/
def requirePolicy {P : Type} (field : PolicyField P)
    (converter : P → ConvertedPolicy P) (failure : Method Unit) : Method P := do
  let converted ← loadPolicy field converter
  runIf (converted.status ≠ .ok) failure
  pure converted.policy

def readField : PolicyField PolicyRead :=
  ⟨Policies.read, fun policy ps => { ps with read := policy }, fun _ => rfl⟩

def writeField : PolicyField PolicyWrite :=
  ⟨Policies.write, fun policy ps => { ps with write := policy }, fun _ => rfl⟩

def removeField : PolicyField PolicyRemove :=
  ⟨Policies.remove, fun policy ps => { ps with remove := policy }, fun _ => rfl⟩

def operateField : PolicyField PolicyOperate :=
  ⟨Policies.operate, fun policy ps => { ps with operate := policy },
    fun _ => rfl⟩

def applyField : PolicyField PolicyApply :=
  ⟨Policies.apply, fun policy ps => { ps with apply := policy }, fun _ => rfl⟩

def scanField : PolicyField PolicyScan :=
  ⟨Policies.scan, fun policy ps => { ps with scan := policy }, fun _ => rfl⟩

def queryField : PolicyField PolicyQuery :=
  ⟨Policies.query, fun policy ps => { ps with query := policy }, fun _ => rfl⟩

def batchField : PolicyField PolicyBatch :=
  ⟨Policies.batch, fun policy ps => { ps with batch := policy }, fun _ => rfl⟩

def infoField : PolicyField PolicyInfo :=
  ⟨Policies.info, fun policy ps => { ps with info := policy }, fun _ => rfl⟩

def adminField : PolicyField PolicyInfo :=
  ⟨Policies.admin, fun policy ps => { ps with admin := policy }, fun _ => rfl⟩

end

end Method

end AerospikePhp
