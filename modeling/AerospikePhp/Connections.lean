import AerospikePhp.Config
import AerospikePhp.Library.Transition
import Mathlib.Tactic

/-!
# Clients, sessions and the persistent list

The life of the cluster handles in one process: the objects of the class with
their three flags, the PHP session, and the list of persistent hosts that they
share.  A handle is what `aerospike_new` returns, and is named by its number.
What the environment decides comes with each event.
-/

namespace AerospikePhp

open Transition

/-! ## The state of a process -/

/-- The fields of an `AerospikeClient` by which its handle is managed. -/
structure AerospikeClient where
  asClient : Option ℕ
  isValid : Bool
  isPersistent : Bool
  isConnected : Bool
  deriving DecidableEq, Repr

structure PersistentHost where
  asClient : ℕ
  refCnt : ℕ
  connCnt : ℕ
  isConnected : Bool
  deriving DecidableEq, Repr

structure Process where
  /-- The configurations of the handles, in the order of their creation. -/
  configs : List AsConfig
  closed : List ℕ
  destroyed : List ℕ
  /-- The objects of the class that have not been freed. -/
  objects : ℕ → Option AerospikeClient
  session : Option AerospikeClient
  persistentList : List (String × PersistentHost)
  /-- Only for the record: the configurations of the persistent clients and
  sessions that connected so far, each with the handle it ended up with. -/
  given : List (AsConfig × ℕ)

/-- What the arguments and the environment decide about one attempt to
connect. -/
structure Attempt where
  /-- The configuration, when the arguments come to one. -/
  config : Option AsConfig
  persistent : Bool
  /-- `aerospike_new` returns a handle. -/
  created : Bool
  /-- There is memory for the search string. -/
  aliased : Bool
  /-- `aerospike_connect` succeeds. -/
  connects : Bool

inductive Event where
  | create (id : ℕ)
  | construct (id : ℕ) (attempt : Attempt)
  | close (id : ℕ)
  | reconnect (id : ℕ) (connects : Bool)
  | destruct (id : ℕ)
  | free (id : ℕ)
  | openSession (attempt : Attempt)
  | closeSession

/-- The flags of an object, as the methods look at them. -/
def AerospikeClient.flags (client : AerospikeClient) : Client :=
  ⟨client.asClient.isSome, client.isValid, client.isConnected⟩

/-! ## Search strings -/

/-- `sprintf("%x")` of an `int`. -/
def hexString (n : ℤ) : String :=
  String.ofList (Nat.toDigits 16 (n % 2 ^ 32).toNat)

/-- `get_persistent_search_string`. -/
def persistentSearchString (config : AsConfig) : String :=
  String.join (config.hosts.map fun host =>
      host.name ++ ":" ++ toString host.port ++ ":" ++ config.user ++ ";") ++
    if config.useShm then hexString config.shmKey else ""

/-! ## Handles and hosts -/

namespace Process

def new (config : AsConfig) (p : Process) : Process :=
  { p with configs := p.configs ++ [config] }

def closeHandle (handle : ℕ) (p : Process) : Process :=
  { p with closed := handle :: p.closed }

def destroyHandle (handle : ℕ) (p : Process) : Process :=
  { p with destroyed := handle :: p.destroyed }

def setObject (id : ℕ) (object : Option AerospikeClient) (p : Process) :
    Process :=
  { p with objects := Function.update p.objects id object }

/-- `get_persistent_host`. -/
def getPersistentHost (hostKey : String) (p : Process) :
    Option PersistentHost :=
  p.persistentList.lookup hostKey

/-- `add_persistent_host` and the assignments that follow it. -/
def addPersistentHost (hostKey : String) (handle : ℕ) (p : Process) : Process :=
  { p with
    persistentList := p.persistentList ++ [(hostKey, ⟨handle, 1, 1, true⟩)] }

/-- Count one more client of a host, which is connected now. -/
def countClient (hostKey : String) (p : Process) : Process :=
  { p with
    persistentList := p.persistentList.map fun entry =>
      if entry.1 = hostKey then
        (entry.1, { entry.2 with
          refCnt := entry.2.refCnt + 1
          connCnt := entry.2.connCnt + 1
          isConnected := true })
      else entry }

def give (config : AsConfig) (handle : ℕ) (p : Process) : Process :=
  { p with given := (config, handle) :: p.given }

end Process

/-- A status, the client and the process after an attempt to connect. -/
structure Connected where
  ok : Bool
  client : AerospikeClient
  process : Process

/-- `persistent_connect`, for a client that holds the new handle. -/
def persistentConnect (attempt : Attempt) (config : AsConfig) (handle : ℕ)
    (client : AerospikeClient) (p : Process) : Connected :=
  let client := { client with isPersistent := true }
  let hostKey := persistentSearchString config
  if attempt.aliased = false then ⟨false, client, p⟩
  else
    match p.getPersistentHost hostKey with
    | some host =>
        let client := { client with asClient := some host.asClient }
        let p := p.destroyHandle handle
        if host.isConnected = false ∧ attempt.connects = false then
          ⟨false, client, p⟩
        else ⟨true, client, (p.countClient hostKey).give config host.asClient⟩
    | none =>
        if attempt.connects = false then ⟨false, client, p⟩
        else ⟨true, client, (p.addPersistentHost hostKey handle).give config handle⟩

/-- `non_persistent_connect`. -/
def nonPersistentConnect (attempt : Attempt) (client : AerospikeClient)
    (p : Process) : Connected :=
  let client := { client with isPersistent := false }
  if attempt.connects = false then ⟨false, client, p⟩
  else ⟨true, { client with isConnected := true }, p⟩

/-! ## The events -/

namespace Process

/-- `aerospike_create_object`. -/
def create (id : ℕ) (p : Process) : Process :=
  match p.objects id with
  | some _ => p
  | none => p.setObject id (some ⟨none, false, false, false⟩)

/-- `__construct` from `aerospike_new` on. -/
def connectObject (id : ℕ) (attempt : Attempt) (config : AsConfig)
    (client : AerospikeClient) (p : Process) : Process :=
  let handle := p.configs.length
  let client := { client with asClient := some handle, isValid := true }
  let connected :=
    if attempt.persistent then
      persistentConnect attempt config handle client (p.new config)
    else nonPersistentConnect attempt client (p.new config)
  connected.process.setObject id
    (some (if connected.ok then { connected.client with isConnected := true }
      else connected.client))

/-- `__construct`, which can be called again on an object. -/
def construct (id : ℕ) (attempt : Attempt) (p : Process) : Process :=
  match p.objects id with
  | none => p
  | some client =>
      let client := { client with
        isConnected := false, isValid := false, isPersistent := true }
      match attempt.config with
      | none => p.setObject id (some client)
      | some config =>
          if attempt.created = false then
            p.setObject id (some { client with asClient := none })
          else p.connectObject id attempt config client

def close (id : ℕ) (p : Process) : Process :=
  match p.objects id with
  | some client =>
      match client.asClient with
      | none => p
      | some handle =>
          let p := if client.isPersistent then p else p.closeHandle handle
          p.setObject id (some { client with isConnected := false })
  | none => p

def reconnect (id : ℕ) (connects : Bool) (p : Process) : Process :=
  match p.objects id with
  | some client =>
      if client.asClient.isNone ∨ client.isConnected ∨ connects = false then p
      else p.setObject id (some { client with isConnected := true })
  | none => p

/-- `aerospike_object_destructor`. -/
def destruct (id : ℕ) (p : Process) : Process :=
  match p.objects id with
  | some ⟨some handle, _, false, _⟩ => p.closeHandle handle
  | _ => p

/-- `aerospike_object_free_storage`. -/
def free (id : ℕ) (p : Process) : Process :=
  match p.objects id with
  | some ⟨some handle, true, false, _⟩ =>
      ((p.closeHandle handle).destroyHandle handle).setObject id none
  | _ => p.setObject id none

/-- `PS_OPEN`.  A failure destroys the handle, whichever the client holds, and
leaves the session as it was. -/
def openSession (attempt : Attempt) (p : Process) : Process :=
  match attempt.config with
  | none => p
  | some config =>
      if attempt.created = false then p
      else
        let handle := p.configs.length
        let connected := persistentConnect attempt config handle
          ⟨some handle, true, true, false⟩ (p.new config)
        if connected.ok then
          { connected.process with
            session := some { connected.client with isConnected := true } }
        else
          match connected.client.asClient with
          | some handle => connected.process.destroyHandle handle
          | none => connected.process

/-- `PS_CLOSE`. -/
def closeSession (p : Process) : Process := { p with session := none }

def step (p : Process) : Event → Process
  | .create id => p.create id
  | .construct id attempt => p.construct id attempt
  | .close id => p.close id
  | .reconnect id connects => p.reconnect id connects
  | .destruct id => p.destruct id
  | .free id => p.free id
  | .openSession attempt => p.openSession attempt
  | .closeSession => p.closeSession

/-- The end of the module: `persistent_host_dtor` for every host. -/
def shutdown (p : Process) : Process :=
  p.persistentList.foldl (fun p entry =>
      (p.closeHandle entry.2.asClient).destroyHandle entry.2.asClient)
    { p with persistentList := [] }

def start : Process := ⟨[], [], [], fun _ => none, none, [], []⟩

end Process

def processMachine : Machine Process Event := ⟨.start, Process.step⟩

/-- The process after these events. -/
abbrev Process.after (events : List Event) : Process := processMachine.run events

end AerospikePhp
