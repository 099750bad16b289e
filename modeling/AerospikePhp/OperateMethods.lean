import AerospikePhp.KeyMethods
import Mathlib.Tactic

/-!
# The methods that operate on one record

`operate` and `operateOrdered` send the operations of an array, `touch`,
`append`, `prepend` and `increment` a single one.
-/

namespace AerospikePhp

open Procedure Method

section

variable (engine : Engine) (client : Client) (oracle : Oracle)

/-! ## Pieces -/

/-- `zval_to_as_policy_operate`, given the operate policy of the client's
configuration. -/
def requireOperatePolicy (zPolicy : Option Zval) (failure : Method Unit) :
    Method PolicyOperate :=
  requirePolicy operateField
    (zvalToAsPolicyOperate engine.rt engine.init.operate zPolicy) failure

def requireGeneration (zPolicy : Option Zval) (failure : Method Unit) :
    Method ℕ := do
  let gen := setOperationsGenerationFromOperatePolicy zPolicy 0
  runIf (gen.1 ≠ .ok) failure
  pure gen.2

def requireTtl (zPolicy : Option Zval) (failure : Method Unit) : Method ℕ := do
  let ttl := setOperationsTtlFromOperatePolicy zPolicy 0
  runIf (ttl.1 ≠ .ok) failure
  pure ttl.2

/-- `update_client_error(..., code, message, false); err.code = code;
goto CLEANUP;` -/
def failCode {α : Type} (code : AsStatus) (message : String) : Method α := do
  updateClientError code message
  setErrCode code
  gotoCleanup

/-- The serializer of a call that does not look whether the option is well
formed. -/
def callSerializer (zPolicy : Option Zval) : SerializerType :=
  (setSerializerFromPolicyHash engine.iniSerializer
    (toInt32 engine.iniSerializer) zPolicy).2

/-- The operations array with the client's answers to the add calls. -/
def batchOf (zOps : HashTable) : List ((ZKey × Zval) × Bool) :=
  zOps.mapIdx fun i entry => (entry, oracle.addOk i)

/-- The loop over the operations array, which ends in `CLEANUP` when an entry
is refused. -/
def addAllOperations (ordered : Bool) (serializerType : SerializerType)
    (zOps : HashTable) (gen ttl : ℕ) : Method AsOperations := do
  let s ← Proc.get
  let added := (addOperations engine.rt engine.operators serializerType ordered
    (batchOf oracle zOps)).run ⟨s.err, [], ttl, gen⟩
  setErrTo added.2.err
  orFail (match added.1 with
      | .ok _ => some ⟨added.2.ops, added.2.gen, added.2.ttl⟩
      | .error _ => none)
    gotoCleanup

/-- One operation, or none when the client did not add it. -/
def oneOperation (addOk : Bool) (op : Operation) (gen ttl : ℕ) : AsOperations :=
  ⟨if addOk then [op] else [], gen, ttl⟩

/-! ## operate and operateOrdered -/

structure OperateArgs where
  key : HashTable
  operations : HashTable
  /-- The parameter for the result is given. -/
  returned : Bool
  policy : Option Zval

def operateBody (key : AsKey) (args : OperateArgs) : Method Unit := do
  let policy ← requireOperatePolicy engine args.policy
    (failCleanup .errParam "Invalid operate policy")
  runIf (HashTable.numElements args.operations = 0)
    (failCleanup .errParam "Empty operations array")
  let gen ← requireGeneration args.policy
    (failCleanup .errParam "Invalid generation policy")
  let ttl ← requireTtl args.policy
    (failCleanup .errParam "Invalid generation policy")
  runIf (HashTable.hashtableIsList args.operations = false)
    (failCleanup .errParam "Operations array must be a list")
  let operations ← addAllOperations engine oracle false
    (callSerializer engine args.policy) args.operations gen ttl
  let answer ← issue oracle (.keyOperate (some policy) key operations)
  cleanupOnError
  runIf (args.returned = true) do
    let record ← orFail answer.record crash
    let _ ← writeOutput (asBinsToZval engine.rt record)

def operate (args : Option OperateArgs) : Method Reply := do
  resetClientError
  let args ← orFail args
    (failReturn .errParam "Invalid Parameters for operate")
  runIf (args.returned = true) (setOutput .null)
  validateClientAndConnection client .errCluster "Invalid aerospike object"
    "No connection to Aerospike server"
  let key ← requireKey engine args.key (failReturn .errParam "Invalid key")
  withCleanup (operateBody engine oracle key args) cleanupErr

def operateOrderedBody (key : AsKey) (args : OperateArgs) : Method Unit := do
  let policy ← whenGiven args.policy
    (requireOperatePolicy engine args.policy
      (failCleanup .errParam "Invalid operate policy"))
  runIf (HashTable.numElements args.operations = 0)
    (failCleanup .errParam "Empty operations array")
  let gen ← requireGeneration args.policy
    (failCleanup .errParam "Invalid generation policy")
  let ttl ← requireTtl args.policy (failCleanup .errParam "Invalid TTL")
  let operations ← addAllOperations engine oracle true
    (callSerializer engine args.policy) args.operations gen ttl
  let answer ← issue oracle (.keyOperate policy key operations)
  cleanupOnError
  runIf (args.returned = true) do
    let _ ← writeOutput (asOperateRecordToZval engine.rt answer.record)

def operateOrdered (args : Option OperateArgs) : Method Reply := do
  resetClientError
  let args ← orFail args
    (failReturn .errParam "Invalid Parameters for operateOrdered")
  runIf (args.returned = true) (setOutput .null)
  validateClientAndConnection client .errCluster "Invalid aerospike object"
    "No connection to Aerospike server"
  let key ← requireKey engine args.key (failReturn .errParam "Invalid key")
  withCleanup (operateOrderedBody engine oracle key args) cleanupErr

/-! ## One operation -/

structure TouchArgs where
  key : HashTable
  ttl : Int64
  policy : Option Zval

def touchBody (args : TouchArgs) : Method Unit := do
  let key ← requireKey engine args.key
    (failCleanup .errParam "Unable to convert key")
  let policy ← requireOperatePolicy engine args.policy
    (failCleanup .errParam "Invalid operate policy")
  let gen ← requireGeneration args.policy
    (failCleanup .errParam "Invalid generation policy")
  let _ ← issue oracle (.keyOperate (some policy) key
    (oneOperation (oracle.addOk 0) { op := .touch } gen (toUint32 args.ttl)))

/-- Parameters that do not parse leave the return value null. -/
def touch (args : Option TouchArgs) : Method Reply := do
  resetClientError
  validateClientAndConnection client .errClient "Invalid Aerospike object"
    "No connection to Server"
  let args ← orFail args (Proc.exit (.ret .null))
  withCleanup (touchBody engine oracle args) cleanupErr

structure StringOpArgs where
  key : HashTable
  bin : String
  value : String
  policy : Option Zval

def appendBody (args : Option StringOpArgs) : Method Unit := do
  requireConnectionOrCleanup client
  resetClientError
  let args ← orFail args
    (failReturn .errParam "Invalid parameters to append")
  runIf (args.bin.length > asBinNameMaxLen)
    (failCleanup .errParam "Bin name is too long")
  let key ← requireKey engine args.key (failCleanup .errParam "Invalid key")
  let policy ← requireOperatePolicy engine args.policy
    (failCleanup .errParam "Invalid operate policy")
  let gen ← requireGeneration args.policy
    (failCleanup .errParam "Invalid generation policy")
  let ttl ← requireTtl args.policy (failCleanup .errParam "Invalid TTL")
  let _ ← issue oracle (.keyOperate (some policy) key
    (oneOperation (oracle.addOk 0)
      { op := .append, bin := some (cString args.bin),
        value := .string (cString args.value) } gen ttl))

def append (args : Option StringOpArgs) : Method Reply :=
  withCleanup (appendBody engine client oracle args) cleanupErr

def prependBody (key : AsKey) (policy : PolicyOperate) (args : StringOpArgs) :
    Method Unit := do
  let gen ← requireGeneration args.policy
    (failCleanup .errParam "Invalid generation policy")
  let ttl ← requireTtl args.policy (failCleanup .errParam "Invalid TTL")
  let _ ← issue oracle (.keyOperate (some policy) key
    (oneOperation (oracle.addOk 0)
      { op := .prepend, bin := some (cString args.bin),
        value := .string (cString args.value) } gen ttl))

def prepend (args : Option StringOpArgs) : Method Reply := do
  resetClientError
  validateClientAndConnection client .errClient "Invalid Aerospike object"
    "Not connected to Aerospike server"
  let args ← orFail args
    (failReturn .errParam "Invalid parameters to prepend")
  runIf (args.bin.length > asBinNameMaxLen)
    (failReturn .errParam "Bin name is too long")
  let key ← requireKey engine args.key (failReturn .errParam "Invalid key")
  let policy ← requireOperatePolicy engine args.policy
    (failReturn .errParam "Invalid operate policy")
  withCleanup (prependBody oracle key policy args) cleanupErr

structure IncrementArgs where
  key : HashTable
  bin : String
  offset : Zval
  policy : Option Zval

def requireIncrement (offset : Zval) : Method OpValue :=
  orFail (incrValue engine.rt (some offset))
    (match offset with
      | .string _ => failReturn .errParam "Non numeric increment amount"
      | _ => failReturn .errParam "Invalid increment value type")

def incrementBody (key : AsKey) (policy : PolicyOperate) (value : OpValue)
    (args : IncrementArgs) : Method Unit := do
  let gen ← requireGeneration args.policy
    (failCode .errParam "Invalid generation policy")
  let ttl ← requireTtl args.policy (failCode .errParam "Invalid TTL")
  let _ ← issue oracle (.keyOperate (some policy) key
    (oneOperation (oracle.addOk 0)
      { op := .incr, bin := some (cString args.bin), value } gen ttl))
  let s ← Proc.get
  runIf (s.err.code ≠ .ok) reportErr

def increment (args : Option IncrementArgs) : Method Reply := do
  resetClientError
  validateClientAndConnection client .errClient "Invalid Aerospike object"
    "Not connected to Aerospike server"
  let args ← orFail args
    (failReturn .errParam "Invalid parameters to increment")
  let value ← requireIncrement engine args.offset
  runIf (args.bin.length > asBinNameMaxLen)
    (failReturn .errParam "Bin name is too long")
  let key ← requireKey engine args.key (failReturn .errParam "Invalid key")
  let policy ← requireOperatePolicy engine args.policy
    (failReturn .errParam "Invalid operate policy")
  withCleanup (incrementBody oracle key policy value args) returnErrCode

end

end AerospikePhp
