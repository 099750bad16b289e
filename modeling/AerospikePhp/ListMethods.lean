import AerospikePhp.OperateMethods
import Mathlib.Tactic

/-!
# The list operations

Fourteen methods that share their setup, one call of `aerospike_key_operate`
and their `CLEANUP`.  They differ in the operation they add, in how its
argument is obtained, and in what they do with the result.
-/

namespace AerospikePhp

open Procedure Method

structure ListArgs where
  key : HashTable
  bin : String
  policy : Option Zval

/-- What `setup_list_operation_variables` fills in. -/
structure ListSetup where
  key : AsKey
  policy : PolicyOperate
  gen : ℕ
  ttl : ℕ

section

variable (engine : Engine) (client : Client) (oracle : Oracle)

/-! ## What they share -/

/-- `VALIDATE_CLIENT_AND_CONNECTION`. -/
def validateListClient : Method Unit :=
  validateClientAndConnection client .errClient "Invalid Aerospike object"
    "Not connected to Aerospike server"

/-- `CHECK_BIN_NAME`. -/
def checkBinName (bin : String) : Method Unit :=
  runIf (bin.length > asBinNameMaxLen)
    (failReturn .errParam "Bin name is too long")

def setupListOperationVariables (args : ListArgs) : Method ListSetup := do
  errorInit
  let key ← requireKey engine args.key (failCleanup .errParam "Invalid key")
  let policy ← requireOperatePolicy engine args.policy
    (failCleanup .errParam "Invalid operate policy")
  let gen ← requireGeneration args.policy
    (failCleanup .errParam "Invalid generation policy")
  let ttl ← requireTtl args.policy (failCleanup .errParam "Invalid TTL")
  pure ⟨key, policy, gen, ttl⟩

/-- The body of a list operation: set up, make the operation, add it, send it,
and look at the result. -/
def listBody (args : ListArgs) (makeOperation : Method Operation)
    (notAdded : Method Unit) (useResult : Answer → Method Unit) :
    Method Unit := do
  let setup ← setupListOperationVariables engine args
  let op ← makeOperation
  runIf (oracle.addOk 0 = false) notAdded
  let answer ← issue oracle (.keyOperate (some setup.policy) setup.key
    (oneOperation (oracle.addOk 0) op setup.gen setup.ttl))
  useResult answer

/-- The answer to a failed add call in most of the methods. -/
def notAddedCode : Method Unit := failCode .errClient "Failed to add operations"

def notAddedErr : Method Unit :=
  failCleanup .errClient "Failed to add operations"

def ignoreResult (_ : Answer) : Method Unit := pure ()

/-- `as_record_get`. -/
def asRecordGet (record : AsRecord) (bin : String) : Option AsVal :=
  (record.bins.find? fun b => b.1 = bin).map Prod.snd

def answerBin (answer : Answer) (bin : String) : Option AsVal :=
  answer.record.bind fun record => asRecordGet record (cString bin)

/-- The result of `listPop` and `listPopRange`. -/
def usePopped (bin : String) (answer : Answer) : Method Unit := do
  cleanupOnError
  forSome (answerBin answer bin) fun value => do
    let status ← writeOutput (asValToZval engine.rt value)
    runIf (status ≠ .ok)
      (updateClientError .errClient "Failed to deserialize returned value")

/-- The result of `listGet` and `listGetRange`; `missing` is done when the
record has no such bin. -/
def useReturned (bin : String) (missing : Method Unit) (answer : Answer) :
    Method Unit := do
  cleanupOnError
  runIf (answerBin answer bin).isNone missing
  forSome (answerBin answer bin) fun value => do
    let status ← writeOutput (asValToZval engine.rt value)
    runIf (status ≠ .ok)
      (setErr .errClient "Failed to deserialize returned value")

/-- `as_record_get_int64(rec, bin_name, -1)`. -/
def useSize (bin : String) (answer : Answer) : Method Unit := do
  cleanupOnError
  setOutput (.long (match answerBin answer bin with
    | some (.integer n) => n
    | _ => -1))

def plainOperation (op : OpType) (bin : String)
    (index : Option Int64 := none) (count : Option Int64 := none) :
    Method Operation :=
  pure { op, bin := some (cString bin), index,
         count := count.map fun n => (toUint64 n : ℤ) }

/-- `set_serializer_from_policy_hash`, for the methods that look at its
status. -/
def requireSerializer (zPolicy : Option Zval) (failure : Method Unit) :
    Method SerializerType := do
  let serializer := setSerializerFromPolicyHash engine.iniSerializer
    (toInt32 engine.iniSerializer) zPolicy
  runIf (serializer.1 ≠ .ok) failure
  pure serializer.2

def invalidSerializer : Method Unit :=
  failCode .errParam "Invalid serializer value"

/-- The list of `listMerge` and `listInsertItems`, which look at the status of
the conversion. -/
def convertItems (policy : Option Zval) (items : HashTable) (notList : String)
    (notConverted : Method Unit) : Method (Option (List AsVal)) := do
  let serializer ← requireSerializer engine policy invalidSerializer
  runIf (HashTable.hashtableIsList items = false) (failCode .errParam notList)
  let converted ← convert (zHashtableToAsList engine.rt serializer items)
  runIf (converted.status ≠ .ok) notConverted
  pure converted.val

/-- The value of `listAppend`, `listInsert` and `listSet`. -/
def convertItem (policy : Option Zval) (z : Zval)
    (badSerializer notConverted : Method Unit) : Method (Option AsVal) := do
  let serializer ← requireSerializer engine policy badSerializer
  let converted ← convert (zvalToAsVal engine.rt serializer z)
  runIf (converted.val.isNone ∨ converted.err.code ≠ .ok) notConverted
  pure converted.val

/-! ## The methods -/

def listSize (args : Option ListArgs) : Method Reply := do
  resetClientError
  validateListClient client
  let args ← orFail args (failReturn .errParam "Invalid parameters to listSize")
  setOutput .null
  checkBinName args.bin
  withCleanup (listBody engine oracle args
    (plainOperation .listSize args.bin) (pure ()) (useSize args.bin)) cleanupErr

def appendItem (args : ListArgs) (z : Zval) : Method Operation := do
  let value ← convertItem engine args.policy z invalidSerializer do
    reportErr
    gotoCleanup
  pure { op := .listAppend, bin := some (cString args.bin),
         value := .asVal value }

def listAppend (args : Option (ListArgs × Zval)) : Method Reply := do
  resetClientError
  validateListClient client
  let args ← orFail args
    (failReturn .errParam "Invalid parameters to listAppend")
  checkBinName args.1.bin
  withCleanup (listBody engine oracle args.1
    (appendItem engine args.1 args.2) (pure ()) ignoreResult) cleanupErr

def mergeItems (args : ListArgs) (items : HashTable) : Method Operation := do
  let list ← convertItems engine args.policy items
    "Items to merge must be a list" do
      let s ← Proc.get
      updateClientError s.err.code "Failed to create a list in listMerge"
      gotoCleanup
  pure { op := .listMerge, bin := some (cString args.bin), value := .list list }

def listMerge (args : Option (ListArgs × HashTable)) : Method Reply := do
  validateListClient client
  resetClientError
  let args ← orFail args (failReturn .errParam "Invalid parameters to listSize")
  checkBinName args.1.bin
  withCleanup (listBody engine oracle args.1
    (mergeItems engine args.1 args.2) notAddedCode ignoreResult) cleanupErr

def insertItem (args : ListArgs) (index : Int64) (z : Zval) :
    Method Operation := do
  let value ← convertItem engine args.policy z invalidSerializer
    (failCode .errParam "Failed to convert value to add to list")
  pure { op := .listInsert, bin := some (cString args.bin), index := some index,
         value := .asVal value }

def listInsert (args : Option (ListArgs × Int64 × Zval)) : Method Reply := do
  resetClientError
  validateListClient client
  let args ← orFail args
    (failReturn .errParam "Invalid parameters to listInsert")
  checkBinName args.1.bin
  withCleanup (listBody engine oracle args.1
    (insertItem engine args.1 args.2.1 args.2.2) notAddedCode ignoreResult)
    cleanupErr

def insertItems (args : ListArgs) (index : Int64) (items : HashTable) :
    Method Operation := do
  let list ← convertItems engine args.policy items
    "Values to add must be a list" gotoCleanup
  pure { op := .listInsertItems, bin := some (cString args.bin),
         index := some index, value := .list list }

def listInsertItems (args : Option (ListArgs × Int64 × HashTable)) :
    Method Reply := do
  resetClientError
  validateListClient client
  let args ← orFail args
    (failReturn .errParam "Invalid parameters for listInsertItems")
  checkBinName args.1.bin
  withCleanup (listBody engine oracle args.1
    (insertItems engine args.1 args.2.1 args.2.2) notAddedCode ignoreResult)
    cleanupErr

/-- `listPop` looks at the serializer option, which it does not use. -/
def popOperation (args : ListArgs) (index : Int64) : Method Operation := do
  let _ ← requireSerializer engine args.policy invalidSerializer
  plainOperation .listPop args.bin (some index)

def listPop (args : Option (ListArgs × Int64)) : Method Reply := do
  resetClientError
  validateListClient client
  let args ← orFail args (failReturn .errParam "Invalid parameters to listPop")
  checkBinName args.1.bin
  setOutput .null
  withCleanup (listBody engine oracle args.1
    (popOperation engine args.1 args.2) notAddedCode
    (usePopped engine args.1.bin)) cleanupErr

def listPopRange (args : Option (ListArgs × Int64 × Int64)) :
    Method Reply := do
  resetClientError
  validateListClient client
  let args ← orFail args
    (failReturn .errParam "Invalid arguments for listPopRange")
  setOutput .null
  checkBinName args.1.bin
  withCleanup (listBody engine oracle args.1
    (plainOperation .listPopRange args.1.bin (some args.2.1) (some args.2.2))
    notAddedCode (usePopped engine args.1.bin)) cleanupErr

def listRemove (args : Option (ListArgs × Int64)) : Method Reply := do
  resetClientError
  validateListClient client
  let args ← orFail args
    (failReturn .errParam "Invalid arguments for listRemove")
  checkBinName args.1.bin
  withCleanup (listBody engine oracle args.1
    (plainOperation .listRemove args.1.bin (some args.2)) notAddedCode
    ignoreResult) cleanupErr

/-- `listRemoveRange` and `listTrim`. -/
def rangeMethod (op : OpType) (badArguments : String)
    (args : Option (ListArgs × Int64 × Int64)) : Method Reply := do
  resetClientError
  validateListClient client
  let args ← orFail args (failReturn .errParam badArguments)
  checkBinName args.1.bin
  withCleanup (listBody engine oracle args.1
    (plainOperation op args.1.bin (some args.2.1) (some args.2.2))
    notAddedCode ignoreResult) cleanupErr

def listRemoveRange (args : Option (ListArgs × Int64 × Int64)) : Method Reply :=
  rangeMethod engine client oracle .listRemoveRange
    "Invalid arguments for listRemoveRange" args

def listTrim (args : Option (ListArgs × Int64 × Int64)) : Method Reply :=
  rangeMethod engine client oracle .listTrim
    "Invalid arguments for listTrim" args

def listClear (args : Option ListArgs) : Method Reply := do
  resetClientError
  validateListClient client
  let args ← orFail args
    (failReturn .errParam "Invalid arguments for listClear")
  checkBinName args.bin
  withCleanup (listBody engine oracle args (plainOperation .listClear args.bin)
    notAddedCode ignoreResult) cleanupErr

def setItem (args : ListArgs) (index : Int64) (z : Zval) : Method Operation := do
  let value ← convertItem engine args.policy z
    (failCleanup .errParam "Invalid serializer value")
    (failCleanup .errParam "Failed to convert value to add to list")
  pure { op := .listSet, bin := some (cString args.bin), index := some index,
         value := .asVal value }

def listSet (args : Option (ListArgs × Int64 × Zval)) : Method Reply := do
  resetClientError
  validateListClient client
  let args ← orFail args (failReturn .errParam "Invalid parameters to listSet")
  checkBinName args.1.bin
  withCleanup (listBody engine oracle args.1
    (setItem engine args.1 args.2.1 args.2.2) notAddedErr ignoreResult)
    cleanupErr

/-- `listGet` clears the returned element after its setup. -/
def getOperation (args : ListArgs) (index : Int64) : Method Operation := do
  setOutput .null
  plainOperation .listGet args.bin (some index)

def listGet (args : Option (ListArgs × Int64)) : Method Reply := do
  resetClientError
  validateListClient client
  let args ← orFail args (failReturn .errParam "Invalid parameters to listGet")
  checkBinName args.1.bin
  withCleanup (listBody engine oracle args.1 (getOperation args.1 args.2)
    notAddedErr (useReturned engine args.1.bin (pure ()))) cleanupErr

def listGetRange (args : Option (ListArgs × Int64 × Int64)) :
    Method Reply := do
  resetClientError
  validateListClient client
  let args ← orFail args
    (failReturn .errParam "Invalid arguments for listGetRange")
  setOutput .null
  checkBinName args.1.bin
  withCleanup (listBody engine oracle args.1
    (plainOperation .listGetRange args.1.bin (some args.2.1) (some args.2.2))
    notAddedErr (useReturned engine args.1.bin (setOutput (.array []))))
    cleanupErr

end

end AerospikePhp
