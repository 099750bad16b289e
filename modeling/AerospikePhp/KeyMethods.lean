import AerospikePhp.Method
import Mathlib.Tactic

/-!
# Methods on one record

`get`, `exists`, `put`, `remove` and `removeBin`.  The arguments are those that
`zend_parse_parameters` gives; `none` stands for its failure.
-/

namespace AerospikePhp

open Procedure

namespace Method

/-- Read a value when the argument is given. -/
def whenGiven {α : Type} (z : Option Zval) (load : Method α) :
    Method (Option α) :=
  match z with
  | some _ => do
      let value ← load
      pure (some value)
  | none => pure none

/-- Leave for `CLEANUP` when the error object holds an error. -/
def cleanupOnError : Method Unit := do
  let s ← Proc.get
  runIf (s.err.code ≠ .ok) gotoCleanup

/-- Convert a value into the parameter that is passed by reference. -/
def writeOutput (converter : AsError → Converted Zval) : Method AsStatus := do
  let converted ← convert converter
  forSome converted.val setOutput
  pure converted.status

end Method

open Method

section

variable (engine : Engine) (client : Client) (oracle : Oracle)

/-! ## Reading -/

/-- The bin names of a filter, or the text of the error. -/
def filterBinNames : HashTable → Except String (List String)
  | [] => .ok []
  | (_, .string bin) :: bins =>
      if bin.length > asBinNameMaxLen then .error "Bin name too long"
      else
        match filterBinNames bins with
        | .ok names => .ok (cString bin :: names)
        | .error message => .error message
  | (_, _) :: _ => .error "Bin names must be strings"

structure GetArgs where
  key : HashTable
  filter : Option Zval
  policy : Option Zval

/-- `as_get_with_bins`. -/
def asGetWithBins (policy : PolicyRead) (key : AsKey) (bins : HashTable) :
    Method Answer :=
  if HashTable.hashtableIsList bins = false then
    failCleanup .errParam "Bins must be a list"
  else
    match filterBinNames bins with
    | .error message => failCleanup .errParam message
    | .ok names => issue oracle (.keySelect policy key names)

def readWithFilter (policy : PolicyRead) (key : AsKey) (filter : Option Zval) :
    Method Answer :=
  match filter with
  | none => issue oracle (.keyGet policy key)
  | some (.array bins) => asGetWithBins oracle policy key bins
  | some _ =>
      failReturn .errParam "Filter bins must be an array if provided"

def policyKeySend : ℕ := 1

def getBody (policy : PolicyRead) (key : AsKey) (filter : Option Zval) :
    Method Unit := do
  let answer ← readWithFilter oracle policy key filter
  cleanupOnError
  let record ← orFail answer.record crash
  let _ ← writeOutput (asRecordToZval engine.rt record (engine.digested key)
    (policy.key = policyKeySend))

def getCleanup : Method Reply := do
  let s ← Proc.get
  runIf (s.err.code ≠ .ok) do
    reportErr
    setOutput (.array [])
  returnErrCode

/-- Here the guard records the error and goes on. -/
def get (args : Option GetArgs) : Method Reply := do
  resetClientError
  let status ← checkObjectAndConnection client
  runIf (status ≠ .ok) reportErr
  let args ← orFail args
    (failReturn .errParam "Invalid parameters to Aerospike::get")
  setOutput .null
  runIf (client.hasClient = false) crash
  let policy ← requirePolicy readField
    (zvalToAsPolicyRead engine.init.read args.policy)
    (failReturn .errParam "Invalid read read_policy")
  let key ← requireKey engine args.key (failReturn .errParam "Invalid key")
  withCleanup (getBody engine oracle policy key args.filter) getCleanup

structure ExistsArgs where
  key : HashTable
  policy : Option Zval

def «exists» (args : Option ExistsArgs) : Method Reply := do
  resetClientError
  requireConnection client
  let args ← orFail args
    (failReturn .errParam "Invalid parameters to exists")
  errorInit
  let key ← requireKey engine args.key
    (failReturn .errParam "Failed to convert key")
  setOutput .null
  let policy ← requirePolicy readField
    (zvalToAsPolicyRead engine.init.read args.policy)
    (failReturn .errParam "Invalid read policy")
  let answer ← issue oracle (.keyExists policy key)
  forSome answer.record fun record => setOutput (asRecordToZMetadata record)
  let s ← Proc.get
  runIf (s.err.code ≠ .ok) do
    reportErr
    setOutput .null
  returnErrCode

/-! ## Writing -/

structure PutArgs where
  key : HashTable
  store : Zval
  ttl : Option Zval
  policy : Option Zval

/-- The ttl argument, once it is known to be null or an integer. -/
def putTtl : Option Zval → Option (Option Int64)
  | none | some .null => some none
  | some (.long n) => some (some n)
  | some _ => none

/-- `set_record_generation_from_write_policy` on a record. -/
def setRecordGeneration (zPolicy : Option Zval) (record : AsRecord) :
    AsStatus × AsRecord :=
  let gen := setRecordGenerationFromWritePolicy zPolicy record.gen
  (gen.1, { record with gen := gen.2 })

def recordWithTtl (record : AsRecord) : Option Int64 → AsRecord
  | none => record
  | some ttl => { record with ttl := toUint32 ttl }

/-- Note the `return` in the middle: a bad generation leaves the method with
the error object set but not reported. -/
def putBody (bins : HashTable) (ttl : Option Int64) (args : PutArgs) :
    Method Unit := do
  let policy ← whenGiven args.policy
    (requirePolicy writeField
      (zvalToAsPolicyWrite engine.init.write args.policy)
      (failCleanup .errParam "Invalid policy"))
  let key ← requireKey engine args.key (failCleanup .errParam "Invalid Key")
  let serializer := setSerializerFromPolicyHash engine.iniSerializer
    (toInt32 engine.iniSerializer) args.policy
  runIf (serializer.1 ≠ .ok) (failCleanup .errParam "Invalid serializer value")
  let converted ← convert (zHashtableToAsRecord engine.rt serializer.2 bins)
  runIf (converted.status ≠ .ok) gotoCleanup
  let record ← orFail converted.val crash
  let gen := setRecordGeneration args.policy (recordWithTtl record ttl)
  runIf (gen.1 ≠ .ok) do
    setErr .errParam "generation policy"
    returnLong .errParam
  let _ ← issue oracle (.keyPut policy key gen.2)

def put (args : Option PutArgs) : Method Reply := do
  resetClientError
  requireConnection client
  let args ← orFail args (failReturn .errParam "Invalid parameters to put")
  let ttl ← orFail (putTtl args.ttl)
    (failReturn .errParam "ttl must be null or long")
  let bins ← orFail (match args.store with
      | .array bins => some bins
      | _ => none)
    (failReturn .errParam "Record must be an array")
  runIf (HashTable.numElements bins = 0)
    (failReturn .errParam "Array of bins must not be empty")
  withCleanup (putBody engine oracle bins ttl args) cleanupErr

structure RemoveArgs where
  key : HashTable
  options : Option Zval

/-- The remove policy; the conversion can crash. -/
def requireRemovePolicy (options : Option Zval) : Method PolicyRemove := do
  let s ← Proc.get
  let converted ← orFail
    (zvalToAsPolicyRemove engine.rt engine.init.remove options
      s.policies.remove) crash
  requirePolicy removeField (fun _ => converted)
    (failReturn .errParam "Invalid remove policy")

/-- The status that the client call returned, after the report. -/
def returnAnswer (answer : Answer) : Method Reply := do
  let s ← Proc.get
  runIf (s.err.code ≠ .ok) reportErr
  returnLong answer.err.code

def remove (args : Option RemoveArgs) : Method Reply := do
  resetClientError
  requireConnection client
  let args ← orFail args
    (failReturn .errParam "Invalid Parameters for remove")
  let policy ← requireRemovePolicy engine args.options
  errorInit
  let key ← requireKey engine args.key do
    let s ← Proc.get
    updateClientError s.err.code "Failed to create key"
    returnLong .errParam
  let answer ← issue oracle (.keyRemove policy key)
  returnAnswer answer

structure RemoveBinArgs where
  key : HashTable
  bins : HashTable
  policy : Option Zval

/-- The loop over the bin names, which are read without a look at their type.
A name that is too long is not added. -/
def setNilLoop (capacity : ℕ) : List Zval → List (String × AsVal) →
    Option (List (String × AsVal))
  | [], bins => some bins
  | .string name :: names, bins =>
      setNilLoop capacity names
        (if strlen name > asBinNameMaxLen then bins
          else asRecordSet capacity bins (cString name) .nil)
  | _ :: _, _ => none

/-- The bins of the record that `as_record_inita` makes for the names. -/
def setNilBins (names : HashTable) : Option (List (String × AsVal)) :=
  setNilLoop (binCapacity names.numElements) (HashTable.values names) []

def removeBin (args : Option RemoveBinArgs) : Method Reply := do
  resetClientError
  requireConnection client
  let args ← orFail args
    (failReturn .errParam "Invalid arguments to removeBin")
  let policy ← requirePolicy writeField
    (zvalToAsPolicyWrite engine.init.write args.policy)
    (failReturn .errParam "Invalid policy to removeBin")
  let key ← requireKey engine args.key (failReturn .errParam "Invalid key")
  let gen := setRecordGeneration args.policy asRecordNew
  runIf (gen.1 ≠ .ok) (failReturn .errParam "generation policy")
  runIf (HashTable.hashtableIsList args.bins = false)
    (failReturn .errParam "list of bins must be an array")
  let bins ← orFail (setNilBins args.bins) crash
  errorInit
  let answer ← issue oracle (.keyPut (some policy) key { gen.2 with bins := bins })
  returnAnswer answer

end

end AerospikePhp
