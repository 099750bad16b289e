import AerospikePhp.KeyMethods
import Mathlib.Tactic

/-!
# Methods on many records

`getMany` reads a vector of results after the call, `existsMany` is called back
with it.  Both first convert all the keys.
-/

namespace AerospikePhp

open Procedure Method

section

variable (engine : Engine) (client : Client) (oracle : Oracle)

/-- The loop that converts the keys of a batch. -/
def convertKeys (notArray : String) : List Zval → Method (List AsKey)
  | [] => pure []
  | .array zKey :: zs => do
      let key ← requireKey engine zKey gotoCleanup
      let keys ← convertKeys notArray zs
      pure (key :: keys)
  | _ :: _ => failCleanup .errParam notArray

/-- The keys, with their digests, and their results. -/
def keyResults (keys : List AsKey) (answer : Answer) :
    List (AsKey × BatchResult) :=
  keys.mapIdx fun i key => (engine.digested key, answer.results i)

/-! ## getMany -/

structure GetManyArgs where
  keys : HashTable
  filter : Option HashTable
  policy : Option Zval

/-- The `bins` of a batch read, NULL without a filter. -/
def batchBinNames : Option HashTable → Except String (Option (List String))
  | none | some [] => .ok none
  | some filter =>
      match filterBinNames filter with
      | .ok names => .ok (some names)
      | .error message => .error message

def requireBatchBinNames (filter : Option HashTable) :
    Method (Option (List String)) :=
  match batchBinNames filter with
  | .ok names => pure names
  | .error message => failCleanup .errParam message

/-- A key for which there is no record. -/
def missingEntry (zKey : Zval) : Zval :=
  .array [(.str "key", zKey), (.str "metadata", .null), (.str "bins", .null)]

def getManyEntry (key : AsKey) (result : BatchResult) : Method Zval :=
  if result.result = .errRecordNotFound then do
    let zKey ← convert (asKeyToZval key true)
    runIf (zKey.status ≠ .ok) gotoCleanup
    pure (missingEntry (zKey.val.getD .undef))
  else do
    let zRecord ← convert (asRecordToZval engine.rt result.record key true)
    runIf (zRecord.status ≠ .ok) gotoCleanup
    pure (zRecord.val.getD .undef)

def getManyLoop : List (AsKey × BatchResult) → HashTable → Method Unit
  | [], _ => pure ()
  | (key, result) :: rest, table => do
      let entry ← getManyEntry engine key result
      setOutput (.array (table.push entry))
      getManyLoop rest (table.push entry)

def getManyWithBatchRead (policy : Option PolicyBatch)
    (bins : Option (List String)) (zKeys : HashTable) : Method Unit :=
  withCleanup (do
    setOutput (.array [])
    let keys ← convertKeys engine "Keys must be arrays"
      (HashTable.values zKeys)
    let answer ← issue oracle
      (.batchRead policy (keys.map fun key => ⟨key, bins⟩))
    cleanupOnError
    getManyLoop engine (keyResults engine keys answer) []) do
  let s ← Proc.get
  runIf (s.err.code ≠ .ok) (setOutput .null)

def getManyBody (policy : Option PolicyBatch) (args : GetManyArgs) :
    Method Unit := do
  let bins ← requireBatchBinNames args.filter
  getManyWithBatchRead engine oracle policy bins args.keys

def getMany (args : Option GetManyArgs) : Method Reply := do
  resetClientError
  requireConnection client
  let args ← orFail args
    (failReturn .errParam "Invalid parameters to getMany")
  setOutput .null
  let policy ← whenGiven args.policy
    (requirePolicy batchField
      (zvalToAsPolicyBatch engine.init.batch args.policy)
      (failReturn .errParam "Invalid batch policy"))
  withCleanup (getManyBody engine oracle policy args) cleanupErr

/-! ## existsMany -/

structure ExistsManyArgs where
  keys : HashTable
  policy : Option Zval

def existsEntry (zKey zMeta : Zval) : Zval :=
  .array [(.str "key", zKey), (.str "metadata", zMeta)]

/-- The loop stops, and the callback returns false, at the first result that
is neither a record nor missing. -/
def existsCallback : List (AsKey × BatchResult) → HashTable → Method Unit
  | [], _ => pure ()
  | (key, result) :: rest, table =>
      if result.result ≠ .ok ∧ result.result ≠ .errRecordNotFound then
        setErr .errClient "existsMany failed"
      else do
        let zKey ← convert (asKeyToZval key true)
        if zKey.status ≠ .ok then pure ()
        else do
          let entry := existsEntry (zKey.val.getD .undef)
            (if result.result = .ok then asRecordToZMetadata result.record
              else .null)
          setOutput (.array (table.push entry))
          existsCallback rest (table.push entry)

def existsManyBody (args : Option ExistsManyArgs) : Method Unit := do
  requireConnectionOrCleanup client
  resetClientError
  let args ← orFail args
    (failCleanup .errParam "Invalid arguments to existsMany")
  setOutput .null
  let policy ← whenGiven args.policy
    (requirePolicy batchField
      (zvalToAsPolicyBatch engine.init.batch args.policy)
      (failCleanup .errParam "Invalid batch policy"))
  let keys ← convertKeys engine "Invalid Key" (HashTable.values args.keys)
  setOutput (.array [])
  let answer ← issue oracle (.batchExists policy keys)
  runIf (answer.delivers = true) (existsCallback (keyResults engine keys answer) [])

def clearArrayOutput : Method Unit := do
  let s ← Proc.get
  match s.output with
  | some (.array _) => setOutput .null
  | _ => pure ()

def existsManyCleanup : Method Reply := do
  let s ← Proc.get
  runIf (s.err.code ≠ .ok) do
    reportErr
    clearArrayOutput
  returnErrCode

def existsMany (args : Option ExistsManyArgs) : Method Reply :=
  withCleanup (existsManyBody engine client oracle args) existsManyCleanup

end

end AerospikePhp
