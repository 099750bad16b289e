import AerospikePhp.ListServer
import AerospikePhp.ListReads
import AerospikePhp.RecordRuns
import Mathlib.Tactic

/-!
# Runs of the list methods

How a call of a list method goes on from the answer to its request: what it
returns, and what it leaves in the variable that is passed by reference.
-/

namespace AerospikePhp

open Procedure Method Proc ListCommands

set_option synthInstance.maxSize 1024

section

variable {engine : Engine} {client : Client} {oracle : Oracle}
variable {policies : Policies}

/-- What the method does with the answer. -/
def SingleOp.useResult (engine : Engine) (bin : String) :
    SingleOp → Answer → Method Unit
  | listSize => useSize bin
  | listPop _ | listPopRange _ _ => usePopped engine bin
  | listGet _ => useReturned engine bin (pure ())
  | listGetRange _ _ => useReturned engine bin (setOutput (.array []))
  | _ => ignoreResult

/-- The verdict of the method on its arguments. -/
def SingleOp.verdict (engine : Engine) (client : Client) (oracle : Oracle)
    (policies : Policies) (args : ListArgs) (op : SingleOp) : Verdict Request :=
  listVerdict engine client oracle policies args
    (op.operation engine args.policy args.bin) op.checked

/-! ## Up to the request -/

/-- The start that the list methods share. -/
theorem started_delivers {rest : Answer → Method Reply} {A : Type} {args : A}
    {failure : Method A} [Moves KeepsBlank failure] {next : A → Method Reply}
    {verdict : Verdict Request}
    (hnext : Delivers oracle (cleanWith policies) rest (next args) verdict) :
    Delivers oracle (cleanWith policies) rest (do
        resetClientError
        validateListClient client
        let args ← orFail (some args) failure
        next args) (do
        ensure client.Ready
        verdict) := by
  refine delivers_seq yields_resetClientError ?_
  refine delivers_bind yields_validateList fun _ => ?_
  exact delivers_seq (yields_pure args) hnext

/-- Their end, from the check of the bin name on. -/
theorem checkedBody_delivers {args : ListArgs} {makeOperation : Method Operation}
    {op : Verdict Operation} {checked : Bool} {notAdded : Method Unit}
    {useResult : Answer → Method Unit} [Moves KeepsBlank makeOperation]
    [Moves KeepsBlank notAdded]
    (hop : Yields true clean makeOperation op anything)
    (hnot : NotAdded checked notAdded) :
    Delivers oracle (cleanWith policies)
      (fun answer => withCleanup (useResult answer) cleanupErr) (do
        checkBinName args.bin
        withCleanup (listBody engine oracle args makeOperation notAdded useResult)
          cleanupErr) (do
        ensure (args.bin.length ≤ asBinNameMaxLen)
        let key ← present (keyOf engine.keyInit args.key)
        let policy ← operatePolicyOf engine policies args.policy
        let gen ← generationOf args.policy
        let ttl ← ttlOf args.policy
        let op ← op
        ensure (checked = true → oracle.addOk 0 = true)
        .ok (.keyOperate (some policy) key
          (oneOperation (oracle.addOk 0) op gen ttl))) := by
  refine delivers_bind yields_checkBinName fun _ => ?_
  rw [listBody_eq]
  exact delivers_withCleanup (yields_listRequest hop hnot) reports_cleanupErr

instance (args : ListArgs) (z : Zval) :
    Moves KeepsBlank (appendItem engine args z) := by
  unfold appendItem
  infer_instance

instance (args : ListArgs) (items : HashTable) :
    Moves KeepsBlank (mergeItems engine args items) := by
  unfold mergeItems
  infer_instance

instance (args : ListArgs) (index : Int64) (z : Zval) :
    Moves KeepsBlank (insertItem engine args index z) := by
  unfold insertItem
  infer_instance

instance (args : ListArgs) (index : Int64) (items : HashTable) :
    Moves KeepsBlank (insertItems engine args index items) := by
  unfold insertItems
  infer_instance

instance (args : ListArgs) (index : Int64) (z : Zval) :
    Moves KeepsBlank (setItem engine args index z) := by
  unfold setItem
  infer_instance

/-- Each of the list methods goes on from its answer. -/
theorem SingleOp.delivers {args : ListArgs} {op : SingleOp}
    {command : Command Zval} (hcommand : op.command = some command) :
    Delivers oracle (cleanWith policies)
      (fun answer => withCleanup (op.useResult engine args.bin answer) cleanupErr)
      ((op.call args).method engine client oracle)
      (op.verdict engine client oracle policies args) := by
  cases op with
  | append _ | prepend _ | increment _ => simp [SingleOp.command] at hcommand
  | listSize =>
      refine started_delivers (delivers_seq (yields_setOutput _) ?_)
      exact checkedBody_delivers yields_plainOperation rfl
  | listAppend z =>
      refine started_delivers (checkedBody_delivers
        (yields_valueOperation fun s herr => ?_) rfl)
      exact ⟨.cleanup, _, rfl, rfl, rfl, herr⟩
  | listMerge items =>
      refine delivers_bind yields_validateList fun _ => ?_
      refine delivers_seq yields_resetClientError ?_
      refine delivers_seq (yields_pure (args, items)) ?_
      exact checkedBody_delivers yields_itemsOperation notAdded_code
  | listInsert index z =>
      exact started_delivers (checkedBody_delivers
        (yields_valueOperation haltsAt_of_fails) notAdded_code)
  | listInsertItems index items =>
      exact started_delivers (checkedBody_delivers yields_itemsOperation
        notAdded_code)
  | listPop index => exact listPop_delivers args index
  | listPopRange index count => exact listPopRange_delivers args index count
  | listRemove index =>
      exact started_delivers (checkedBody_delivers yields_plainOperation
        notAdded_code)
  | listRemoveRange index count =>
      exact started_delivers (checkedBody_delivers yields_plainOperation
        notAdded_code)
  | listTrim index count =>
      exact started_delivers (checkedBody_delivers yields_plainOperation
        notAdded_code)
  | listClear =>
      exact started_delivers (checkedBody_delivers yields_plainOperation
        notAdded_code)
  | listSet index z =>
      exact started_delivers (checkedBody_delivers
        (yields_valueOperation haltsAt_of_fails) notAdded_err)
  | listGet index => exact listGet_delivers args index
  | listGetRange index count => exact listGetRange_delivers args index count

/-- Each of the list methods sends what its verdict says. -/
theorem SingleOp.sends {args : ListArgs} {op : SingleOp} {command : Command Zval}
    (hcommand : op.command = some command) :
    Sends SameRequests false (cleanWith policies)
      ((op.call args).method engine client oracle)
      (op.verdict engine client oracle policies args) := by
  cases op with
  | append _ | prepend _ | increment _ => simp [SingleOp.command] at hcommand
  | listSize => exact listSize_sends args
  | listAppend z => exact listAppend_sends args z
  | listMerge items => exact listMerge_sends args items
  | listInsert index z => exact listInsert_sends args index z
  | listInsertItems index items => exact listInsertItems_sends args index items
  | listPop index => exact listPop_sends args index
  | listPopRange index count => exact listPopRange_sends args index count
  | listRemove index => exact listRemove_sends args index
  | listRemoveRange index count => exact rangeMethod_sends _ _ args index count
  | listTrim index count => exact rangeMethod_sends _ _ args index count
  | listClear => exact listClear_sends args
  | listSet index z => exact listSet_sends args index z
  | listGet index => exact listGet_sends args index
  | listGetRange index count => exact listGetRange_sends args index count

/-! ## From the answer on -/

/-- A call ends with the status of its answer, if that is an error. -/
theorem SingleOp.use_failed {op : SingleOp} {command : Command Zval}
    (hcommand : op.command = some command) {bin : String} {answer : Answer}
    {s : CallState} (herr : s.err = answer.err) (hcode : answer.err.code ≠ .ok) :
    ((withCleanup (op.useResult engine bin answer) cleanupErr).call s).reply =
      some (.long answer.err.code) := by
  have hrefused : ∀ use : Answer → Method Unit,
      (use answer).run s = (.error .cleanup, s) ∨ (use answer).run s = (.ok (), s) →
      ((withCleanup (use answer) cleanupErr).call s).reply =
        some (.long answer.err.code) := by
    rintro use (hrun | hrun)
    · rw [(call_withCleanupErr hrun (.inr rfl)).1, herr]
    · rw [(call_withCleanupErr hrun (.inl rfl)).1, herr]
  refine hrefused (op.useResult engine bin) ?_
  have hfailed : s.err.code ≠ .ok := by rwa [herr]
  cases op with
  | append _ | prepend _ | increment _ => simp [SingleOp.command] at hcommand
  | listSize => exact .inl (run_bind_error (cleanupOnError_run_error hfailed))
  | listPop _ | listPopRange _ _ =>
      exact .inl (run_bind_error (cleanupOnError_run_error hfailed))
  | listGet _ | listGetRange _ _ =>
      exact .inl (run_bind_error (cleanupOnError_run_error hfailed))
  | listAppend _ | listMerge _ | listInsert _ _ | listInsertItems _ _
  | listRemove _ | listRemoveRange _ _ | listTrim _ _ | listClear
  | listSet _ _ => exact .inr rfl

end

end AerospikePhp
