import AerospikePhp.OperateRequests
import Mathlib.Tactic

/-!
# What the methods on one record send

The verdicts of `put`, `remove`, `removeBin`, `touch`, `append`, `prepend` and
`increment`.  Two of these can crash.
-/

namespace AerospikePhp

open Procedure Method Proc

section

variable (engine : Engine) (client : Client) (oracle : Oracle)
variable (policies : Policies)

def orCrash {α : Type} : Option α → Verdict α
  | some value => .ok value
  | none => .error .crashed

/-- The record that a table of bins converts to. -/
def recordOf (serializerType : SerializerType) (bins : HashTable) :
    Verdict AsRecord :=
  let converted := zHashtableToAsRecord engine.rt serializerType bins .init
  if converted.status = .ok then present converted.val else .error .failed

/-- The record with the generation of the options array. -/
def recordWithGeneration (zPolicy : Option Zval) (record : AsRecord) :
    Verdict AsRecord :=
  if (setRecordGeneration zPolicy record).1 = .ok then
    .ok (setRecordGeneration zPolicy record).2
  else .error .failed

def storeBins : Zval → Option HashTable
  | .array bins => some bins
  | _ => none

def putVerdict (args : PutArgs) : Verdict Request := do
  ensure client.Ready
  let ttl ← present (putTtl args.ttl)
  let bins ← present (storeBins args.store)
  ensure (HashTable.numElements bins ≠ 0)
  let policy ← ifGiven args.policy
    (policyOf (zvalToAsPolicyWrite engine.init.write args.policy policies.write))
  let key ← present (keyOf engine.keyInit args.key)
  let serializer ← serializerOf engine args.policy
  let record ← recordOf engine serializer bins
  let record ← recordWithGeneration args.policy (recordWithTtl record ttl)
  .ok (.keyPut policy key record)

def removePolicyOf (options : Option Zval) : Verdict PolicyRemove := do
  let converted ← orCrash (zvalToAsPolicyRemove engine.rt engine.init.remove
    options policies.remove)
  policyOf converted

def removeVerdict (args : RemoveArgs) : Verdict Request := do
  ensure client.Ready
  let policy ← removePolicyOf engine policies args.options
  let key ← present (keyOf engine.keyInit args.key)
  .ok (.keyRemove policy key)

def removeBinVerdict (args : RemoveBinArgs) : Verdict Request := do
  ensure client.Ready
  let policy ← policyOf
    (zvalToAsPolicyWrite engine.init.write args.policy policies.write)
  let key ← present (keyOf engine.keyInit args.key)
  let record ← recordWithGeneration args.policy asRecordNew
  ensure (HashTable.hashtableIsList args.bins = true)
  let bins ← orCrash (setNilBins args.bins)
  .ok (.keyPut (some policy) key { record with bins := bins })

def touchVerdict (args : TouchArgs) : Verdict Request := do
  ensure client.Ready
  let key ← present (keyOf engine.keyInit args.key)
  let policy ← operatePolicyOf engine policies args.policy
  let gen ← generationOf args.policy
  .ok (.keyOperate (some policy) key
    (oneOperation (oracle.addOk 0) { op := .touch } gen (toUint32 args.ttl)))

/-- The verdict of `append` and `prepend`. -/
def stringOpVerdict (op : OpType) (args : StringOpArgs) : Verdict Request := do
  ensure client.Ready
  ensure (args.bin.length ≤ asBinNameMaxLen)
  let key ← present (keyOf engine.keyInit args.key)
  let policy ← operatePolicyOf engine policies args.policy
  let gen ← generationOf args.policy
  let ttl ← ttlOf args.policy
  .ok (.keyOperate (some policy) key (oneOperation (oracle.addOk 0)
    { op, bin := some (cString args.bin), value := .string (cString args.value) }
    gen ttl))

def incrementVerdict (args : IncrementArgs) : Verdict Request := do
  ensure client.Ready
  let value ← present (incrValue engine.rt (some args.offset))
  ensure (args.bin.length ≤ asBinNameMaxLen)
  let key ← present (keyOf engine.keyInit args.key)
  let policy ← operatePolicyOf engine policies args.policy
  let gen ← generationOf args.policy
  let ttl ← ttlOf args.policy
  .ok (.keyOperate (some policy) key (oneOperation (oracle.addOk 0)
    { op := .incr, bin := some (cString args.bin), value } gen ttl))

end

section

variable {engine : Engine} {client : Client} {oracle : Oracle}
variable {policies : Policies} {inner : Bool} {p : Assertion}

/-! ## Pieces -/

theorem yields_orCrash {α : Type} {value : Option α} :
    Yields inner p (orFail value crash) (orCrash value) p := by
  cases value with
  | some v => exact yields_pure v
  | none => exact fun s _ => ⟨.crash, s, rfl, rfl, trivial⟩

/-- The status of a record conversion is the code in the error object. -/
theorem asRecordLoop_status (rt : Runtime) (serializerType : SerializerType)
    (capacity : ℕ) (table : HashTable) (record : AsRecord) (err : AsError) :
    (asRecordLoop rt serializerType capacity table record err).status =
        (asRecordLoop rt serializerType capacity table record err).err.code ∧
      (asRecordLoop rt serializerType capacity table record err).val.isSome := by
  induction table generalizing record err with
  | nil => simp [asRecordLoop]
  | cons entry entries ih =>
      obtain ⟨key, z⟩ := entry
      cases key with
      | idx index => simp [asRecordLoop, AsError.update]
      | str name =>
          unfold asRecordLoop
          by_cases hlong : name.length > asBinNameMaxLen
          · simp [if_pos hlong, AsError.update]
          · rw [if_neg hlong]
            by_cases hadded : (addZvalToRecord rt serializerType capacity z record
                (cString name) err).2.code ≠ .ok
            · simp [if_pos hadded]
            · simp only [if_neg hadded]
              exact ih _ _

theorem yields_requireRecord {serializerType : SerializerType}
    {bins : HashTable} {failure : Method AsRecord} :
    Yields true clean (do
        let converted ← convert (zHashtableToAsRecord engine.rt serializerType bins)
        runIf (converted.status ≠ .ok) gotoCleanup
        orFail converted.val failure)
      (recordOf engine serializerType bins) anything := by
  have hstatus := asRecordLoop_status engine.rt serializerType
    (binCapacity bins.numElements) bins asRecordNew .init
  refine yields_seq yields_convert ?_
  rintro s hs
  unfold recordOf
  by_cases hok : (zHashtableToAsRecord engine.rt serializerType bins
      .init).status = .ok
  · obtain ⟨record, hrecord⟩ := Option.isSome_iff_exists.mp hstatus.2
    have hval : (zHashtableToAsRecord engine.rt serializerType bins .init).val =
      some record := hrecord
    dsimp only
    rw [runIf_neg (not_not.mpr hok), if_pos hok, hval]
    exact ⟨s, rfl, rfl, trivial⟩
  · dsimp only
    rw [runIf_pos hok, if_neg hok]
    refine ⟨.cleanup, s, rfl, rfl, rfl, ?_⟩
    rw [hs]
    exact hstatus.1 ▸ hok

instance : Fails inner (do
    setErr .errParam "generation policy"
    returnLong .errParam : Method Unit) :=
  ⟨fun _ _ => ⟨.ret (.long .errParam), _, rfl, rfl, fun h => by cases h⟩⟩

instance : Fails inner (do
    let s ← Proc.get
    updateClientError s.err.code "Failed to create key"
    returnLong .errParam : Method AsKey) :=
  ⟨fun _ _ => ⟨.ret (.long .errParam), _, rfl, rfl, fun h => by cases h⟩⟩

theorem yields_recordGeneration {zPolicy : Option Zval} {record : AsRecord}
    {failure : Method Unit} [Fails inner failure] :
    Yields inner p (do
        runIf ((setRecordGeneration zPolicy record).1 ≠ .ok) failure
        pure (setRecordGeneration zPolicy record).2)
      (recordWithGeneration zPolicy record) p :=
  yields_checked not_not.symm _

/-- The three statements that make the record. -/
theorem sends_record {after : CallState → CallState → Prop}
    {serializerType : SerializerType} {bins : HashTable}
    {next : AsRecord → Method Unit} {verdicts : AsRecord → Verdict Request}
    (hnext : ∀ record, Sends after true anything (next record)
      (verdicts record)) :
    Sends after true clean (do
        let converted ← convert (zHashtableToAsRecord engine.rt serializerType bins)
        runIf (converted.status ≠ .ok) gotoCleanup
        let record ← orFail converted.val crash
        next record)
      (recordOf engine serializerType bins >>= verdicts) := by
  have hrecord := @yields_requireRecord engine serializerType bins crash
  have hsends := sends_bind hrecord hnext
  simp only [bind_assoc] at hsends
  exact hsends

/-- A check whose condition also gives the value to go on with. -/
theorem sends_checked {α β : Type} {after : CallState → CallState → Prop}
    {good bad : Prop} [Decidable good] [Decidable bad] {failure : Method Unit}
    [Fails inner failure] (hgood : good ↔ ¬ bad) {value : β} {next : Method α}
    {verdicts : β → Verdict Request}
    (hnext : Sends after inner p next (verdicts value)) :
    Sends after inner p (do
        runIf bad failure
        next)
      ((if good then .ok value else .error .failed) >>= verdicts) := by
  have hcheck : Yields inner p (runIf bad failure) (ensure good) p :=
    yields_check hgood
  have hsends := sends_bind hcheck fun _ => hnext
  unfold ensure at hsends
  by_cases hg : good
  · rw [if_pos hg] at hsends ⊢
    exact hsends
  · rw [if_neg hg] at hsends ⊢
    exact hsends

theorem yields_requireRemovePolicy {options : Option Zval} :
    Yields inner (cleanWith policies) (requireRemovePolicy engine options)
      (removePolicyOf engine policies options) clean := by
  rintro s ⟨herr, rfl⟩
  unfold requireRemovePolicy removePolicyOf
  rw [run_bind_ok (run_get s)]
  cases zvalToAsPolicyRemove engine.rt engine.init.remove options
      s.policies.remove with
  | none => exact ⟨.crash, s, rfl, rfl, trivial⟩
  | some converted =>
      have hpolicy := @yields_requirePolicy inner _ removeField
        (fun _ => converted) (failReturn .errParam "Invalid remove policy") _
        s.policies
      exact hpolicy s ⟨herr, rfl⟩

/-! ## The methods -/

theorem put_sends (args : PutArgs) :
    Sends SameRequests false (cleanWith policies)
      (put engine client oracle (some args))
      (putVerdict engine client policies args) := by
  unfold put putVerdict
  refine sends_seq yields_resetClientError ?_
  refine sends_bind yields_requireConnection fun _ => ?_
  refine sends_seq (yields_pure args) ?_
  refine sends_bind yields_orFail fun ttl => ?_
  refine sends_bind (yields_orFail) fun bins => ?_
  refine sends_bind (yields_check Iff.rfl) fun _ => ?_
  refine sends_withCleanup ?_ reports_cleanupErr
  unfold putBody
  refine sends_bind (yields_whenGiven yields_requirePolicy
    fun _ _ => And.left) fun policy => ?_
  refine sends_bind yields_requireKey fun key => ?_
  refine sends_checked not_not.symm ?_
  refine sends_record fun record => ?_
  exact sends_checked not_not.symm sends_issue

theorem remove_sends (args : RemoveArgs) :
    Sends SameRequests false (cleanWith policies)
      (remove engine client oracle (some args))
      (removeVerdict engine client policies args) := by
  unfold remove removeVerdict
  refine sends_seq yields_resetClientError ?_
  refine sends_bind yields_requireConnection fun _ => ?_
  refine sends_seq (yields_pure args) ?_
  refine sends_bind yields_requireRemovePolicy fun policy => ?_
  refine sends_seq yields_errorInit_any ?_
  exact sends_bind yields_requireKey fun key => sends_issue

theorem removeBin_sends (args : RemoveBinArgs) :
    Sends SameRequests false (cleanWith policies)
      (removeBin engine client oracle (some args))
      (removeBinVerdict engine client policies args) := by
  unfold removeBin removeBinVerdict
  refine sends_seq yields_resetClientError ?_
  refine sends_bind yields_requireConnection fun _ => ?_
  refine sends_seq (yields_pure args) ?_
  refine sends_bind yields_requirePolicy fun policy => ?_
  refine sends_bind yields_requireKey fun key => ?_
  refine sends_checked not_not.symm ?_
  refine sends_bind (yields_check (by simp)) fun _ => ?_
  refine sends_bind yields_orCrash fun bins => ?_
  exact sends_seq yields_errorInit_any sends_issue

theorem touch_sends (args : TouchArgs) :
    Sends SameRequests false (cleanWith policies)
      (touch engine client oracle (some args))
      (touchVerdict engine client oracle policies args) := by
  unfold touch touchVerdict
  refine sends_seq yields_resetClientError ?_
  refine sends_bind (yields_validate (by decide)) fun _ => ?_
  refine sends_seq (yields_pure args) (sends_withCleanup ?_ reports_cleanupErr)
  unfold touchBody
  refine sends_bind yields_requireKey fun key => ?_
  refine sends_bind yields_requireOperatePolicy fun policy => ?_
  exact sends_bind yields_requireGeneration fun gen => sends_issue

theorem append_sends (args : StringOpArgs) :
    Sends SameRequests false (cleanWith policies)
      (append engine client oracle (some args))
      (stringOpVerdict engine client oracle policies .append args) := by
  unfold append stringOpVerdict
  refine sends_withCleanup ?_ reports_cleanupErr
  unfold appendBody
  refine sends_bind yields_requireConnectionOrCleanup fun _ => ?_
  refine sends_seq yields_resetClientError ?_
  refine sends_seq (yields_pure args) ?_
  refine sends_bind (yields_check not_lt.symm) fun _ => ?_
  refine sends_bind yields_requireKey fun key => ?_
  refine sends_bind yields_requireOperatePolicy fun policy => ?_
  refine sends_bind yields_requireGeneration fun gen => ?_
  exact sends_bind yields_requireTtl fun ttl => sends_issue

theorem prepend_sends (args : StringOpArgs) :
    Sends SameRequests false (cleanWith policies)
      (prepend engine client oracle (some args))
      (stringOpVerdict engine client oracle policies .prepend args) := by
  unfold prepend stringOpVerdict
  refine sends_seq yields_resetClientError ?_
  refine sends_bind (yields_validate (by decide)) fun _ => ?_
  refine sends_seq (yields_pure args) ?_
  refine sends_bind (yields_check not_lt.symm) fun _ => ?_
  refine sends_bind yields_requireKey fun key => ?_
  refine sends_bind yields_requireOperatePolicy fun policy => ?_
  refine sends_withCleanup ?_ reports_cleanupErr
  unfold prependBody
  refine sends_bind yields_requireGeneration fun gen => ?_
  exact sends_bind yields_requireTtl fun ttl => sends_issue

theorem yields_requireIncrement {offset : Zval} :
    Yields inner p (requireIncrement engine offset)
      (present (incrValue engine.rt (some offset))) p := by
  unfold requireIncrement
  cases offset <;> exact yields_orFail

theorem increment_sends (args : IncrementArgs) :
    Sends SameRequests false (cleanWith policies)
      (increment engine client oracle (some args))
      (incrementVerdict engine client oracle policies args) := by
  unfold increment incrementVerdict
  refine sends_seq yields_resetClientError ?_
  refine sends_bind (yields_validate (by decide)) fun _ => ?_
  refine sends_seq (yields_pure args) ?_
  refine sends_bind yields_requireIncrement fun value => ?_
  refine sends_bind (yields_check not_lt.symm) fun _ => ?_
  refine sends_bind yields_requireKey fun key => ?_
  refine sends_bind yields_requireOperatePolicy fun policy => ?_
  refine sends_withCleanup ?_ reports_returnErrCode
  unfold incrementBody
  refine sends_bind yields_requireGeneration fun gen => ?_
  exact sends_bind yields_requireTtl fun ttl => sends_issue

end

end AerospikePhp
