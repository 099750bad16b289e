import AerospikePhp.ListReads
import Mathlib.Tactic

/-!
# Batches

What `getMany` and `existsMany` make of the keys of a batch and of the results
that the client delivers for them.  Both give up on a key that does not
convert, but a failure that the key converter keeps to itself ends the call
with OK; and `getMany` takes every result other than a missing record for a
record.
-/

namespace AerospikePhp

open Procedure Method Proc List

/-! ## Keys -/

/-- What becomes of the keys of a batch: all convert, or the first that does
not is reported in the error object, or it is not. -/
inductive KeysEnd where
  | converted (keys : List AsKey)
  | refused
  | lost

/-- The array has what the key converter looks for, but its switch or
`as_key_init` gives the key up, which only the status tells. -/
def KeyLost (keyInit : AsKey → Bool) (hash : HashTable) : Prop :=
  match keyEntries hash with
  | some (_, _, .digest digest) =>
      digest.length = asDigestValueSize ∧ keyOf keyInit hash = none
  | some (_, _, .userKey _) => keyOf keyInit hash = none
  | none => False

instance (keyInit : AsKey → Bool) (hash : HashTable) :
    Decidable (KeyLost keyInit hash) := by
  unfold KeyLost
  split <;> infer_instance

def keysEnd (keyInit : AsKey → Bool) : List Zval → KeysEnd
  | [] => .converted []
  | .array hash :: zs =>
      match keyOf keyInit hash with
      | some key =>
          match keysEnd keyInit zs with
          | .converted keys => .converted (key :: keys)
          | .refused => .refused
          | .lost => .lost
      | none => if KeyLost keyInit hash then .lost else .refused
  | _ :: _ => .refused

/-- The zval is a key array that converts. -/
def ConvertsTo (keyInit : AsKey → Bool) (z : Zval) (key : AsKey) : Prop :=
  ∃ hash, z = .array hash ∧ keyOf keyInit hash = some key

section

variable {keyInit : AsKey → Bool}

theorem zHashtableToAsKey_lost_iff {hash : HashTable}
    (hkey : keyOf keyInit hash = none) :
    (zHashtableToAsKey keyInit hash .init).err.code = .ok ↔
      KeyLost keyInit hash := by
  unfold KeyLost
  cases hentries : keyEntries hash with
  | none =>
      obtain ⟨message, hfail⟩ :=
        zHashtableToAsKey_of_no_entries keyInit .init hentries
      simp [hfail, keyError]
  | some entries =>
      obtain ⟨ns, set, pk⟩ := entries
      rw [zHashtableToAsKey_of_entries keyInit .init hentries]
      have hval : (primaryKeyToAsKey keyInit ns set pk .init).val = none := by
        rw [keyOf, hentries] at hkey
        exact hkey
      cases pk with
      | digest digest =>
          simp only [hkey, and_true]
          by_cases hlength : digest.length = asDigestValueSize
          · simp only [primaryKeyToAsKey, hlength, ne_eq, not_true, if_false]
            unfold asKeyInit
            split <;> simp
          · simp [primaryKeyToAsKey, hlength, keyError]
      | userKey z =>
          have houtcome := primaryKeyToAsKey_outcome keyInit ns set
            (.userKey z) .init
          rw [hval] at houtcome
          simp only [hkey, iff_true]
          cases z <;> simp [primaryKeyToAsKey, asKeyInit] <;> split <;> simp

theorem keysEnd_converted {zs : List Zval} {keys : List AsKey}
    (hend : keysEnd keyInit zs = .converted keys) :
    Forall₂ (ConvertsTo keyInit) zs keys := by
  induction zs generalizing keys with
  | nil =>
      rw [keysEnd] at hend
      rw [← KeysEnd.converted.inj hend]
      exact .nil
  | cons z zs ih =>
      cases z with
      | array hash =>
          rw [keysEnd] at hend
          cases hkey : keyOf keyInit hash with
          | none =>
              simp only [hkey] at hend
              split at hend <;> cases hend
          | some key =>
              simp only [hkey] at hend
              cases hrest : keysEnd keyInit zs with
              | converted rest =>
                  simp only [hrest] at hend
                  rw [← KeysEnd.converted.inj hend]
                  exact .cons ⟨hash, rfl, hkey⟩ (ih hrest)
              | refused => simp [hrest] at hend
              | lost => simp [hrest] at hend
      | undef | null | bool _ | long _ | double _ | string _ | object _ _
      | resource | reference _ => simp [keysEnd] at hend

/-- Keys that all convert are found to. -/
theorem keysEnd_of_forall₂ {zs : List Zval} {keys : List AsKey}
    (hkeys : Forall₂ (ConvertsTo keyInit) zs keys) :
    keysEnd keyInit zs = .converted keys := by
  induction hkeys with
  | nil => rfl
  | cons hkey _ ih =>
      obtain ⟨hash, rfl, hkey⟩ := hkey
      rw [keysEnd]
      simp only [hkey, ih]

end

/-! ## Entries -/

/-- The array for a key, if it has a namespace. -/
def keyZval (key : AsKey) (showPk : Bool) : Option Zval :=
  (asKeyToZval key showPk .init).val

/-- The array for a record, if its bins can be decoded. -/
def recordZval (rt : Runtime) (record : AsRecord) (key : AsKey)
    (showPk : Bool) : Option Zval :=
  match decodeBins rt record.bins [] with
  | none => none
  | some bins =>
      (keyZval key showPk).map fun zKey =>
        .array [(.str "key", zKey), (.str "metadata", asRecordToZMetadata record),
          (.str "bins", .array bins)]

/-- The entry of `getMany` for a key and its result. -/
def getManyRecord (rt : Runtime) (entry : AsKey × BatchResult) : Option Zval :=
  if entry.2.result = .errRecordNotFound then
    (keyZval entry.1 true).map missingEntry
  else recordZval rt entry.2.record entry.1 true

/-- The entry of `existsMany`. -/
def existsManyRecord (entry : AsKey × BatchResult) : Option Zval :=
  if entry.2.result = .ok then
    (keyZval entry.1 true).map fun zKey =>
      existsEntry zKey (asRecordToZMetadata entry.2.record)
  else if entry.2.result = .errRecordNotFound then
    (keyZval entry.1 true).map fun zKey => existsEntry zKey .null
  else none

-- the computation of `strlen` is of no use when a goal is evaluated
attribute [local irreducible] strlen cString

theorem asKeyToZval_decodes (key : AsKey) (showPk : Bool) (err : AsError) :
    (asKeyToZval key showPk err).Decodes err (keyZval key showPk) := by
  unfold keyZval
  by_cases hns : strlen key.ns = 0
  · simp [asKeyToZval, hns, Converted.Decodes, mapKeyOfZval]
  · simp [asKeyToZval, hns, Converted.Decodes]

theorem asRecordToZval_decodes (rt : Runtime) (record : AsRecord) (key : AsKey)
    (showPk : Bool) {err : AsError} (herr : err.code = .ok) :
    (asRecordToZval rt record key showPk err).Decodes err
      (recordZval rt record key showPk) := by
  have hbins := @asBinsLoop_decodes rt record.bins [] err herr
  have hkey := asKeyToZval_decodes key showPk err
  unfold asRecordToZval asBinsToZval recordZval
  cases hdecode : decodeBins rt record.bins [] with
  | none =>
      rw [hdecode] at hbins
      simp [hbins.1, hbins.2.1, Converted.Decodes, mapKeyOfZval]
  | some table =>
      rw [hdecode] at hbins
      have hloop : asBinsLoop rt record.bins [] err =
          ⟨.ok, some (.array table), err⟩ := hbins
      cases hzKey : keyZval key showPk with
      | none =>
          rw [hzKey] at hkey
          simp [hloop, hkey.2.1, Converted.Decodes, mapKeyOfZval]
      | some zKey =>
          rw [hzKey] at hkey
          have hconverted : asKeyToZval key showPk err =
              ⟨.ok, some zKey, err⟩ := hkey
          simp [hloop, hconverted, herr, Converted.Decodes]

section

variable {engine : Engine} {client : Client} {oracle : Oracle}

/-- A piece that ended with an error for `CLEANUP` and left the output alone. -/
def Refuses {α : Type} (s : CallState) (result : Except Exit α × CallState) :
    Prop :=
  ∃ s', result = (.error .cleanup, s') ∧ s'.err.code ≠ .ok ∧
    s'.output = s.output

def KeysRun (s : CallState) :
    KeysEnd → Except Exit (List AsKey) × CallState → Prop
  | .converted keys, result => result = (.ok keys, s)
  | .refused, result => Refuses s result
  | .lost, result => result = (.error .cleanup, s)

/-- The loop over the keys, from a clean error object. -/
theorem convertKeys_run (notArray : String) (zs : List Zval) {s : CallState}
    (herr : s.err = .init) :
    KeysRun s (keysEnd engine.keyInit zs)
      ((convertKeys engine notArray zs).run s) := by
  induction zs with
  | nil => rfl
  | cons z zs ih =>
      cases z with
      | array hash =>
          rw [keysEnd, convertKeys]
          cases hkey : keyOf engine.keyInit hash with
          | some key =>
              have hconverted := zHashtableToAsKey_of_some s.err hkey
              have hrun : (requireKey engine hash gotoCleanup).run s =
                  (.ok key, s) := by
                unfold requireKey convert
                simp [run_bind, hconverted, setErrTo, orFail]
              simp only
              rw [run_bind_ok hrun]
              cases hrest : keysEnd engine.keyInit zs with
              | converted keys =>
                  rw [hrest] at ih
                  have hih : (convertKeys engine notArray zs).run s =
                      (.ok keys, s) := ih
                  exact run_bind_ok hih
              | refused =>
                  rw [hrest] at ih
                  obtain ⟨s', hih, hcode, houtput⟩ := ih
                  exact ⟨s', run_bind_error hih, hcode, houtput⟩
              | lost =>
                  rw [hrest] at ih
                  have hih : (convertKeys engine notArray zs).run s =
                      (.error .cleanup, s) := ih
                  exact run_bind_error hih
          | none =>
              have hstatus := (zHashtableToAsKey_of_none s.err hkey).1
              have hlost := zHashtableToAsKey_lost_iff hkey
              have houtcome := zHashtableToAsKey_outcome engine.keyInit hash .init
              rw [hkey] at houtcome
              have hrun : (requireKey engine hash gotoCleanup).run s =
                  (.error .cleanup, { s with
                    err := (zHashtableToAsKey engine.keyInit hash .init).err }) := by
                rw [herr] at hstatus
                unfold requireKey convert
                simp [run_bind, herr, setErrTo, hstatus, gotoCleanup]
              simp only
              by_cases hlost' : KeyLost engine.keyInit hash
              · rw [if_pos hlost']
                have hcode := hlost.mpr hlost'
                have hclean : (zHashtableToAsKey engine.keyInit hash .init).err =
                    s.err := by
                  rw [herr]
                  generalize zHashtableToAsKey engine.keyInit hash .init =
                    converted at houtcome hcode
                  cases houtcome with
                  | reported message => simp [keyError] at hcode
                  | unreported => rfl
                rw [hclean] at hrun
                exact run_bind_error hrun
              · rw [if_neg hlost']
                refine ⟨_, run_bind_error hrun, ?_, rfl⟩
                intro hcode
                exact hlost' (hlost.mp hcode)
      | undef | null | bool _ | long _ | double _ | string _ | object _ _
      | resource | reference _ =>
          exact ⟨_, rfl, by simp, rfl⟩

/-! ## The loops -/

theorem convert_run {converter : AsError → Converted Zval} {s : CallState}
    {z : Zval} (hconverter : converter s.err = ⟨.ok, some z, s.err⟩) :
    (convert converter).run s = (.ok ⟨.ok, some z, s.err⟩, s) := by
  unfold convert
  rw [run_bind_ok (run_get s), hconverter]
  rfl


def EntryRun (s : CallState) :
    Option Zval → Except Exit Zval × CallState → Prop
  | some z, result => result = (.ok z, s)
  | none, result => Refuses s result

/-- A value that is converted and put into an entry, or a failure that ends the
loop. -/
theorem convertEntry_run {converter : AsError → Converted Zval} {s : CallState}
    {z : Option Zval} (hdecodes : (converter s.err).Decodes s.err z)
    (next : Zval → Zval) :
    EntryRun s (z.map next) ((do
      let converted ← convert converter
      runIf (converted.status ≠ .ok) gotoCleanup
      pure (next (converted.val.getD .undef)) : Method Zval).run s) := by
  cases z with
  | some z =>
      rw [run_bind_ok (convert_run hdecodes), runIf_neg (by simp)]
      rfl
  | none =>
      obtain ⟨hstatus, hcode, -⟩ := hdecodes
      have hconvert : (convert converter).run s =
          (.ok (converter s.err), { s with err := (converter s.err).err }) := rfl
      refine ⟨{ s with err := (converter s.err).err }, ?_, hcode, rfl⟩
      rw [run_bind_ok hconvert, runIf_pos hstatus]
      rfl

theorem getManyEntry_run (entry : AsKey × BatchResult) {s : CallState}
    (herr : s.err.code = .ok) :
    EntryRun s (getManyRecord engine.rt entry)
      ((getManyEntry engine entry.1 entry.2).run s) := by
  unfold getManyRecord getManyEntry
  by_cases hmissing : entry.2.result = .errRecordNotFound
  · rw [if_pos hmissing, if_pos hmissing]
    exact convertEntry_run (asKeyToZval_decodes entry.1 true s.err) missingEntry
  · rw [if_neg hmissing, if_neg hmissing]
    have hentry := convertEntry_run
      (asRecordToZval_decodes engine.rt entry.2.record entry.1 true herr) id
    rw [Option.map_id] at hentry
    exact hentry

/-- All the values are added to the table in the output, or an error ends the
loop as `exit` says. -/
def FillsOutput (exit : Except Exit Unit) (s : CallState) (table : HashTable) :
    Option (List Zval) → Except Exit Unit × CallState → Prop
  | some zs, result => result = (.ok (), { s with
      output := some (.array (zs.foldl HashTable.push table)) })
  | none, result => ∃ s' table', result = (exit, s') ∧ s'.err.code ≠ .ok ∧
      s'.output = some (.array table')

theorem getManyLoop_run (entries : List (AsKey × BatchResult))
    {table : HashTable} {s : CallState} (herr : s.err.code = .ok)
    (houtput : s.output = some (.array table)) :
    FillsOutput (.error .cleanup) s table
      (entries.mapM (getManyRecord engine.rt))
      ((getManyLoop engine entries table).run s) := by
  induction entries generalizing table s with
  | nil =>
      rw [List.mapM_nil]
      show (pure () : Method Unit).run s = _
      rw [run_pure, List.foldl_nil, ← houtput]
  | cons entry entries ih =>
      have hentry := @getManyEntry_run engine entry s herr
      rw [List.mapM_cons, getManyLoop]
      cases hrecord : getManyRecord engine.rt entry with
      | none =>
          rw [hrecord] at hentry
          obtain ⟨s', hrun, hcode, houtput'⟩ := hentry
          exact ⟨s', table, run_bind_error hrun, hcode,
            houtput'.trans houtput⟩
      | some z =>
          rw [hrecord] at hentry
          have hrun : (getManyEntry engine entry.1 entry.2).run s =
              (.ok z, s) := hentry
          have hset : (setOutput (.array (table.push z))).run s =
              (.ok (), { s with output := some (.array (table.push z)) }) := rfl
          rw [run_bind_ok hrun, run_bind_ok hset]
          have hrest := @ih (table.push z)
            { s with output := some (.array (table.push z)) } herr rfl
          simp only [bind, Option.bind]
          cases hzs : entries.mapM (getManyRecord engine.rt) with
          | none =>
              rw [hzs] at hrest
              exact hrest
          | some zs =>
              rw [hzs] at hrest
              exact hrest

theorem existsCallback_run (entries : List (AsKey × BatchResult))
    {table : HashTable} {s : CallState} (herr : s.err.code = .ok)
    (houtput : s.output = some (.array table)) :
    FillsOutput (.ok ()) s table (entries.mapM existsManyRecord)
      ((existsCallback entries table).run s) := by
  induction entries generalizing table s with
  | nil =>
      rw [List.mapM_nil]
      show (pure () : Method Unit).run s = _
      rw [run_pure, List.foldl_nil, ← houtput]
  | cons entry entries ih =>
      obtain ⟨key, result⟩ := entry
      rw [List.mapM_cons, existsCallback]
      by_cases hother : result.result ≠ .ok ∧ result.result ≠ .errRecordNotFound
      · rw [if_pos hother]
        have hnone : existsManyRecord (key, result) = none := by
          simp [existsManyRecord, hother.1, hother.2]
        rw [hnone]
        exact ⟨_, table, rfl, by simp, houtput⟩
      · rw [if_neg hother]
        have hrecord : existsManyRecord (key, result) =
            (keyZval key true).map fun zKey => existsEntry zKey
              (if result.result = .ok then asRecordToZMetadata result.record
                else .null) := by
          unfold existsManyRecord
          by_cases hok : result.result = .ok
          · simp [hok]
          · have hmissing : result.result = .errRecordNotFound := by
              by_contra hne
              exact hother ⟨hok, hne⟩
            simp [hmissing]
        have hdecodes := asKeyToZval_decodes key true s.err
        rw [hrecord]
        cases hkey : keyZval key true with
        | some zKey =>
          rw [hkey] at hdecodes
          generalize hz : existsEntry zKey (if result.result = .ok then
            asRecordToZMetadata result.record else .null) = z
          have hset : (setOutput (.array (table.push z))).run s =
              (.ok (), { s with output := some (.array (table.push z)) }) := rfl
          rw [run_bind_ok (convert_run hdecodes)]
          simp only [ne_eq, not_true, if_false, Option.getD_some,
            Option.map_some, hz]
          rw [run_bind_ok hset]
          have hrest := @ih (table.push z)
            { s with output := some (.array (table.push z)) } herr rfl
          simp only [bind, Option.bind]
          cases hzs : entries.mapM existsManyRecord with
          | none =>
              rw [hzs] at hrest
              exact hrest
          | some zs =>
              rw [hzs] at hrest
              exact hrest
        | none =>
          rw [hkey] at hdecodes
          obtain ⟨hstatus, hcode, -⟩ := hdecodes
          have hconvert : (convert (asKeyToZval key true)).run s =
              (.ok (asKeyToZval key true s.err),
                { s with err := (asKeyToZval key true s.err).err }) := rfl
          rw [run_bind_ok hconvert]
          simp only [Option.map_none, ne_eq, hstatus, not_false_eq_true, if_true]
          exact ⟨_, table, rfl, hcode, houtput⟩

/-! ## The way to the keys -/

/-- What both methods check before they look at the keys. -/
def batchVerdict (engine : Engine) (client : Client) (policies : Policies)
    (zPolicy : Option Zval) : Verdict (Option PolicyBatch) := do
  ensure client.Ready
  ifGiven zPolicy (policyOf
    (zvalToAsPolicyBatch engine.init.batch zPolicy policies.batch))

/-- The call ended with a failure and a blank output. -/
def Outcome.FailsBlank (outcome : Outcome) : Prop :=
  ∃ reply, outcome.reply = some reply ∧ reply.Failed ∧
    Blank outcome.state.output

/-- The call returned OK with such an output. -/
def Outcome.Returns (outcome : Outcome) (output : Option Zval → Prop) : Prop :=
  outcome.reply = some (.long .ok) ∧ output outcome.state.output

def getManyStart (engine : Engine) (client : Client) (zPolicy : Option Zval) :
    Method (Option PolicyBatch) := do
  resetClientError
  requireConnection client
  setOutput .null
  whenGiven zPolicy (requirePolicy batchField
    (zvalToAsPolicyBatch engine.init.batch zPolicy)
    (failReturn .errParam "Invalid batch policy"))

def existsManyStart (engine : Engine) (client : Client)
    (zPolicy : Option Zval) : Method (Option PolicyBatch) := do
  requireConnectionOrCleanup client
  resetClientError
  setOutput .null
  whenGiven zPolicy (requirePolicy batchField
    (zvalToAsPolicyBatch engine.init.batch zPolicy)
    (failCleanup .errParam "Invalid batch policy"))

theorem getMany_eq (args : GetManyArgs) :
    getMany engine client oracle (some args) = (do
      let policy ← getManyStart engine client args.policy
      withCleanup (getManyBody engine oracle policy args) cleanupErr) := by
  unfold getMany getManyStart
  simp only [Proc.bind_assoc]
  rfl

/-- The part of `existsMany` that starts with the keys. -/
def existsManyRest (engine : Engine) (oracle : Oracle) (args : ExistsManyArgs)
    (policy : Option PolicyBatch) : Method Unit := do
  let keys ← convertKeys engine "Invalid Key" (HashTable.values args.keys)
  setOutput (.array [])
  let answer ← issue oracle (.batchExists policy keys)
  runIf (answer.delivers = true)
    (existsCallback (keyResults engine keys answer) [])

theorem existsMany_eq (args : ExistsManyArgs) :
    existsMany engine client oracle (some args) =
      withCleanup (do
        let policy ← existsManyStart engine client args.policy
        existsManyRest engine oracle args policy) existsManyCleanup := by
  unfold existsMany existsManyBody existsManyStart existsManyRest
  simp only [Proc.bind_assoc]
  rfl

instance (zPolicy : Option Zval) :
    Moves KeepsBlank (getManyStart engine client zPolicy) := by
  unfold getManyStart
  infer_instance

instance (zPolicy : Option Zval) :
    Moves KeepsBlank (existsManyStart engine client zPolicy) := by
  unfold existsManyStart
  infer_instance

variable {policies : Policies}

theorem yields_getManyStart (zPolicy : Option Zval) :
    Yields false (cleanWith policies) (getManyStart engine client zPolicy)
      (batchVerdict engine client policies zPolicy) clean := by
  unfold getManyStart batchVerdict
  refine yields_seq yields_resetClientError ?_
  refine yields_bind yields_requireConnection fun _ => ?_
  refine yields_seq (yields_setOutput _) ?_
  exact yields_whenGiven yields_requirePolicy fun _ _ h => h.1

theorem yields_existsManyStart (zPolicy : Option Zval) :
    Yields true (cleanWith policies) (existsManyStart engine client zPolicy)
      (batchVerdict engine client policies zPolicy) clean := by
  unfold existsManyStart batchVerdict
  refine yields_bind yields_requireConnectionOrCleanup fun _ => ?_
  refine yields_seq yields_resetClientError ?_
  refine yields_seq (yields_setOutput _) ?_
  exact yields_whenGiven yields_requirePolicy fun _ _ h => h.1

theorem batchVerdict_ne_crashed (zPolicy : Option Zval) :
    batchVerdict engine client policies zPolicy ≠ .error .crashed := by
  unfold batchVerdict
  refine verdict_bind_ne_crashed checked_ne_crashed fun _ => ?_
  cases zPolicy with
  | none => simp [ifGiven]
  | some z => exact verdict_bind_ne_crashed checked_ne_crashed (by simp)

/-! ## Outcomes -/

/-- What a call comes to once its start is over: the keys end in one of the
three ways, and then the client answers with an error, or an entry fails, or
all are made. -/
def BatchOutcome (engine : Engine) (answer : Answer)
    (records : AsKey × BatchResult → Option Zval)
    (lost : Option Zval → Prop) (outcome : Outcome) : KeysEnd → Prop
  | .refused => outcome.FailsBlank
  | .lost => outcome.Returns lost
  | .converted keys =>
      if answer.err.code = .ok then
        match (keyResults engine keys answer).mapM records with
        | some zs =>
            outcome.Returns (· = some (.array (HashTable.ofValues zs)))
        | none => outcome.FailsBlank
      else outcome.FailsBlank

/-- A run of the part before `CLEANUP` that gets there, with a blank output or
an array after an error. -/
def BatchRun (engine : Engine) (answer : Answer)
    (records : AsKey × BatchResult → Option Zval)
    (lost : Option Zval → Prop) (s' : CallState) : KeysEnd → Prop
  | .refused => s'.err.code ≠ .ok
  | .lost => s'.err.code = .ok ∧ lost s'.output
  | .converted keys =>
      if answer.err.code = .ok then
        match (keyResults engine keys answer).mapM records with
        | some zs => s'.err.code = .ok ∧
            s'.output = some (.array (HashTable.ofValues zs))
        | none => s'.err.code ≠ .ok
      else s'.err.code ≠ .ok

/-- The outcome of a method that returns the code of the error object and
clears the output after an error. -/
theorem batchOutcome_of_run {answer : Answer}
    {records : AsKey × BatchResult → Option Zval} {lost : Option Zval → Prop}
    {s' : CallState} {outcome : Outcome} {keys : KeysEnd}
    (hrun : BatchRun engine answer records lost s' keys)
    (hreply : outcome.reply = some (.long s'.err.code))
    (houtput : s'.err.code = .ok → outcome.state.output = s'.output)
    (hcleared : s'.err.code ≠ .ok → Blank outcome.state.output) :
    BatchOutcome engine answer records lost outcome keys := by
  have hfails : s'.err.code ≠ .ok → outcome.FailsBlank := by
    intro hcode
    exact ⟨_, hreply, hcode, hcleared hcode⟩
  cases keys with
  | refused => exact hfails hrun
  | lost =>
      obtain ⟨hcode, hlost⟩ := hrun
      refine ⟨by rw [hreply, hcode], ?_⟩
      rw [houtput hcode]
      exact hlost
  | converted keys =>
      unfold BatchRun at hrun
      unfold BatchOutcome
      by_cases hanswer : answer.err.code = .ok
      · simp only [hanswer, if_true] at hrun ⊢
        cases hzs : (keyResults engine keys answer).mapM records with
        | none =>
            rw [hzs] at hrun
            exact hfails hrun
        | some zs =>
            rw [hzs] at hrun
            obtain ⟨hcode, hzs'⟩ := hrun
            exact ⟨by rw [hreply, hcode], (houtput hcode).trans hzs'⟩
      · simp only [hanswer, if_false] at hrun ⊢
        exact hfails hrun

/-! ## getMany -/

def getManyInner (engine : Engine) (oracle : Oracle)
    (policy : Option PolicyBatch) (bins : Option (List String))
    (zKeys : HashTable) : Method Unit := do
  setOutput (.array [])
  let keys ← convertKeys engine "Keys must be arrays" (HashTable.values zKeys)
  let answer ← issue oracle
    (.batchRead policy (keys.map fun key => ⟨key, bins⟩))
  cleanupOnError
  getManyLoop engine (keyResults engine keys answer) []

/-- A run that ends in the code after `CLEANUP`. -/
def ReachesCleanup (result : Except Exit Unit × CallState)
    (Q : CallState → Prop) : Prop :=
  ∃ exit s', result = (exit, s') ∧ (exit = .ok () ∨ exit = .error .cleanup) ∧
    Q s'

theorem issue_run (request : Request) (s : CallState) :
    (issue oracle request).run s =
      (.ok (oracle.answer s.requests.length request), { s with
        requests := s.requests ++ [request]
        err := (oracle.answer s.requests.length request).err }) := rfl

theorem getManyInner_run {answer : Answer}
    (hanswer : ∀ n request, oracle.answer n request = answer)
    (policy : Option PolicyBatch) (bins : Option (List String))
    (zKeys : HashTable) {s : CallState} (herr : s.err = .init) :
    ReachesCleanup ((getManyInner engine oracle policy bins zKeys).run s)
      fun s' => BatchRun engine answer (getManyRecord engine.rt)
        (· = some (.array [])) s'
        (keysEnd engine.keyInit (HashTable.values zKeys)) := by
  have hset : (setOutput (.array [])).run s =
      (.ok (), { s with output := some (.array []) }) := rfl
  unfold getManyInner
  rw [run_bind_ok hset]
  generalize hs' : { s with output := some (Zval.array []) } = s'
  have herr' : s'.err = .init := by rw [← hs']; exact herr
  have houtput : s'.output = some (.array []) := by rw [← hs']
  have hkeys := @convertKeys_run engine "Keys must be arrays"
    (HashTable.values zKeys) s' herr'
  cases hend : keysEnd engine.keyInit (HashTable.values zKeys) with
  | refused =>
      rw [hend] at hkeys
      obtain ⟨s'', hrun, hcode, -⟩ := hkeys
      exact ⟨_, s'', run_bind_error hrun, .inr rfl, hcode⟩
  | lost =>
      rw [hend] at hkeys
      refine ⟨_, s', run_bind_error hkeys, .inr rfl, ?_, houtput⟩
      rw [herr']
      rfl
  | converted keys =>
      rw [hend] at hkeys
      rw [run_bind_ok hkeys, run_bind_ok (issue_run _ s'), hanswer]
      generalize hsent : ({ s' with
        requests := _, err := answer.err } : CallState) = sent
      have hsentErr : sent.err = answer.err := by rw [← hsent]
      have hsentOutput : sent.output = some (.array []) := by
        rw [← hsent]
        exact houtput
      unfold BatchRun
      by_cases hcode : answer.err.code = .ok
      · have hclean : sent.err.code = .ok := by rw [hsentErr, hcode]
        have hloop := @getManyLoop_run engine (keyResults engine keys answer)
          [] sent hclean hsentOutput
        rw [run_bind_ok (cleanupOnError_run_ok hclean)]
        simp only [hcode, if_true]
        cases hzs : (keyResults engine keys answer).mapM
            (getManyRecord engine.rt) with
        | none =>
            rw [hzs] at hloop
            obtain ⟨s'', table, hrun, hfailed, -⟩ := hloop
            exact ⟨_, s'', hrun, .inr rfl, hfailed⟩
        | some zs =>
            rw [hzs] at hloop
            refine ⟨_, _, hloop, .inl rfl, hclean, ?_⟩
            simp only [ofValues_eq_foldl_push]
      · have hfailed : sent.err.code ≠ .ok := by rw [hsentErr]; exact hcode
        rw [run_bind_error (cleanupOnError_run_error hfailed)]
        simp only [hcode, if_false]
        exact ⟨_, sent, rfl, .inr rfl, hfailed⟩

/-- The inner `CLEANUP` of `getMany` clears the output after an error. -/
theorem getManyWithBatchRead_run {policy : Option PolicyBatch}
    {bins : Option (List String)} {zKeys : HashTable} {s : CallState}
    {Q : CallState → Prop}
    (hinner : ReachesCleanup
      ((getManyInner engine oracle policy bins zKeys).run s) Q) :
    ∃ s', Q s' ∧ (getManyWithBatchRead engine oracle policy bins zKeys).run s =
      (.ok (), if s'.err.code ≠ .ok then { s' with output := some .null }
        else s') := by
  obtain ⟨exit, s', hrun, hexit, hQ⟩ := hinner
  refine ⟨s', hQ, ?_⟩
  have heq : getManyWithBatchRead engine oracle policy bins zKeys =
      withCleanup (getManyInner engine oracle policy bins zKeys) (do
        let s ← Proc.get
        runIf (s.err.code ≠ .ok) (setOutput .null)) := rfl
  have hcleanup : ((do
      let s ← Proc.get
      runIf (s.err.code ≠ .ok) (setOutput .null) : Method Unit).run s') =
      (.ok (), if s'.err.code ≠ .ok then { s' with output := some .null }
        else s') := by
    rw [run_bind_ok (run_get s')]
    unfold runIf
    split <;> rfl
  rw [heq]
  unfold withCleanup
  rw [run_bind, run_catchExit, hrun]
  rcases hexit with rfl | rfl <;> exact hcleanup

theorem getMany_outcome {answer : Answer}
    (hanswer : ∀ n request, oracle.answer n request = answer)
    (policy : Option PolicyBatch) (args : GetManyArgs) {s : CallState}
    (herr : s.err = .init) (hblank : Blank s.output) :
    let outcome :=
      (withCleanup (getManyBody engine oracle policy args) cleanupErr).call s
    match batchBinNames args.filter with
    | .error _ => outcome.FailsBlank
    | .ok _ => BatchOutcome engine answer (getManyRecord engine.rt)
        (· = some (.array [])) outcome
        (keysEnd engine.keyInit (HashTable.values args.keys)) := by
  intro outcome
  cases hbins : batchBinNames args.filter with
  | error message =>
      have hbody : (getManyBody engine oracle policy args).run s =
          (.error .cleanup, { s with err := s.err.update .errParam message }) := by
        unfold getManyBody requireBatchBinNames
        rw [hbins]
        rfl
      obtain ⟨hreply, houtput, -⟩ := call_withCleanupErr hbody (.inr rfl)
      exact ⟨_, hreply, by simp [Reply.Failed], by rw [houtput]; exact hblank⟩
  | ok bins =>
      obtain ⟨s', hQ, hrun⟩ := getManyWithBatchRead_run
        (getManyInner_run hanswer policy bins args.keys herr)
      have hbody : (getManyBody engine oracle policy args).run s =
          (.ok (), if s'.err.code ≠ .ok then { s' with output := some .null }
            else s') := by
        unfold getManyBody requireBatchBinNames
        rw [hbins]
        exact hrun
      obtain ⟨hreply, houtput, -⟩ := call_withCleanupErr hbody (.inl rfl)
      refine batchOutcome_of_run hQ ?_ ?_ ?_
      · rw [hreply]
        split <;> rfl
      · intro hcode
        rw [houtput, if_neg (by simpa using hcode)]
      · intro hcode
        rw [houtput, if_pos hcode]
        exact .inr (.inl rfl)

/-! ## existsMany -/

/-- An output that `existsMany` clears after an error. -/
def Clearable (output : Option Zval) : Prop :=
  Blank output ∨ ∃ table, output = some (.array table)

/-- The callback does not make an error go away. -/
theorem existsCallback_keepsError (entries : List (AsKey × BatchResult))
    {table : HashTable} {s : CallState} (herr : s.err.code ≠ .ok)
    (houtput : s.output = some (.array table)) :
    ∃ s' table', (existsCallback entries table).run s = (.ok (), s') ∧
      s'.err.code ≠ .ok ∧ s'.output = some (.array table') := by
  induction entries generalizing table s with
  | nil => exact ⟨s, table, rfl, herr, houtput⟩
  | cons entry entries ih =>
      obtain ⟨key, result⟩ := entry
      rw [existsCallback]
      split
      · exact ⟨_, table, rfl, by simp, houtput⟩
      · have hdecodes := asKeyToZval_decodes key true s.err
        have hconvert : (convert (asKeyToZval key true)).run s =
            (.ok (asKeyToZval key true s.err),
              { s with err := (asKeyToZval key true s.err).err }) := rfl
        rw [run_bind_ok hconvert]
        cases hkey : keyZval key true with
        | none =>
            rw [hkey] at hdecodes
            obtain ⟨hstatus, hcode, -⟩ := hdecodes
            simp only [ne_eq, hstatus, not_false_eq_true, if_true]
            exact ⟨_, table, rfl, hcode, houtput⟩
        | some zKey =>
            rw [hkey] at hdecodes
            have hconverted : asKeyToZval key true s.err =
                ⟨.ok, some zKey, s.err⟩ := hdecodes
            simp only [hconverted, ne_eq, not_true, if_false, Option.getD_some]
            generalize existsEntry zKey _ = z
            have hset : (setOutput (.array (table.push z))).run s =
                (.ok (), { s with output := some (.array (table.push z)) }) := rfl
            rw [run_bind_ok hset]
            exact @ih (table.push z)
              { s with output := some (.array (table.push z)) } herr rfl

theorem existsManyRest_run {answer : Answer}
    (hanswer : ∀ n request, oracle.answer n request = answer)
    (hdelivers : answer.err.code = .ok → answer.delivers = true)
    (args : ExistsManyArgs) (policy : Option PolicyBatch) {s : CallState}
    (herr : s.err = .init) (hblank : Blank s.output) :
    ReachesCleanup ((existsManyRest engine oracle args policy).run s)
      fun s' => BatchRun engine answer existsManyRecord Blank s'
          (keysEnd engine.keyInit (HashTable.values args.keys)) ∧
        Clearable s'.output := by
  have hkeys := @convertKeys_run engine "Invalid Key"
    (HashTable.values args.keys) s herr
  unfold existsManyRest
  cases hend : keysEnd engine.keyInit (HashTable.values args.keys) with
  | refused =>
      rw [hend] at hkeys
      obtain ⟨s', hrun, hcode, houtput⟩ := hkeys
      refine ⟨_, s', run_bind_error hrun, .inr rfl, hcode, .inl ?_⟩
      rw [houtput]
      exact hblank
  | lost =>
      rw [hend] at hkeys
      refine ⟨_, s, run_bind_error hkeys, .inr rfl, ⟨?_, hblank⟩, .inl hblank⟩
      rw [herr]
      rfl
  | converted keys =>
      rw [hend] at hkeys
      have hset : (setOutput (.array [])).run s =
          (.ok (), { s with output := some (.array []) }) := rfl
      rw [run_bind_ok hkeys, run_bind_ok hset, run_bind_ok (issue_run _ _),
        hanswer]
      generalize hsent : ({ s with
        output := some (Zval.array []), requests := _, err := answer.err } :
          CallState) = sent
      have hsentErr : sent.err = answer.err := by rw [← hsent]
      have hsentOutput : sent.output = some (.array []) := by rw [← hsent]
      unfold BatchRun
      by_cases hcode : answer.err.code = .ok
      · have hclean : sent.err.code = .ok := by rw [hsentErr, hcode]
        have hloop := existsCallback_run (keyResults engine keys answer) hclean
          hsentOutput
        rw [runIf_pos (hdelivers hcode)]
        simp only [hcode, if_true]
        cases hzs : (keyResults engine keys answer).mapM existsManyRecord with
        | none =>
            rw [hzs] at hloop
            obtain ⟨s', table, hrun, hfailed, houtput⟩ := hloop
            exact ⟨_, s', hrun, .inl rfl, hfailed, .inr ⟨table, houtput⟩⟩
        | some zs =>
            rw [hzs] at hloop
            refine ⟨_, _, hloop, .inl rfl, ⟨hclean, ?_⟩, .inr ⟨_, rfl⟩⟩
            simp only [ofValues_eq_foldl_push]
      · have hfailed : sent.err.code ≠ .ok := by rw [hsentErr]; exact hcode
        simp only [hcode, if_false]
        by_cases hdelivered : answer.delivers = true
        · obtain ⟨s', table, hrun, hfailed', houtput⟩ :=
            existsCallback_keepsError (keyResults engine keys answer) hfailed
              hsentOutput
          rw [runIf_pos hdelivered]
          exact ⟨_, s', hrun, .inl rfl, hfailed', .inr ⟨table, houtput⟩⟩
        · rw [runIf_neg hdelivered]
          exact ⟨_, sent, rfl, .inl rfl, hfailed, .inr ⟨[], hsentOutput⟩⟩

theorem existsManyCleanup_run (s : CallState) :
    ∃ s', existsManyCleanup.run s = (.error (.ret (.long s.err.code)), s') ∧
      (s.err.code = .ok → s'.output = s.output) ∧
      (s.err.code ≠ .ok → Clearable s.output → Blank s'.output) := by
  unfold existsManyCleanup
  rw [run_bind_ok (run_get s)]
  by_cases hcode : s.err.code = .ok
  · rw [runIf_neg (by simpa using hcode)]
    exact ⟨s, rfl, fun _ => rfl, fun hne => absurd hcode hne⟩
  · rw [runIf_pos hcode]
    have hclear : ∃ s', (reportErr >>= fun _ => clearArrayOutput).run s =
        (.ok (), s') ∧ s'.err = s.err ∧
        (Clearable s.output → Blank s'.output) := by
      have hreport : reportErr.run s =
          (.ok (), { s with clientError := s.err }) := rfl
      rw [run_bind_ok hreport]
      unfold clearArrayOutput
      rw [run_bind_ok (run_get _)]
      cases houtput : s.output with
      | none => exact ⟨_, rfl, rfl, fun _ => .inl rfl⟩
      | some z =>
          cases z with
          | array table =>
              exact ⟨_, rfl, rfl, fun _ => .inr (.inl rfl)⟩
          | undef => exact ⟨_, rfl, rfl, fun _ => .inr (.inr rfl)⟩
          | null => exact ⟨_, rfl, rfl, fun _ => .inr (.inl rfl)⟩
          | bool _ | long _ | double _ | string _ | object _ _ | resource
          | reference _ =>
              refine ⟨_, rfl, rfl, fun hclearable => ?_⟩
              simp [Clearable, Blank] at hclearable
    obtain ⟨s', hrun, herr, hblank⟩ := hclear
    rw [run_bind_ok hrun]
    refine ⟨s', ?_, fun hok => absurd hok hcode, fun _ => hblank⟩
    unfold returnErrCode
    rw [run_bind_ok (run_get s'), herr]
    rfl

theorem existsMany_outcome {answer : Answer}
    (hanswer : ∀ n request, oracle.answer n request = answer)
    (hdelivers : answer.err.code = .ok → answer.delivers = true)
    (args : ExistsManyArgs) (policy : Option PolicyBatch) {s : CallState}
    (herr : s.err = .init) (hblank : Blank s.output) :
    BatchOutcome engine answer existsManyRecord Blank
      ((withCleanup (existsManyRest engine oracle args policy)
        existsManyCleanup).call s)
      (keysEnd engine.keyInit (HashTable.values args.keys)) := by
  obtain ⟨exit, s', hrun, hexit, hQ, hclearable⟩ :=
    existsManyRest_run hanswer hdelivers args policy herr hblank
  obtain ⟨s'', hcleanup, hkept, hcleared⟩ := existsManyCleanup_run s'
  have hcall : (withCleanup (existsManyRest engine oracle args policy)
      existsManyCleanup).run s = (.error (.ret (.long s'.err.code)), s'') := by
    unfold withCleanup
    rw [run_bind, run_catchExit, hrun]
    rcases hexit with rfl | rfl <;> exact hcleanup
  refine batchOutcome_of_run hQ ?_ ?_ ?_
  · simp [Method.call, hcall]
  · intro hcode
    simp [Method.call, hcall, hkept hcode]
  · intro hcode
    simp [Method.call, hcall, hcleared hcode hclearable]

/-! ## Whole calls -/

/-- The checks of both methods before the keys. -/
def BatchReadPasses (engine : Engine) (client : Client) (policies : Policies)
    (zPolicy : Option Zval) : Prop :=
  client.Ready ∧
    (zvalToAsPolicyBatch engine.init.batch zPolicy policies.batch).status = .ok

theorem batchVerdict_ok_iff (zPolicy : Option Zval) :
    (∃ policy, batchVerdict engine client policies zPolicy = .ok policy) ↔
      BatchReadPasses engine client policies zPolicy := by
  have hnone : zPolicy = none → (zvalToAsPolicyBatch engine.init.batch zPolicy
      policies.batch).status = .ok := by
    rintro rfl
    rfl
  unfold batchVerdict BatchReadPasses
  rw [ifGiven_policyOf hnone]
  by_cases hready : client.Ready
  · by_cases hstatus : (zvalToAsPolicyBatch engine.init.batch zPolicy
        policies.batch).status = .ok
    · simp [hready, hstatus, ensure, bind, Except.bind]
    · simp [hready, hstatus, ensure, bind, Except.bind]
  · simp [hready, ensure, bind, Except.bind]

theorem failsBlank_of_halts {method : Method Reply} {s : CallState}
    {requests : List Request}
    (hhalts : HaltsAt false requests .failed (method.run s))
    (hblank : Blank (method.run s).2.output) : (method.call s).FailsBlank := by
  obtain ⟨exit, s', hrun, -, hfailed⟩ := hhalts
  rw [hrun] at hblank
  cases exit with
  | ret reply =>
      refine ⟨reply, ?_, hfailed, ?_⟩
      · simp [Method.call, hrun]
      · simpa [Method.call, hrun] using hblank
  | cleanup => exact absurd hfailed.1 (by simp)
  | crash => exact hfailed.elim

theorem getMany_refused {args : GetManyArgs} (clientError : AsError)
    (hrefused : ¬ BatchReadPasses engine client policies args.policy) :
    ((getMany engine client oracle (some args)).call
      (.start policies clientError)).FailsBlank := by
  have hyields := @yields_getManyStart engine client policies args.policy
    (.start policies clientError) ⟨rfl, rfl⟩
  have hkeeps : Moves KeepsBlank (getManyStart engine client args.policy) :=
    inferInstance
  have hblank := hkeeps.moves (.start policies clientError) (.inl rfl)
  have hcrashed : batchVerdict engine client policies args.policy ≠
      .error .crashed := batchVerdict_ne_crashed args.policy
  rw [getMany_eq]
  cases hverdict : batchVerdict engine client policies args.policy with
  | ok policy =>
      exact absurd (@batchVerdict_ok_iff engine client policies args.policy
        |>.mp ⟨policy, hverdict⟩) hrefused
  | error halt =>
      rw [hverdict] at hyields hcrashed
      obtain ⟨exit, s', hrun, hrequests, hhalts⟩ := hyields
      rw [hrun] at hblank
      cases halt with
      | crashed => exact absurd rfl hcrashed
      | failed =>
          apply failsBlank_of_halts
          · exact ⟨exit, s', run_bind_error hrun, hrequests, hhalts⟩
          · rw [run_bind_error hrun]
            exact hblank

theorem getMany_passed {args : GetManyArgs} {answer : Answer}
    (clientError : AsError)
    (hanswer : ∀ n request, oracle.answer n request = answer)
    (hpasses : BatchReadPasses engine client policies args.policy) :
    let outcome := (getMany engine client oracle (some args)).call
      (.start policies clientError)
    match batchBinNames args.filter with
    | .error _ => outcome.FailsBlank
    | .ok _ => BatchOutcome engine answer (getManyRecord engine.rt)
        (· = some (.array [])) outcome
        (keysEnd engine.keyInit (HashTable.values args.keys)) := by
  obtain ⟨policy, hverdict⟩ := batchVerdict_ok_iff args.policy |>.mpr hpasses
  have hyields := @yields_getManyStart engine client policies args.policy
    (.start policies clientError) ⟨rfl, rfl⟩
  have hkeeps : Moves KeepsBlank (getManyStart engine client args.policy) :=
    inferInstance
  have hblank := hkeeps.moves (.start policies clientError) (.inl rfl)
  rw [hverdict] at hyields
  obtain ⟨s', hrun, -, herr⟩ := hyields
  rw [hrun] at hblank
  have hmethod : (getMany engine client oracle (some args)).run
      (.start policies clientError) = (withCleanup
        (getManyBody engine oracle policy args) cleanupErr).run s' := by
    rw [getMany_eq, run_bind_ok hrun]
  rw [call_of_run_eq hmethod]
  exact getMany_outcome hanswer policy args herr hblank

theorem reports_existsManyCleanup : Reports existsManyCleanup := by
  intro s hcode
  obtain ⟨s', hrun, -, -⟩ := existsManyCleanup_run s
  have hmoves : Moves SameRequests existsManyCleanup := inferInstance
  have hrequests := hmoves.moves s
  rw [hrun] at hrequests
  exact ⟨_, s', hrun, hrequests, hcode⟩

theorem existsMany_refused {args : ExistsManyArgs} (clientError : AsError)
    (hrefused : ¬ BatchReadPasses engine client policies args.policy) :
    ((existsMany engine client oracle (some args)).call
      (.start policies clientError)).FailsBlank := by
  have hyields := @yields_existsManyStart engine client policies args.policy
    (.start policies clientError) ⟨rfl, rfl⟩
  have hkeeps : Moves KeepsBlank (existsManyStart engine client args.policy) :=
    inferInstance
  have hblank := hkeeps.moves (.start policies clientError) (.inl rfl)
  have hcrashed : batchVerdict engine client policies args.policy ≠
      .error .crashed := batchVerdict_ne_crashed args.policy
  rw [existsMany_eq]
  cases hverdict : batchVerdict engine client policies args.policy with
  | ok policy =>
      exact absurd (@batchVerdict_ok_iff engine client policies args.policy
        |>.mp ⟨policy, hverdict⟩) hrefused
  | error halt =>
      rw [hverdict] at hyields hcrashed
      obtain ⟨exit, s', hrun, hrequests, hhalts⟩ := hyields
      rw [hrun] at hblank
      have hbody := @run_bind_error _ _ _ _ _
        (existsManyRest engine oracle args) _ _ _ hrun
      cases halt with
      | crashed => exact absurd rfl hcrashed
      | failed =>
          apply failsBlank_of_halts
          · exact withCleanup_halts ⟨exit, s', hbody, hrequests, hhalts⟩
              reports_existsManyCleanup
          · unfold withCleanup
            rw [run_bind, run_catchExit, hbody]
            cases exit with
            | cleanup =>
                obtain ⟨s'', hcleanup, -, hcleared⟩ := existsManyCleanup_run s'
                have hthen := hcleared hhalts.2 (.inl hblank)
                show Blank (existsManyCleanup.run s').2.output
                rw [hcleanup]
                exact hthen
            | ret reply => exact hblank
            | crash => exact hblank

theorem existsMany_passed {args : ExistsManyArgs} {answer : Answer}
    (clientError : AsError)
    (hanswer : ∀ n request, oracle.answer n request = answer)
    (hdelivers : answer.err.code = .ok → answer.delivers = true)
    (hpasses : BatchReadPasses engine client policies args.policy) :
    BatchOutcome engine answer existsManyRecord Blank
      ((existsMany engine client oracle (some args)).call
        (.start policies clientError))
      (keysEnd engine.keyInit (HashTable.values args.keys)) := by
  obtain ⟨policy, hverdict⟩ := batchVerdict_ok_iff args.policy |>.mpr hpasses
  have hyields := @yields_existsManyStart engine client policies args.policy
    (.start policies clientError) ⟨rfl, rfl⟩
  have hkeeps : Moves KeepsBlank (existsManyStart engine client args.policy) :=
    inferInstance
  have hblank := hkeeps.moves (.start policies clientError) (.inl rfl)
  rw [hverdict] at hyields
  obtain ⟨s', hrun, -, herr⟩ := hyields
  rw [hrun] at hblank
  have hmethod : (existsMany engine client oracle (some args)).run
      (.start policies clientError) = (withCleanup
        (existsManyRest engine oracle args policy) existsManyCleanup).run s' := by
    rw [existsMany_eq]
    exact withCleanup_bind_ok hrun
  rw [call_of_run_eq hmethod]
  exact existsMany_outcome hanswer hdelivers args policy herr hblank

end

end AerospikePhp
