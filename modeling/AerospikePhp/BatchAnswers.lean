import AerospikePhp.Batches
import Mathlib.Tactic

/-!
# What a batch read accounts for

The condition under which `getMany` and `existsMany` give one entry for each
key, refuse what they cannot account for, and agree on the batches they accept.
-/

namespace AerospikePhp

open Procedure Method Proc List

/-! ## What is asked -/

/-- A result that is neither a record nor a missing one. -/
def OtherResult (result : BatchResult) : Prop :=
  result.result ≠ .ok ∧ result.result ≠ .errRecordNotFound

def GetManyEntry (rt : Runtime) (entry : AsKey × BatchResult) (z : Zval) :
    Prop :=
  ∃ zKey, keyZval entry.1 true = some zKey ∧
    ((entry.2.result = .errRecordNotFound ∧
        z = .array [(.str "key", zKey), (.str "metadata", .null),
          (.str "bins", .null)]) ∨
      (entry.2.result = .ok ∧ ∃ bins,
        decodeBins rt entry.2.record.bins [] = some bins ∧
        z = .array [(.str "key", zKey),
          (.str "metadata", asRecordToZMetadata entry.2.record),
          (.str "bins", .array bins)]))

def ExistsManyEntry (entry : AsKey × BatchResult) (z : Zval) : Prop :=
  ∃ zKey, keyZval entry.1 true = some zKey ∧
    ((entry.2.result = .errRecordNotFound ∧
        z = .array [(.str "key", zKey), (.str "metadata", .null)]) ∨
      (entry.2.result = .ok ∧
        z = .array [(.str "key", zKey),
          (.str "metadata", asRecordToZMetadata entry.2.record)]))

/-- With OK there is an entry for each key, in their order; a key that does not
convert and a result that is no answer end the call with an error and a blank
output. -/
def AccountsFor (engine : Engine) (zKeys : HashTable) (answer : Answer)
    (Entry : AsKey × BatchResult → Zval → Prop) (outcome : Outcome) : Prop :=
  (outcome.reply = some (.long .ok) → ∃ keys zs,
    Forall₂ (ConvertsTo engine.keyInit) (HashTable.values zKeys) keys ∧
    outcome.state.output = some (.array (HashTable.ofValues zs)) ∧
    Forall₂ Entry (keyResults engine keys answer) zs) ∧
  ((∃ z ∈ HashTable.values zKeys, ∀ key, ¬ ConvertsTo engine.keyInit z key) ∨
    (∃ i < HashTable.numElements zKeys, OtherResult (answer.results i)) →
    outcome.FailsBlank)

/-! ## Entries -/

section

variable {engine : Engine} {client : Client} {oracle : Oracle}
variable {policies : Policies} {answer : Answer}

attribute [local irreducible] strlen

theorem keyZval_isSome_iff (key : AsKey) (showPk : Bool) :
    (keyZval key showPk).isSome ↔ strlen key.ns ≠ 0 := by
  unfold keyZval asKeyToZval
  by_cases hns : strlen key.ns = 0 <;> simp [hns]

theorem getManyRecord_isSome_iff (rt : Runtime) (entry : AsKey × BatchResult) :
    (getManyRecord rt entry).isSome ↔ strlen entry.1.ns ≠ 0 ∧
      (entry.2.result ≠ .errRecordNotFound →
        DecodableBins rt entry.2.record.bins) := by
  have hkey := keyZval_isSome_iff entry.1 true
  have hbins := @decodeBins_isSome_iff rt entry.2.record.bins []
  unfold getManyRecord recordZval
  by_cases hmissing : entry.2.result = .errRecordNotFound
  · simp [hmissing, hkey]
  · rw [if_neg hmissing, ← hkey, ← hbins]
    cases decodeBins rt entry.2.record.bins [] with
    | none => simp [hmissing]
    | some bins => simp

theorem existsManyRecord_isSome_iff (entry : AsKey × BatchResult) :
    (existsManyRecord entry).isSome ↔
      strlen entry.1.ns ≠ 0 ∧ ¬ OtherResult entry.2 := by
  have hkey := keyZval_isSome_iff entry.1 true
  unfold existsManyRecord OtherResult
  by_cases hok : entry.2.result = .ok
  · simp [hok, hkey]
  · by_cases hmissing : entry.2.result = .errRecordNotFound
    · simp [hmissing, hkey]
    · simp [hok, hmissing]

theorem getManyEntry_of_record {rt : Runtime} {entry : AsKey × BatchResult}
    {z : Zval} (hrecord : getManyRecord rt entry = some z)
    (hresult : ¬ OtherResult entry.2) : GetManyEntry rt entry z := by
  unfold getManyRecord at hrecord
  by_cases hmissing : entry.2.result = .errRecordNotFound
  · rw [if_pos hmissing] at hrecord
    obtain ⟨zKey, hkey, rfl⟩ := Option.map_eq_some_iff.mp hrecord
    exact ⟨zKey, hkey, .inl ⟨hmissing, rfl⟩⟩
  · have hok : entry.2.result = .ok := by
      by_contra hne
      exact hresult ⟨hne, hmissing⟩
    rw [if_neg hmissing, recordZval] at hrecord
    cases hbins : decodeBins rt entry.2.record.bins [] with
    | none => simp [hbins] at hrecord
    | some bins =>
        simp only [hbins] at hrecord
        obtain ⟨zKey, hkey, rfl⟩ := Option.map_eq_some_iff.mp hrecord
        exact ⟨zKey, hkey, .inr ⟨hok, bins, hbins, rfl⟩⟩

theorem existsManyEntry_of_record {entry : AsKey × BatchResult} {z : Zval}
    (hrecord : existsManyRecord entry = some z) : ExistsManyEntry entry z := by
  unfold existsManyRecord at hrecord
  by_cases hok : entry.2.result = .ok
  · rw [if_pos hok] at hrecord
    obtain ⟨zKey, hkey, rfl⟩ := Option.map_eq_some_iff.mp hrecord
    exact ⟨zKey, hkey, .inr ⟨hok, rfl⟩⟩
  · by_cases hmissing : entry.2.result = .errRecordNotFound
    · rw [if_neg hok, if_pos hmissing] at hrecord
      obtain ⟨zKey, hkey, rfl⟩ := Option.map_eq_some_iff.mp hrecord
      exact ⟨zKey, hkey, .inl ⟨hmissing, rfl⟩⟩
    · simp [hok, hmissing] at hrecord

theorem mapM_eq_some_iff {α β : Type} {f : α → Option β} {items : List α}
    {results : List β} :
    items.mapM f = some results ↔
      Forall₂ (fun item result => f item = some result) items results := by
  induction items generalizing results with
  | nil =>
      rw [List.mapM_nil]
      constructor
      · intro hnil
        obtain rfl : [] = results := Option.some.inj hnil
        exact .nil
      · intro hnil
        cases hnil
        rfl
  | cons item items ih =>
      rw [List.mapM_cons]
      simp only [bind, Option.bind_eq_some_iff, pure, Option.some.injEq]
      constructor
      · rintro ⟨result, hresult, rest, hrest, rfl⟩
        exact .cons hresult (ih.mp hrest)
      · intro hall
        cases hall with
        | cons hresult hrest => exact ⟨_, hresult, _, ih.mpr hrest, rfl⟩

theorem mapM_isSome_iff {α β : Type} (f : α → Option β) (items : List α) :
    (items.mapM f).isSome ↔ ∀ item ∈ items, (f item).isSome := by
  induction items with
  | nil => simp
  | cons item items ih =>
      rw [List.mapM_cons, List.forall_mem_cons, ← ih]
      cases f item with
      | none => simp
      | some result => cases items.mapM f <;> simp

/-! ## Keys and results by their place -/

theorem mem_keyResults_iff {keys : List AsKey} {entry : AsKey × BatchResult} :
    entry ∈ keyResults engine keys answer ↔ ∃ (i : ℕ) (hi : i < keys.length),
      entry = (engine.digested keys[i], answer.results i) := by
  unfold keyResults
  rw [List.mem_mapIdx]
  constructor
  · rintro ⟨i, hi, rfl⟩
    exact ⟨i, hi, rfl⟩
  · rintro ⟨i, hi, rfl⟩
    exact ⟨i, hi, rfl⟩

@[simp] theorem digested_ns (key : AsKey) : (engine.digested key).ns = key.ns := by
  unfold Engine.digested
  split <;> rfl

theorem results_iff {keys : List AsKey} (P : BatchResult → Prop) :
    (∃ entry ∈ keyResults engine keys answer, P entry.2) ↔
      ∃ i < keys.length, P (answer.results i) := by
  constructor
  · rintro ⟨entry, hmem, hP⟩
    obtain ⟨i, hi, rfl⟩ := mem_keyResults_iff.mp hmem
    exact ⟨i, hi, hP⟩
  · rintro ⟨i, hi, hP⟩
    exact ⟨_, mem_keyResults_iff.mpr ⟨i, hi, rfl⟩, hP⟩

theorem namespaces_iff {keys : List AsKey} :
    (∀ entry ∈ keyResults engine keys answer, strlen entry.1.ns ≠ 0) ↔
      ∀ key ∈ keys, strlen key.ns ≠ 0 := by
  constructor
  · intro hall key hmem
    obtain ⟨i, hi, rfl⟩ := List.getElem_of_mem hmem
    have hentry := hall _ (mem_keyResults_iff.mpr ⟨i, hi, rfl⟩)
    simpa using hentry
  · intro hall entry hmem
    obtain ⟨i, hi, rfl⟩ := mem_keyResults_iff.mp hmem
    simpa using hall _ (List.getElem_mem hi)

/-- A result whose record cannot be decoded, and that is not a missing one. -/
def UndecodableResult (rt : Runtime) (result : BatchResult) : Prop :=
  result.result ≠ .errRecordNotFound ∧ ¬ DecodableBins rt result.record.bins

theorem getManyRecords_isSome_iff {keys : List AsKey} :
    ((keyResults engine keys answer).mapM (getManyRecord engine.rt)).isSome ↔
      (∀ key ∈ keys, strlen key.ns ≠ 0) ∧
        ¬ ∃ i < keys.length, UndecodableResult engine.rt (answer.results i) := by
  rw [mapM_isSome_iff, ← namespaces_iff, ← results_iff]
  simp only [getManyRecord_isSome_iff, UndecodableResult]
  constructor
  · intro hall
    refine ⟨fun entry hmem => (hall entry hmem).1, ?_⟩
    rintro ⟨entry, hmem, hmissing, hbins⟩
    exact hbins ((hall entry hmem).2 hmissing)
  · rintro ⟨hns, hdecodable⟩ entry hmem
    refine ⟨hns entry hmem, fun hmissing => ?_⟩
    by_contra hbins
    exact hdecodable ⟨entry, hmem, hmissing, hbins⟩

theorem existsManyRecords_isSome_iff {keys : List AsKey} :
    ((keyResults engine keys answer).mapM existsManyRecord).isSome ↔
      (∀ key ∈ keys, strlen key.ns ≠ 0) ∧
        ¬ ∃ i < keys.length, OtherResult (answer.results i) := by
  rw [mapM_isSome_iff, ← @namespaces_iff engine answer keys,
    ← @results_iff engine answer keys]
  simp only [existsManyRecord_isSome_iff]
  constructor
  · intro hall
    refine ⟨fun entry hmem => (hall entry hmem).1, ?_⟩
    rintro ⟨entry, hmem, hother⟩
    exact (hall entry hmem).2 hother
  · rintro ⟨hns, hnone⟩ entry hmem
    exact ⟨hns entry hmem, fun hother => hnone ⟨entry, hmem, hother⟩⟩

/-! ## Accounts -/

theorem failsBlank_reply {outcome : Outcome} (hfails : outcome.FailsBlank) :
    outcome.reply ≠ some (.long .ok) := by
  obtain ⟨reply, hreply, hfailed, -⟩ := hfails
  intro hok
  rw [hok] at hreply
  rw [← Option.some.inj hreply] at hfailed
  exact hfailed rfl

theorem accountsFor_of_fails {zKeys : HashTable} {outcome : Outcome}
    {Entry : AsKey × BatchResult → Zval → Prop}
    (hfails : outcome.FailsBlank) :
    AccountsFor engine zKeys answer Entry outcome :=
  ⟨fun hok => absurd hok (failsBlank_reply hfails), fun _ => hfails⟩

/-- A call that returns OK without entries accounts for nothing. -/
theorem not_accountsFor_of_lost {zKeys : HashTable} {outcome : Outcome}
    {Entry : AsKey × BatchResult → Zval → Prop} {lost : Option Zval → Prop}
    (hlost : keysEnd engine.keyInit (HashTable.values zKeys) = .lost)
    (hreturns : outcome.Returns lost) :
    ¬ AccountsFor engine zKeys answer Entry outcome := by
  intro haccounts
  obtain ⟨keys, -, hkeys, -, -⟩ := haccounts.1 hreturns.1
  rw [keysEnd_of_forall₂ hkeys] at hlost
  cases hlost

theorem convertsTo_keys {zKeys : HashTable} {keys : List AsKey}
    (hkeys : keysEnd engine.keyInit (HashTable.values zKeys) = .converted keys) :
    Forall₂ (ConvertsTo engine.keyInit) (HashTable.values zKeys) keys ∧
      keys.length = HashTable.numElements zKeys := by
  have hall := keysEnd_converted hkeys
  refine ⟨hall, ?_⟩
  rw [← hall.length_eq, HashTable.length_values]

/-- A call that returns entries for converted keys accounts for them exactly
when no result is another one. -/
theorem accountsFor_of_returns {zKeys : HashTable} {outcome : Outcome}
    {Entry : AsKey × BatchResult → Zval → Prop} {keys : List AsKey}
    {zs : List Zval}
    (hkeys : keysEnd engine.keyInit (HashTable.values zKeys) = .converted keys)
    (hreturns : outcome.Returns (· = some (.array (HashTable.ofValues zs))))
    (hentries : (¬ ∃ i < keys.length, OtherResult (answer.results i)) →
      Forall₂ Entry (keyResults engine keys answer) zs) :
    AccountsFor engine zKeys answer Entry outcome ↔
      ¬ ∃ i < keys.length, OtherResult (answer.results i) := by
  obtain ⟨hall, hlength⟩ := convertsTo_keys hkeys
  constructor
  · intro haccounts hother
    rw [hlength] at hother
    exact failsBlank_reply (haccounts.2 (.inr hother)) hreturns.1
  · intro hnone
    refine ⟨fun _ => ⟨keys, zs, hall, hreturns.2, hentries hnone⟩, ?_⟩
    intro hbad
    exfalso
    rcases hbad with ⟨z, hmem, hnot⟩ | hother
    · obtain ⟨i, hi, rfl⟩ := List.getElem_of_mem hmem
      have hi' : i < keys.length := by rwa [← hall.length_eq]
      exact hnot _ (hall.get hi hi')
    · rw [← hlength] at hother
      exact hnone hother

theorem getMany_accounts_iff {zKeys : HashTable} {outcome : Outcome}
    {keys : List AsKey}
    (hkeys : keysEnd engine.keyInit (HashTable.values zKeys) = .converted keys)
    (houtcome : BatchOutcome engine answer (getManyRecord engine.rt)
      (· = some (.array [])) outcome (.converted keys)) :
    AccountsFor engine zKeys answer (GetManyEntry engine.rt) outcome ↔
      (outcome.reply = some (.long .ok) →
        ¬ ∃ i < keys.length, OtherResult (answer.results i)) := by
  unfold BatchOutcome at houtcome
  by_cases hcode : answer.err.code = .ok
  · simp only [hcode, if_true] at houtcome
    cases hzs : (keyResults engine keys answer).mapM
        (getManyRecord engine.rt) with
    | none =>
        rw [hzs] at houtcome
        have hok := failsBlank_reply houtcome
        simp [accountsFor_of_fails houtcome, hok]
    | some zs =>
        rw [hzs] at houtcome
        have hok : outcome.reply = some (.long .ok) := houtcome.1
        have hrecords := mapM_eq_some_iff.mp hzs
        have hentries : (¬ ∃ i < keys.length, OtherResult (answer.results i)) →
            Forall₂ (GetManyEntry engine.rt) (keyResults engine keys answer)
              zs := by
          intro hnone
          rw [List.forall₂_iff_get] at hrecords ⊢
          refine ⟨hrecords.1, fun i hi hi' => ?_⟩
          refine getManyEntry_of_record (hrecords.2 i hi hi') ?_
          have hmem : (keyResults engine keys answer).get ⟨i, hi⟩ ∈
              keyResults engine keys answer := List.get_mem _ _
          intro hother
          exact hnone (@results_iff engine answer keys OtherResult |>.mp
            ⟨_, hmem, hother⟩)
        rw [accountsFor_of_returns hkeys houtcome hentries]
        simp [hok]
  · simp only [hcode, if_false] at houtcome
    have hok := failsBlank_reply houtcome
    simp [accountsFor_of_fails houtcome, hok]

theorem existsMany_accounts {zKeys : HashTable} {outcome : Outcome}
    {keys : List AsKey}
    (hkeys : keysEnd engine.keyInit (HashTable.values zKeys) = .converted keys)
    (houtcome : BatchOutcome engine answer existsManyRecord Blank outcome
      (.converted keys)) :
    AccountsFor engine zKeys answer ExistsManyEntry outcome := by
  unfold BatchOutcome at houtcome
  by_cases hcode : answer.err.code = .ok
  · simp only [hcode, if_true] at houtcome
    have hsome := @existsManyRecords_isSome_iff engine answer keys
    cases hzs : (keyResults engine keys answer).mapM existsManyRecord with
    | none =>
        rw [hzs] at houtcome
        exact accountsFor_of_fails houtcome
    | some zs =>
        rw [hzs] at houtcome hsome
        have hnone := (hsome.mp rfl).2
        have hentries : Forall₂ ExistsManyEntry
            (keyResults engine keys answer) zs :=
          (mapM_eq_some_iff.mp hzs).imp fun _ _ => existsManyEntry_of_record
        exact (accountsFor_of_returns hkeys houtcome fun _ => hentries).mpr hnone
  · simp only [hcode, if_false] at houtcome
    exact accountsFor_of_fails houtcome

/-- Whether a call that got to the answer returns OK. -/
theorem batchOutcome_ok_iff {outcome : Outcome} {keys : List AsKey}
    {records : AsKey × BatchResult → Option Zval} {lost : Option Zval → Prop}
    (houtcome : BatchOutcome engine answer records lost outcome
      (.converted keys)) :
    outcome.reply = some (.long .ok) ↔ answer.err.code = .ok ∧
      ((keyResults engine keys answer).mapM records).isSome := by
  unfold BatchOutcome at houtcome
  by_cases hcode : answer.err.code = .ok
  · simp only [hcode, if_true] at houtcome
    cases hzs : (keyResults engine keys answer).mapM records with
    | none =>
        rw [hzs] at houtcome
        simp [failsBlank_reply houtcome]
    | some zs =>
        rw [hzs] at houtcome
        simp [hcode, houtcome.1]
  · simp only [hcode, if_false] at houtcome
    simp [hcode, failsBlank_reply houtcome]

/-! ## Both methods -/

structure BatchArgs where
  keys : HashTable
  filter : Option HashTable
  policy : Option Zval

def BatchArgs.getMany (args : BatchArgs) : GetManyArgs :=
  ⟨args.keys, args.filter, args.policy⟩

def BatchArgs.existsMany (args : BatchArgs) : ExistsManyArgs :=
  ⟨args.keys, args.policy⟩

/-- Both methods account for the batch, and where the filter of `getMany` is
well formed they return OK together. -/
def BatchAccounted (engine : Engine) (answer : Answer) (args : BatchArgs)
    (got existed : Outcome) : Prop :=
  AccountsFor engine args.keys answer (GetManyEntry engine.rt) got ∧
  AccountsFor engine args.keys answer ExistsManyEntry existed ∧
  ((∃ bins, batchBinNames args.filter = .ok bins) →
    (got.reply = some (.long .ok) ↔ existed.reply = some (.long .ok)))

/-- No key is lost, and there is a result that is no answer exactly when there
is one that `getMany` cannot decode. -/
def BatchConsistent (engine : Engine) (answer : Answer) (args : BatchArgs) :
    Prop :=
  keysEnd engine.keyInit (HashTable.values args.keys) ≠ .lost ∧
  ∀ keys, keysEnd engine.keyInit (HashTable.values args.keys) =
      .converted keys →
    (∃ bins, batchBinNames args.filter = .ok bins) → answer.err.code = .ok →
    (∀ key ∈ keys, strlen key.ns ≠ 0) →
    ((∃ i < keys.length, OtherResult (answer.results i)) ↔
      ∃ i < keys.length, UndecodableResult engine.rt (answer.results i))

theorem batchAccounted_of_refused {args : BatchArgs} {got existed : Outcome}
    (hgot : got.FailsBlank) (hexisted : existed.FailsBlank) :
    BatchAccounted engine answer args got existed := by
  refine ⟨accountsFor_of_fails hgot, accountsFor_of_fails hexisted, fun _ => ?_⟩
  simp [failsBlank_reply hgot, failsBlank_reply hexisted]

theorem agree_iff {answered named other undecodable : Prop} :
    (((answered ∧ named ∧ ¬ undecodable) → ¬ other) ∧
      ((answered ∧ named ∧ ¬ undecodable) ↔ (answered ∧ named ∧ ¬ other))) ↔
      (answered → named → (other ↔ undecodable)) := by
  tauto

/-- The batch after the checks, for converted keys. -/
theorem batchAccounted_converted_iff {args : BatchArgs} {got existed : Outcome}
    {keys : List AsKey}
    (hkeys : keysEnd engine.keyInit (HashTable.values args.keys) =
      .converted keys)
    (hfilter : ∃ bins, batchBinNames args.filter = .ok bins)
    (hgot : BatchOutcome engine answer (getManyRecord engine.rt)
      (· = some (.array [])) got (.converted keys))
    (hexisted : BatchOutcome engine answer existsManyRecord Blank existed
      (.converted keys)) :
    BatchAccounted engine answer args got existed ↔
      BatchConsistent engine answer args := by
  have hgotOk := batchOutcome_ok_iff hgot
  have hexistedOk := batchOutcome_ok_iff hexisted
  rw [getManyRecords_isSome_iff] at hgotOk
  rw [existsManyRecords_isSome_iff] at hexistedOk
  have haccounts := getMany_accounts_iff hkeys hgot
  have hexists := existsMany_accounts hkeys hexisted
  have hconsistent : BatchConsistent engine answer args ↔
      (answer.err.code = .ok → (∀ key ∈ keys, strlen key.ns ≠ 0) →
        ((∃ i < keys.length, OtherResult (answer.results i)) ↔
          ∃ i < keys.length,
            UndecodableResult engine.rt (answer.results i))) := by
    unfold BatchConsistent
    rw [hkeys]
    simp [hfilter]
  unfold BatchAccounted
  rw [hconsistent, haccounts]
  simp only [hexists, hfilter, true_and, forall_const]
  rw [hgotOk, hexistedOk]
  exact agree_iff

end

/-- `getMany` and `existsMany` account for every key and agree exactly when no
key is lost and the results they do not know are those that `getMany` cannot
decode. -/
theorem batches_accounted_iff (engine : Engine) (client : Client)
    (oracle : Oracle) (policies : Policies) (clientError : AsError)
    (answer : Answer) (args : BatchArgs)
    (hanswer : ∀ n request, oracle.answer n request = answer)
    (hdelivers : answer.err.code = .ok → answer.delivers = true) :
    BatchAccounted engine answer args
        ((getMany engine client oracle (some args.getMany)).call
          (.start policies clientError))
        ((existsMany engine client oracle (some args.existsMany)).call
          (.start policies clientError)) ↔
      (BatchReadPasses engine client policies args.policy →
        BatchConsistent engine answer args) := by
  by_cases hpasses : BatchReadPasses engine client policies args.policy
  · have hgot := @getMany_passed engine client oracle policies args.getMany
      answer clientError hanswer hpasses
    have hexisted := @existsMany_passed engine client oracle policies
      args.existsMany answer clientError hanswer hdelivers hpasses
    simp only [hpasses, forall_const]
    generalize (getMany engine client oracle (some args.getMany)).call
      (.start policies clientError) = got at hgot ⊢
    generalize (existsMany engine client oracle (some args.existsMany)).call
      (.start policies clientError) = existed at hexisted ⊢
    cases hkeys : keysEnd engine.keyInit (HashTable.values args.keys) with
    | lost =>
        have hlost : BatchOutcome engine answer existsManyRecord Blank existed
            .lost := by
          rw [← hkeys]
          exact hexisted
        refine iff_of_false ?_ fun hconsistent => hconsistent.1 hkeys
        intro haccounted
        exact not_accountsFor_of_lost hkeys hlost haccounted.2.1
    | refused =>
        have hrefused : existed.FailsBlank := by
          have houtcome : BatchOutcome engine answer existsManyRecord Blank
              existed (keysEnd engine.keyInit (HashTable.values args.keys)) :=
            hexisted
          rwa [hkeys] at houtcome
        have hgotFails : got.FailsBlank := by
          have hmany := hgot
          cases hfilter : batchBinNames args.filter with
          | error message =>
              simp only [BatchArgs.getMany, hfilter] at hmany
              exact hmany
          | ok bins =>
              simp only [BatchArgs.getMany, hfilter, hkeys] at hmany
              exact hmany
        refine iff_of_true (batchAccounted_of_refused hgotFails hrefused) ?_
        exact ⟨by simp [hkeys], by simp [hkeys]⟩
    | converted keys =>
        have hexists : BatchOutcome engine answer existsManyRecord Blank existed
            (.converted keys) := by
          rw [← hkeys]
          exact hexisted
        cases hfilter : batchBinNames args.filter with
        | error message =>
            have hgotFails : got.FailsBlank := by
              have hmany := hgot
              simp only [BatchArgs.getMany, hfilter] at hmany
              exact hmany
            have hno : ¬ ∃ bins, batchBinNames args.filter = .ok bins := by
              simp [hfilter]
            refine iff_of_true ⟨accountsFor_of_fails hgotFails,
              existsMany_accounts hkeys hexists, fun h => absurd h hno⟩ ?_
            exact ⟨by simp [hkeys], fun _ _ h => absurd h hno⟩
        | ok bins =>
            have hgotMany : BatchOutcome engine answer
                (getManyRecord engine.rt) (· = some (.array [])) got
                (.converted keys) := by
              have hmany := hgot
              simp only [BatchArgs.getMany, hfilter, hkeys] at hmany
              exact hmany
            exact batchAccounted_converted_iff hkeys ⟨bins, hfilter⟩ hgotMany
              hexists
  · have hgot := @getMany_refused engine client oracle policies args.getMany
      clientError hpasses
    have hexisted := @existsMany_refused engine client oracle policies
      args.existsMany clientError hpasses
    simp only [hpasses, IsEmpty.forall_iff, iff_true]
    exact batchAccounted_of_refused hgot hexisted

/-- The answers of a cluster in which each of the two records is missing. -/
def Oracle.missing : Oracle :=
  { Oracle.accepting with
    answer := fun _ _ =>
      { err := .init, results := fun _ => ⟨.errRecordNotFound, ⟨0, 0, []⟩⟩ } }

def twoKeys : BatchArgs where
  keys := HashTable.ofValues [
    .array [(.str "ns", .string "test"), (.str "set", .string "demo"),
      (.str "key", .long 1)],
    .array [(.str "ns", .string "test"), (.str "set", .string "demo"),
      (.str "key", .string "a")]]
  filter := none
  policy := none

theorem batches_accounted_iff_twoKeys :
    let answer := Oracle.missing.answer 0 (.batchRead none [])
    BatchAccounted Engine.plain answer twoKeys
        ((getMany Engine.plain .connected .missing (some twoKeys.getMany)).call
          (.start default .init))
        ((existsMany Engine.plain .connected .missing
          (some twoKeys.existsMany)).call (.start default .init)) ↔
      (BatchReadPasses Engine.plain .connected default twoKeys.policy →
        BatchConsistent Engine.plain answer twoKeys) :=
  batches_accounted_iff Engine.plain .connected .missing default .init
    _ twoKeys (fun _ _ => rfl) fun _ => rfl

/-- The answers of a cluster in which every key of a batch times out. -/
def Oracle.timingOut : Oracle :=
  { Oracle.accepting with
    answer := fun _ _ =>
      { err := .init, results := fun _ => ⟨.other 9, ⟨0, 0, []⟩⟩ } }

theorem timingOut_not_accounted :
    ¬ BatchAccounted Engine.plain
      (Oracle.timingOut.answer 0 (.batchRead none [])) twoKeys
      ((getMany Engine.plain .connected .timingOut (some twoKeys.getMany)).call
        (.start default .init))
      ((existsMany Engine.plain .connected .timingOut
        (some twoKeys.existsMany)).call (.start default .init)) := by
  intro haccounted
  have hpasses : BatchReadPasses Engine.plain .connected default none :=
    ⟨by decide, rfl⟩
  have hkeys : keysEnd Engine.plain.keyInit (HashTable.values twoKeys.keys) =
      .converted [⟨"test", "demo", .integer 1, none⟩,
        ⟨"test", "demo", .string "a", none⟩] := by
    rfl
  have hgot := @getMany_passed Engine.plain .connected .timingOut default
    twoKeys.getMany _ .init (fun _ _ => rfl) hpasses
  have hfilter : batchBinNames twoKeys.getMany.filter = .ok none := rfl
  simp only [hfilter] at hgot
  have hmany : BatchOutcome Engine.plain
      (Oracle.timingOut.answer 0 (.batchRead none []))
      (getManyRecord Engine.plain.rt) (· = some (.array [])) _
      (keysEnd Engine.plain.keyInit (HashTable.values twoKeys.keys)) := hgot
  rw [hkeys] at hmany
  have haccounts := (getMany_accounts_iff hkeys hmany).mp haccounted.1
  have hok := (batchOutcome_ok_iff hmany).mpr ⟨rfl, rfl⟩
  exact haccounts hok ⟨0, by simp, by simp [OtherResult, Oracle.timingOut]⟩

end AerospikePhp
