import AerospikePhp.RecordRuns
import AerospikePhp.BinLists
import AerospikePhp.BatchAnswers
import Mathlib.Tactic

/-!
# Batches against the cluster

A batch sends one request, so what the methods make of an answer that is always
the same they make of the answer to this request.
-/

namespace AerospikePhp

set_option synthInstance.maxSize 1024

open Procedure Method Proc List

/-- The oracle that gives this answer to every request. -/
def Oracle.always (oracle : Oracle) (answer : Answer) : Oracle :=
  { oracle with answer := fun _ _ => answer }

section

variable {engine : Engine} {client : Client} {oracle : Oracle}
variable {policies : Policies}

theorem withCleanup_congr {α : Type} {body body' : Method Unit}
    {cleanup : Method α} {s : CallState} (hbody : body.run s = body'.run s) :
    (withCleanup body cleanup).run s = (withCleanup body' cleanup).run s := by
  unfold withCleanup
  rw [run_bind, run_bind, run_catchExit, run_catchExit, hbody]

theorem run_bind_congr {α β : Type} {body : Method β} {next next' : β → Method α}
    {s s' : CallState} {value : β} (hbody : body.run s = (.ok value, s'))
    (hnext : (next value).run s' = (next' value).run s') :
    (body >>= next).run s = (body >>= next').run s := by
  rw [run_bind_ok hbody, run_bind_ok hbody, hnext]

/-! ## getMany -/

theorem getManyInner_always {policy : Option PolicyBatch}
    {names : Option (List String)} {zKeys : HashTable} {keys : List AsKey}
    (hkeys : keysEnd engine.keyInit (HashTable.values zKeys) = .converted keys)
    {s : CallState} (herr : s.err = .init) :
    (getManyInner engine (oracle.always (oracle.answer s.requests.length
      (.batchRead policy (keys.map fun key => ⟨key, names⟩)))) policy names
        zKeys).run s = (getManyInner engine oracle policy names zKeys).run s := by
  have hset : (setOutput (.array [])).run s =
      (.ok (), { s with output := some (.array []) }) := rfl
  have hconvert := @convertKeys_run engine "Keys must be arrays"
    (HashTable.values zKeys) { s with output := some (.array []) } herr
  rw [hkeys] at hconvert
  unfold getManyInner
  refine run_bind_congr hset (run_bind_congr hconvert ?_)
  rw [run_bind_ok (issue_run _ _), run_bind_ok (issue_run _ _)]
  rfl

theorem getMany_always {args : GetManyArgs} {policy : Option PolicyBatch}
    {names : Option (List String)} {keys : List AsKey}
    (hpolicy : batchVerdict engine client policies args.policy = .ok policy)
    (hnames : batchBinNames args.filter = .ok names)
    (hkeys : keysEnd engine.keyInit (HashTable.values args.keys) =
      .converted keys) (clientError : AsError) :
    (getMany engine client (oracle.always (oracle.answer 0
      (.batchRead policy (keys.map fun key => ⟨key, names⟩)))) (some args)).call
        (.start policies clientError) =
      (getMany engine client oracle (some args)).call
        (.start policies clientError) := by
  have hstart := @yields_getManyStart engine client policies args.policy
    (.start policies clientError) ⟨rfl, rfl⟩
  rw [hpolicy] at hstart
  obtain ⟨s, hrun, hrequests, herr⟩ := hstart
  have hcount : s.requests.length = 0 := by rw [hrequests]; rfl
  refine call_of_run_eq ?_
  rw [getMany_eq, getMany_eq]
  refine run_bind_congr hrun (withCleanup_congr ?_)
  unfold getManyBody requireBatchBinNames
  rw [hnames]
  refine withCleanup_congr ?_
  have halways := @getManyInner_always engine oracle policy names args.keys keys
    hkeys s herr
  rw [hcount] at halways
  exact halways

theorem getMany_relays {args : GetManyArgs} {policy : Option PolicyBatch}
    {names : Option (List String)} {keys : List AsKey}
    (hpolicy : batchVerdict engine client policies args.policy = .ok policy)
    (hnames : batchBinNames args.filter = .ok names)
    (hkeys : keysEnd engine.keyInit (HashTable.values args.keys) =
      .converted keys) (clientError : AsError) :
    let request := .batchRead policy (keys.map fun key => ⟨key, names⟩)
    let outcome := (getMany engine client oracle (some args)).call
      (.start policies clientError)
    outcome.state.requests = [request] ∧
      BatchOutcome engine (oracle.answer 0 request) (getManyRecord engine.rt)
        (· = some (.array [])) outcome (.converted keys) := by
  intro request outcome
  have hpasses := (batchVerdict_ok_iff args.policy).mp ⟨policy, hpolicy⟩
  constructor
  · have hsends := call_of_sends clientError
      (@getMany_sends engine client oracle policies args fun _ _ _ => by
        rw [hkeys]
        exact KeysEnd.noConfusion)
    have hverdict : getManyVerdict engine client policies args = .ok request := by
      unfold getManyVerdict readsVerdict
      rw [hpolicy]
      simp only [bind, Except.bind, hnames, hkeys, request]
    rw [hverdict] at hsends
    exact meets_sameRequests hsends
  · have hpassed := @getMany_passed engine client (oracle.always
      (oracle.answer 0 request)) policies args (oracle.answer 0 request)
      clientError (fun _ _ => rfl) hpasses
    rw [hnames, hkeys] at hpassed
    have halways := @getMany_always engine client oracle policies args policy
      names keys hpolicy hnames hkeys clientError
    rw [halways] at hpassed
    exact hpassed

/-! ## existsMany -/

theorem existsManyRest_always {args : ExistsManyArgs}
    {policy : Option PolicyBatch} {keys : List AsKey}
    (hkeys : keysEnd engine.keyInit (HashTable.values args.keys) =
      .converted keys) {s : CallState} (herr : s.err = .init) :
    (existsManyRest engine (oracle.always (oracle.answer s.requests.length
      (.batchExists policy keys))) args policy).run s =
        (existsManyRest engine oracle args policy).run s := by
  have hconvert := @convertKeys_run engine "Invalid Key"
    (HashTable.values args.keys) s herr
  rw [hkeys] at hconvert
  have hset : (setOutput (.array [])).run s =
      (.ok (), { s with output := some (.array []) }) := rfl
  unfold existsManyRest
  refine run_bind_congr hconvert (run_bind_congr hset ?_)
  rw [run_bind_ok (issue_run _ _), run_bind_ok (issue_run _ _)]
  rfl

def existsManyVerdict (engine : Engine) (client : Client) (policies : Policies)
    (args : ExistsManyArgs) : Verdict Request := do
  let policy ← batchVerdict engine client policies args.policy
  match keysEnd engine.keyInit (HashTable.values args.keys) with
  | .converted keys => .ok (.batchExists policy keys)
  | _ => .error .failed

theorem existsManyRest_sends {args : ExistsManyArgs}
    {policy : Option PolicyBatch} {keys : List AsKey}
    (hkeys : keysEnd engine.keyInit (HashTable.values args.keys) =
      .converted keys) :
    Sends SameRequests true clean (existsManyRest engine oracle args policy)
      (.ok (.batchExists policy keys)) := by
  unfold existsManyRest
  have hconvert : Yields true clean
      (convertKeys engine "Invalid Key" (HashTable.values args.keys))
      (.ok keys) clean := by
    intro s herr
    have hrun := @convertKeys_run engine "Invalid Key"
      (HashTable.values args.keys) s herr
    rw [hkeys] at hrun
    exact ⟨s, hrun, rfl, herr⟩
  refine sends_seq hconvert ?_
  refine sends_seq (yields_setOutput _) ?_
  exact sends_issue

theorem existsManyRest_refused {args : ExistsManyArgs}
    {policy : Option PolicyBatch}
    (hkeys : keysEnd engine.keyInit (HashTable.values args.keys) = .refused) :
    Sends SameRequests true clean (existsManyRest engine oracle args policy)
      (.error .failed) := by
  intro s herr
  have hconvert := @convertKeys_run engine "Invalid Key"
    (HashTable.values args.keys) s herr
  rw [hkeys] at hconvert
  obtain ⟨s', hrun, hcode, -⟩ := hconvert
  have hsame : Moves SameRequests (convertKeys engine "Invalid Key"
      (HashTable.values args.keys)) := inferInstance
  have hrequests := hsame.moves s
  rw [hrun] at hrequests
  unfold existsManyRest
  exact ⟨.cleanup, s', run_bind_error hrun, hrequests, rfl, hcode⟩

/-- Unless a key is lost. -/
theorem existsMany_sends {args : ExistsManyArgs}
    (hlost : keysEnd engine.keyInit (HashTable.values args.keys) ≠ .lost) :
    Sends SameRequests false (cleanWith policies)
      (existsMany engine client oracle (some args))
      (existsManyVerdict engine client policies args) := by
  rw [existsMany_eq]
  refine sends_withCleanup ?_ reports_existsManyCleanup
  unfold existsManyVerdict
  refine sends_bind_of_ok (yields_existsManyStart args.policy) fun policy _ => ?_
  cases hkeys : keysEnd engine.keyInit (HashTable.values args.keys) with
  | converted keys => exact existsManyRest_sends hkeys
  | refused => exact existsManyRest_refused hkeys
  | lost => exact absurd hkeys hlost

theorem existsMany_always {args : ExistsManyArgs} {policy : Option PolicyBatch}
    {keys : List AsKey}
    (hpolicy : batchVerdict engine client policies args.policy = .ok policy)
    (hkeys : keysEnd engine.keyInit (HashTable.values args.keys) =
      .converted keys) (clientError : AsError) :
    (existsMany engine client (oracle.always (oracle.answer 0
      (.batchExists policy keys))) (some args)).call
        (.start policies clientError) =
      (existsMany engine client oracle (some args)).call
        (.start policies clientError) := by
  have hstart := @yields_existsManyStart engine client policies args.policy
    (.start policies clientError) ⟨rfl, rfl⟩
  rw [hpolicy] at hstart
  obtain ⟨s, hrun, hrequests, herr⟩ := hstart
  have hcount : s.requests.length = 0 := by rw [hrequests]; rfl
  refine call_of_run_eq ?_
  rw [existsMany_eq, existsMany_eq]
  refine withCleanup_congr (run_bind_congr hrun ?_)
  have halways := @existsManyRest_always engine oracle args policy keys hkeys s
    herr
  rw [hcount] at halways
  exact halways

theorem existsMany_relays {args : ExistsManyArgs} {policy : Option PolicyBatch}
    {keys : List AsKey}
    (hpolicy : batchVerdict engine client policies args.policy = .ok policy)
    (hkeys : keysEnd engine.keyInit (HashTable.values args.keys) =
      .converted keys)
    (hdelivers : (oracle.answer 0 (.batchExists policy keys)).delivers = true)
    (clientError : AsError) :
    let request := .batchExists policy keys
    let outcome := (existsMany engine client oracle (some args)).call
      (.start policies clientError)
    outcome.state.requests = [request] ∧
      BatchOutcome engine (oracle.answer 0 request) existsManyRecord Blank
        outcome (.converted keys) := by
  intro request outcome
  have hpasses := (batchVerdict_ok_iff args.policy).mp ⟨policy, hpolicy⟩
  constructor
  · have hsends := call_of_sends clientError
      (@existsMany_sends engine client oracle policies args (by
        rw [hkeys]
        exact KeysEnd.noConfusion))
    have hverdict : existsManyVerdict engine client policies args =
        .ok request := by
      unfold existsManyVerdict
      rw [hpolicy]
      simp only [bind, Except.bind, hkeys, request]
    rw [hverdict] at hsends
    exact meets_sameRequests hsends
  · have hpassed := @existsMany_passed engine client (oracle.always
      (oracle.answer 0 request)) policies args (oracle.answer 0 request)
      clientError (fun _ _ => rfl) (fun _ => hdelivers) hpasses
    rw [hkeys] at hpassed
    have halways := @existsMany_always engine client oracle policies args policy
      keys hpolicy hkeys clientError
    rw [halways] at hpassed
    exact hpassed

/-! ## The entries of a batch -/

theorem mapM_of_forall {α β γ : Type} {f : α → Option β} {g : α → γ}
    {E : γ → β → Prop} {xs : List α}
    (hf : ∀ x ∈ xs, ∃ y, f x = some y ∧ E (g x) y) :
    ∃ ys, xs.mapM f = some ys ∧ Forall₂ E (xs.map g) ys := by
  induction xs with
  | nil => exact ⟨[], rfl, .nil⟩
  | cons x xs ih =>
      rw [List.forall_mem_cons] at hf
      obtain ⟨⟨y, hy, hE⟩, hrest⟩ := hf
      obtain ⟨ys, hys, hall⟩ := ih hrest
      refine ⟨y :: ys, ?_, .cons hE hall⟩
      simp [List.mapM_cons, hy, hys]

/-- Results that depend on the keys alone. -/
theorem keyResults_eq_map {keys : List AsKey} {answer : Answer}
    {result : AsKey → BatchResult}
    (hresults : ∀ i (hi : i < keys.length), answer.results i = result keys[i]) :
    keyResults engine keys answer =
      keys.map fun key => (engine.digested key, result key) := by
  unfold keyResults
  apply List.ext_getElem (by simp)
  intro i hi hi'
  simp only [List.length_mapIdx] at hi
  simp [hresults i hi]

/-- A batch whose keys are all there with their results, and whose entries can
all be made. -/
theorem BatchOutcome.returns {answer : Answer}
    {records : AsKey × BatchResult → Option Zval} {lost : Option Zval → Prop}
    {outcome : Outcome} {keys : List AsKey} {result : AsKey → BatchResult}
    {ρ : Type} {row : AsKey → ρ} {E : ρ → Zval → Prop}
    (houtcome : BatchOutcome engine answer records lost outcome (.converted keys))
    (hok : answer.err.code = .ok)
    (hresults : ∀ i (hi : i < keys.length), answer.results i = result keys[i])
    (hentry : ∀ key ∈ keys, ∃ z,
      records (engine.digested key, result key) = some z ∧ E (row key) z) :
    outcome.Returns fun output => ∃ zs,
      output = some (.array (HashTable.ofValues zs)) ∧
        Forall₂ E (keys.map row) zs := by
  obtain ⟨zs, hzs, hall⟩ := mapM_of_forall hentry
  have hmapM : (keyResults engine keys answer).mapM records = some zs := by
    rw [keyResults_eq_map hresults, List.mapM_map]
    exact hzs
  unfold BatchOutcome at houtcome
  simp only [hok, if_true, hmapM] at houtcome
  exact ⟨houtcome.1, zs, houtcome.2, hall⟩

end

end AerospikePhp
