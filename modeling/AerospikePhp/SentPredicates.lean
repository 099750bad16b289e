import AerospikePhp.QueryRequests
import Mathlib.Tactic

/-!
# Queries that keep their predicate

A query without its predicate runs over a whole set.  Here is when each of the
three methods that take a predicate sends exactly the clause it was asked for,
or nothing.
-/

namespace AerospikePhp

open Procedure Method Proc

section

variable {engine : Engine} {client : Client} {oracle : Oracle}
variable {policies : Policies} {predicate : HashTable}

/-- The call is refused without a request, or its request has the clause that
the predicate array asks for and no other. -/
def KeepsPredicate (engine : Engine) (predicate : HashTable)
    (outcome : Outcome) : Prop :=
  outcome.Refused ∨ ∃ request clause, outcome.state.requests = [request] ∧
    askedClause engine.indexTypes predicate = some clause ∧
    request.wheres = some [clause]

/-- All that is left of the call is the predicate and the request. -/
def SubmitsQuery (engine : Engine) (oracle : Oracle) (predicate : HashTable)
    (verdict : Verdict Request) : Prop :=
  ∃ (base : AsQuery) (make : AsQuery → Request), base.wheres = [] ∧
    (∀ query, (make query).wheres = some query.wheres) ∧
    verdict = (predicateVerdict engine oracle base predicate >>= fun query =>
      .ok (make query))

/-- The same, for the method that looks at the error object after the
predicate. -/
def SubmitsCleanQuery (engine : Engine) (oracle : Oracle)
    (predicate : HashTable) (verdict : Verdict Request) : Prop :=
  ∃ (base : AsQuery) (make : AsQuery → Request), base.wheres = [] ∧
    (∀ query, (make query).wheres = some query.wheres) ∧
    verdict = (predicateVerdict engine oracle base predicate >>= fun query => do
      ensure ((predicateRun engine oracle base predicate).err.code = .ok)
      .ok (make query))

theorem predicateRun_ends {base : AsQuery}
    (hne : HashTable.numElements predicate ≠ 0) :
    (predicateRun engine oracle base predicate).EndsAs base .init
      (predicateEnd engine.indexTypes oracle.whereOk predicate) := by
  unfold predicateRun
  rw [if_neg hne]
  exact addPredicateToQuery_ends predicate

theorem predicateVerdict_of_status {base : AsQuery}
    (hstatus : (predicateRun engine oracle base predicate).status ≠ .ok) :
    predicateVerdict engine oracle base predicate = .error .failed :=
  if_neg hstatus

theorem predicateVerdict_of_ok {base : AsQuery}
    (hstatus : (predicateRun engine oracle base predicate).status = .ok) :
    predicateVerdict engine oracle base predicate =
      .ok (predicateRun engine oracle base predicate).query := if_pos hstatus

/-- A request whose clauses are these keeps the predicate when they are the
clause asked for. -/
theorem keepsPredicate_of_sent {outcome : Outcome} {request : Request}
    {wheres : List WhereClause}
    (hsent : outcome.state.requests = [request])
    (hwheres : request.wheres = some wheres) :
    KeepsPredicate engine predicate outcome ↔
      ∃ clause, askedClause engine.indexTypes predicate = some clause ∧
        wheres = [clause] := by
  constructor
  · rintro (⟨-, hnone⟩ | ⟨request', clause, hone, hasked, hclause⟩)
    · exact absurd (hsent.symm.trans hnone) (by simp)
    · obtain rfl : request = request' := by simpa using hsent.symm.trans hone
      exact ⟨clause, hasked, Option.some.inj (hwheres.symm.trans hclause)⟩
  · rintro ⟨clause, hasked, rfl⟩
    exact .inr ⟨request, clause, hsent, hasked, hwheres⟩

theorem keepsPredicate_iff {method : Method Reply} {verdict : Verdict Request}
    {passes : Prop} (clientError : AsError)
    (hsends : Sends SameRequests false (cleanWith policies) method verdict)
    (hgated : Gated passes (SubmitsQuery engine oracle predicate) verdict)
    (hne : HashTable.numElements predicate ≠ 0) :
    KeepsPredicate engine predicate
        (method.call (.start policies clientError)) ↔
      (passes → PredicateExact engine.indexTypes oracle.whereOk predicate) := by
  have hcall := call_of_sends clientError hsends
  rcases hgated with ⟨hpasses, base, make, hbase, hmake, rfl⟩ | ⟨hstops, rfl⟩
  · simp only [hpasses, forall_const]
    have hrun := @predicateRun_ends engine oracle _ base hne
    cases hend : predicateEnd engine.indexTypes oracle.whereOk predicate with
    | added clause =>
        rw [hend] at hrun
        have hlost : ¬ PredicateLost engine.indexTypes oracle.whereOk
            predicate := by
          rw [← predicateEnd_lost_iff, hend]
          simp
        rw [predicateVerdict_of_ok (by rw [hrun])] at hcall
        rw [keepsPredicate_of_sent (meets_sameRequests hcall) (hmake _), hrun,
          PredicateExact, and_iff_right hlost, predicateTexts_iff_of_added hend]
        simp [addWhere, hbase]
    | refused =>
        rw [hend] at hrun
        rw [predicateVerdict_of_status hrun.1] at hcall
        exact iff_of_true (.inl hcall) (predicateExact_of_refused hend)
    | lost =>
        rw [hend] at hrun
        rw [predicateVerdict_of_ok hrun.1] at hcall
        rw [keepsPredicate_of_sent (meets_sameRequests hcall) (hmake _),
          hrun.2.2, hbase]
        have hlost := (predicateEnd_lost_iff predicate).mp hend
        exact iff_of_false (by simp) fun hexact => hexact.1 hlost
  · exact iff_of_true (.inl hcall) fun hpasses => absurd hpasses hstops

theorem keepsPredicate_clean_iff {method : Method Reply}
    {verdict : Verdict Request} {passes : Prop} (clientError : AsError)
    (hsends : Sends SameRequests false (cleanWith policies) method verdict)
    (hgated : Gated passes (SubmitsCleanQuery engine oracle predicate) verdict)
    (hne : HashTable.numElements predicate ≠ 0) :
    KeepsPredicate engine predicate
        (method.call (.start policies clientError)) ↔
      (passes → PredicateTexts engine.indexTypes oracle.whereOk predicate) := by
  have hcall := call_of_sends clientError hsends
  rcases hgated with ⟨hpasses, base, make, hbase, hmake, rfl⟩ | ⟨hstops, rfl⟩
  · simp only [hpasses, forall_const]
    have hrun := @predicateRun_ends engine oracle _ base hne
    cases hend : predicateEnd engine.indexTypes oracle.whereOk predicate with
    | added clause =>
        rw [hend] at hrun
        rw [predicateVerdict_of_ok (by rw [hrun])] at hcall
        have hclean : ensure
            ((predicateRun engine oracle base predicate).err.code = .ok) =
            .ok () := by
          rw [hrun]
          rfl
        rw [hclean] at hcall
        rw [keepsPredicate_of_sent (meets_sameRequests hcall) (hmake _), hrun,
          predicateTexts_iff_of_added hend]
        simp [addWhere, hbase]
    | refused =>
        rw [hend] at hrun
        rw [predicateVerdict_of_status hrun.1] at hcall
        exact iff_of_true (.inl hcall) (predicateExact_of_refused hend).2
    | lost =>
        rw [hend] at hrun
        rw [predicateVerdict_of_ok hrun.1] at hcall
        have hdirty : ensure
            ((predicateRun engine oracle base predicate).err.code = .ok) =
            .error .failed := if_neg hrun.2.1
        rw [hdirty] at hcall
        exact iff_of_true (.inl hcall)
          (predicateTexts_of_not_added (by simp [hend]))
  · exact iff_of_true (.inl hcall) fun hpasses => absurd hpasses hstops

/-! ## The three methods -/

/-- The checks of `query` around its predicate. -/
def QueryPasses (engine : Engine) (client : Client) (oracle : Oracle)
    (policies : Policies) (args : QueryArgs) : Prop :=
  client.Ready ∧ args.ns.length ≠ 0 ∧
    (zvalToAsPolicyQuery engine.init.query args.policy policies.query).status =
      .ok ∧
    oracle.queryInitOk = true ∧ (queryOptions engine args).1 = .ok ∧
    (selectBins (args.select.getD [])).isSome

/-- The checks of `queryApply` around its predicate. -/
def QueryApplyPasses (engine : Engine) (client : Client) (oracle : Oracle)
    (policies : Policies) (args : UdfQueryArgs) : Prop :=
  client.Ready ∧ args.ns.length ≠ 0 ∧
    (zvalToAsPolicyWrite engine.init.write args.policy policies.write).status =
      .ok ∧
    oracle.queryInitOk = true ∧ oracle.applyOk = true

/-- The checks of `aggregate` around its predicate. -/
def AggregatePasses (engine : Engine) (client : Client) (oracle : Oracle)
    (policies : Policies) (args : UdfQueryArgs) : Prop :=
  client.Ready ∧ args.ns.length ≠ 0 ∧ args.module.length ≠ 0 ∧
    args.function.length ≠ 0 ∧
    (zvalToAsPolicyQuery engine.init.query args.policy policies.query).status =
      .ok ∧
    oracle.queryInitOk = true ∧
    (encodeItems engine.rt (iniSerializerType engine) args.args).isSome ∧
    oracle.applyOk = true

theorem queryPolicy_of_none {zPolicy : Option Zval} {policy : PolicyQuery}
    (hnone : nonNull zPolicy = none) :
    (zvalToAsPolicyQuery engine.init.query zPolicy policy).status = .ok := by
  unfold nonNull at hnone
  split at hnone
  · rfl
  · rw [hnone]
    rfl

theorem queryOptions_wheres (args : QueryArgs) :
    (queryOptions engine args).2.wheres = [] := by
  unfold queryOptions setQueryOptionsFromPolicyHash
  split
  · rfl
  · rfl
  · split <;> rfl
  · rfl

theorem queryVerdict_gated (args : QueryArgs) :
    Gated (QueryPasses engine client oracle policies args)
      (SubmitsQuery engine oracle args.predicate)
      (queryVerdict engine client oracle policies args) := by
  unfold queryVerdict
  refine gated_ensure fun _ => gated_ensure fun _ => ?_
  rw [ifGiven_policyOf queryPolicy_of_none]
  refine gated_if fun _ => gated_ensure fun _ => gated_ensure fun _ => ?_
  refine gated_and_true (gated_present fun select _ => gated_of_true trivial ?_)
  exact ⟨{ (queryOptions engine args).2 with select := select }, _,
    queryOptions_wheres args, fun _ => rfl, rfl⟩

/-- A failure of the predicate is the failure of the call. -/
theorem predicateVerdict_bind_failed (base : AsQuery) :
    (predicateVerdict engine oracle base predicate >>= fun _ =>
      (.error .failed : Verdict Request)) = .error .failed := by
  unfold predicateVerdict
  split <;> rfl

theorem queryApplyVerdict_gated (args : UdfQueryArgs) :
    Gated (QueryApplyPasses engine client oracle policies args)
      (SubmitsQuery engine oracle args.predicate)
      (queryApplyVerdict engine client oracle policies args) := by
  unfold queryApplyVerdict
  refine gated_ensure fun _ => gated_ensure fun _ => gated_if fun _ => ?_
  refine gated_ensure fun _ => ?_
  unfold ensure
  by_cases happly : oracle.applyOk = true
  · simp only [if_pos happly]
    exact gated_of_true happly ⟨_, _, rfl, fun _ => rfl, rfl⟩
  · simp only [if_neg happly]
    exact .inr ⟨happly, predicateVerdict_bind_failed _⟩

theorem cleanList_eq (err : AsError) (serializerType : SerializerType)
    (items : HashTable) :
    cleanList engine err serializerType items = (do
      let list ← present (encodeItems engine.rt serializerType items)
      ensure (err.code = .ok)
      .ok (some list)) := by
  unfold cleanList listAfter ensure
  by_cases herr : err.code = .ok
  · rw [if_pos herr, if_pos herr]
    rfl
  · rw [if_neg herr, if_neg herr]
    cases encodeItems engine.rt serializerType items <;> rfl

theorem aggregateVerdict_gated (args : UdfQueryArgs) :
    Gated (AggregatePasses engine client oracle policies args)
      (SubmitsCleanQuery engine oracle args.predicate)
      (aggregateVerdict engine client oracle policies args) := by
  unfold aggregateVerdict
  refine gated_ensure fun _ => gated_ensure fun _ => gated_ensure fun _ => ?_
  refine gated_ensure fun _ => ?_
  rw [ifGiven_policyOf queryPolicy_of_none]
  refine gated_if fun _ => gated_ensure fun _ => ?_
  rw [cleanList_eq]
  cases hlist : encodeItems engine.rt (iniSerializerType engine) args.args with
  | none => exact .inr ⟨fun h => by simp at h, predicateVerdict_bind_failed _⟩
  | some list =>
      have hiff : oracle.applyOk = true ↔
          (some list).isSome = true ∧ oracle.applyOk = true := by simp
      refine gated_congr ?_ hiff
      unfold ensure
      by_cases happly : oracle.applyOk = true
      · refine gated_of_true happly ⟨udfQuery args, fun query =>
          .queryForeach ((nonNull args.policy).map fun _ =>
            (zvalToAsPolicyQuery engine.init.query args.policy
              policies.query).policy)
          { query with apply := some (udfCall args (some list)) },
          rfl, fun _ => rfl, ?_⟩
        unfold ensure
        rw [if_pos happly]
        cases predicateVerdict engine oracle (udfQuery args) args.predicate with
        | error halt => rfl
        | ok query =>
            by_cases herr : (predicateRun engine oracle (udfQuery args)
                args.predicate).err.code = .ok
            · rw [if_pos herr]
              rfl
            · rw [if_neg herr]
              rfl
      · rw [if_neg happly]
        refine .inr ⟨happly, ?_⟩
        rw [← @predicateVerdict_bind_failed engine oracle args.predicate
            (udfQuery args)]
        cases predicateVerdict engine oracle (udfQuery args) args.predicate with
        | error halt => rfl
        | ok query => split <;> rfl

/-- When the three methods keep their predicates. -/
theorem predicates_kept_iff (engine : Engine) (client : Client)
    (oracle : Oracle) (policies : Policies) (clientError : AsError)
    (query : AsQuery) (err : AsError) (queryArgs : QueryArgs)
    (udfArgs : UdfQueryArgs)
    (hquery : HashTable.numElements queryArgs.predicate ≠ 0)
    (hudf : HashTable.numElements udfArgs.predicate ≠ 0) :
    (PredicateKept engine.indexTypes oracle.whereOk query err queryArgs.predicate
        (addPredicateToQuery engine.indexTypes oracle.whereOk query
          queryArgs.predicate err) ↔
      PredicateExact engine.indexTypes oracle.whereOk queryArgs.predicate) ∧
    (KeepsPredicate engine queryArgs.predicate
        ((AerospikePhp.query engine client oracle (some queryArgs)).call
          (.start policies clientError)) ↔
      (QueryPasses engine client oracle policies queryArgs →
        PredicateExact engine.indexTypes oracle.whereOk queryArgs.predicate)) ∧
    (KeepsPredicate engine udfArgs.predicate
        ((queryApply engine client oracle (some udfArgs)).call
          (.start policies clientError)) ↔
      (QueryApplyPasses engine client oracle policies udfArgs →
        PredicateExact engine.indexTypes oracle.whereOk udfArgs.predicate)) ∧
    (KeepsPredicate engine udfArgs.predicate
        ((aggregate engine client oracle (some udfArgs)).call
          (.start policies clientError)) ↔
      (AggregatePasses engine client oracle policies udfArgs →
        PredicateTexts engine.indexTypes oracle.whereOk udfArgs.predicate)) :=
  ⟨predicateKept_iff queryArgs.predicate,
    keepsPredicate_iff clientError (query_sends queryArgs)
      (queryVerdict_gated queryArgs) hquery,
    keepsPredicate_iff clientError (queryApply_sends udfArgs)
      (queryApplyVerdict_gated udfArgs) hudf,
    keepsPredicate_clean_iff clientError (aggregate_sends udfArgs)
      (aggregateVerdict_gated udfArgs) hudf⟩

end

/-- An equality predicate with a boolean for its value. -/
def lostQuery : QueryArgs where
  ns := "test"
  set := "demo"
  predicate := [(.str "bin", .string "b"), (.str "op", .string "="),
    (.str "val", .bool true)]
  select := none
  policy := none

def lostUdfQuery : UdfQueryArgs where
  ns := "test"
  set := "demo"
  predicate := lostQuery.predicate
  module := "m"
  function := "f"
  args := []
  policy := none

theorem predicates_kept_iff_lostQuery :
    KeepsPredicate Engine.plain lostQuery.predicate
        ((query Engine.plain Client.connected Oracle.accepting
          (some lostQuery)).call (.start default .init)) ↔
      (QueryPasses Engine.plain Client.connected Oracle.accepting default
          lostQuery →
        PredicateExact Engine.plain.indexTypes true lostQuery.predicate) :=
  (predicates_kept_iff Engine.plain Client.connected Oracle.accepting default
    .init { ns := "test", set := "demo" } .init lostQuery lostUdfQuery
    (by decide) (by decide)).2.1

/-- The query runs over the whole set. -/
theorem lostQuery_not_kept :
    ¬ KeepsPredicate Engine.plain lostQuery.predicate
      ((query Engine.plain Client.connected Oracle.accepting
        (some lostQuery)).call (.start default .init)) := by
  have hsent : ((query Engine.plain Client.connected Oracle.accepting
      (some lostQuery)).call (.start default .init)).state.requests =
      [.queryForeach none { ns := "test", set := "demo" }] := rfl
  rintro (⟨-, hnone⟩ | ⟨request, clause, hone, -, hwheres⟩)
  · exact absurd (hsent.symm.trans hnone) (by simp)
  · obtain rfl : Request.queryForeach none { ns := "test", set := "demo" } =
        request := by
      simpa using hsent.symm.trans hone
    cases hwheres

end AerospikePhp
