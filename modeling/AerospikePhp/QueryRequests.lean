import AerospikePhp.QueryMethods
import AerospikePhp.Verdicts
import Mathlib.Tactic

/-!
# What queries and scans send

The verdicts of the methods that take a predicate or an argument list, and when
the predicate and the list reach the cluster.
-/

namespace AerospikePhp

open Procedure Method Proc

/-! ## Requests -/

/-- The where clauses of a query. -/
def Request.wheres : Request → Option (List WhereClause)
  | .queryForeach _ query | .queryBackground _ query => some query.wheres
  | _ => none

/-- The list that a request carries: the arguments of a UDF, or the value of
its only operation. -/
def Request.list : Request → Option (Option (List AsVal))
  | .keyApply _ _ call => some call.args
  | .queryForeach _ query | .queryBackground _ query =>
      query.apply.map UdfCall.args
  | .scanForeach _ scan | .scanBackground _ scan =>
      scan.apply.map UdfCall.args
  | .keyOperate _ _ operations =>
      match operations.ops with
      | [{ value := .list items, .. }] => some items
      | _ => none
  | _ => none

/-- The call only waits for a job. -/
def Request.waits : Request → Bool
  | .scanWait _ => true
  | _ => false

/-- Nothing was sent in between but calls that wait. -/
def OnlyWaits (s s' : CallState) : Prop :=
  ∃ waits : List Request, s'.requests = s.requests ++ waits ∧
    ∀ request ∈ waits, request.waits = true

instance : Frame OnlyWaits where
  refl s := ⟨[], by simp⟩
  trans := by
    rintro s s' s'' ⟨waits, heq, hwaits⟩ ⟨waits', heq', hwaits'⟩
    refine ⟨waits ++ waits', by rw [heq', heq, List.append_assoc], ?_⟩
    intro request hrequest
    rcases List.mem_append.mp hrequest with hmem | hmem
    · exact hwaits request hmem
    · exact hwaits' request hmem
  untouched _ h := ⟨[], by simp [h]⟩

instance (oracle : Oracle) (id : ℕ) :
    Moves OnlyWaits (issue oracle (.scanWait id)) :=
  ⟨fun _ => ⟨[.scanWait id], rfl, by simp [Request.waits]⟩⟩

/-! ## Verdicts -/

section

variable (engine : Engine) (client : Client) (oracle : Oracle)
variable (policies : Policies)

/-- What the predicate does to a query, with a clean error object. -/
def predicateRun (query : AsQuery) (predicate : HashTable) : Predicated :=
  if HashTable.numElements predicate = 0 then ⟨.ok, query, .init⟩
  else
    addPredicateToQuery engine.indexTypes oracle.whereOk query predicate .init

def predicateVerdict (query : AsQuery) (predicate : HashTable) :
    Verdict AsQuery :=
  if (predicateRun engine oracle query predicate).status = .ok then
    .ok (predicateRun engine oracle query predicate).query
  else .error .failed

/-- The list that the converter makes, which is NULL when the error object
holds an error. -/
def listAfter (err : AsError) (serializerType : SerializerType)
    (items : HashTable) : Option (List AsVal) :=
  if err.code = .ok then encodeItems engine.rt serializerType items else none

/-- The list, where the error object stays clean. -/
def cleanList (err : AsError) (serializerType : SerializerType)
    (items : HashTable) : Verdict (Option (List AsVal)) := do
  let list ← present (listAfter engine err serializerType items)
  .ok (some list)

def queryOptions (args : QueryArgs) : AsStatus × AsQuery :=
  setQueryOptionsFromPolicyHash engine.rt
    { ns := cString args.ns, set := cString args.set } (nonNull args.policy)

def queryVerdict (args : QueryArgs) : Verdict Request := do
  ensure client.Ready
  ensure (args.ns.length ≠ 0)
  let policy ← ifGiven (nonNull args.policy)
    (policyOf (zvalToAsPolicyQuery engine.init.query args.policy policies.query))
  ensure (oracle.queryInitOk = true)
  ensure ((queryOptions engine args).1 = .ok)
  let select ← present (selectBins (args.select.getD []))
  let query ← predicateVerdict engine oracle
    { (queryOptions engine args).2 with select := select } args.predicate
  .ok (.queryForeach policy query)

/-- The query of `queryApply` and `aggregate`, before its predicate. -/
def udfQuery (args : UdfQueryArgs) : AsQuery :=
  { ns := cString args.ns, set := cString args.set }

def queryApplyVerdict (args : UdfQueryArgs) : Verdict Request := do
  ensure client.Ready
  ensure (args.ns.length ≠ 0)
  let policy ← policyOf
    (zvalToAsPolicyWrite engine.init.write args.policy policies.write)
  ensure (oracle.queryInitOk = true)
  let query ← predicateVerdict engine oracle (udfQuery args) args.predicate
  ensure (oracle.applyOk = true)
  .ok (.queryBackground policy { query with
    apply := some (udfCall args (listAfter engine
      (predicateRun engine oracle (udfQuery args) args.predicate).err
      (iniSerializerType engine) args.args)) })

def aggregateVerdict (args : UdfQueryArgs) : Verdict Request := do
  ensure client.Ready
  ensure (args.ns.length ≠ 0)
  ensure (args.module.length ≠ 0)
  ensure (args.function.length ≠ 0)
  let policy ← ifGiven (nonNull args.policy)
    (policyOf (zvalToAsPolicyQuery engine.init.query args.policy policies.query))
  ensure (oracle.queryInitOk = true)
  let query ← predicateVerdict engine oracle (udfQuery args) args.predicate
  let list ← cleanList engine
    (predicateRun engine oracle (udfQuery args) args.predicate).err
    (iniSerializerType engine) args.args
  ensure (oracle.applyOk = true)
  .ok (.queryForeach policy { query with
    apply := some (udfCall args list) })

def scanApplyVerdict (args : ScanApplyArgs) : Verdict Request := do
  ensure client.Ready
  ensure (args.ns.length ≠ 0)
  ensure (args.module.length ≠ 0 ∧ args.function.length ≠ 0)
  let policy ← policyOf
    (zvalToAsPolicyScan engine.init.scan args.policy policies.scan)
  ensure ((setScanOptionsFromPolicyHash
    { ns := cString args.ns, set := cString args.set } args.policy).1 = .ok)
  ensure (oracle.scanInitOk = true)
  ensure (oracle.applyOk = true)
  .ok (.scanBackground policy {
    ns := cString args.ns, set := cString args.set
    apply := some ⟨cString args.module, cString args.function,
      encodeItems engine.rt (iniSerializerType engine) args.args⟩ })

def applyVerdict (args : ApplyArgs) : Verdict Request := do
  ensure client.Ready
  let key ← present (keyOf engine.keyInit args.key)
  let policy ← policyOf
    (zvalToAsPolicyApply engine.init.apply args.policy policies.apply)
  ensure ((setSerializerFromPolicyHash engine.iniSerializer
    (toInt32 engine.iniSerializer) args.policy).1 = .ok)
  .ok (.keyApply policy key ⟨cString args.module, cString args.function,
    match args.args with
    | some zArgs => encodeItems engine.rt (callSerializer engine args.policy) zArgs
    | none => some []⟩)

end

section

variable {engine : Engine} {client : Client} {oracle : Oracle}
variable {policies : Policies} {inner : Bool} {p : Assertion}

/-! ## Pieces -/

instance {R : CallState → CallState → Prop} [Frame R] (values : List AsVal)
    (table : HashTable) : Moves R (aggregateCallback engine values table) := by
  induction values generalizing table with
  | nil =>
      unfold aggregateCallback
      infer_instance
  | cons value values ih =>
      unfold aggregateCallback
      infer_instance

instance {R : CallState → CallState → Prop} [Frame R] (query : AsQuery)
    (predicate : HashTable) :
    Moves R (addPredicate engine oracle query predicate) := by
  unfold addPredicate
  infer_instance

theorem predicateRun_err {query : AsQuery} {predicate : HashTable}
    (hrefused : (predicateRun engine oracle query predicate).status ≠ .ok) :
    (predicateRun engine oracle query predicate).err.code ≠ .ok := by
  unfold predicateRun at hrefused ⊢
  split at hrefused
  · simp at hrefused
  · next hne =>
      rw [if_neg hne]
      have hend := @addPredicateToQuery_ends engine.indexTypes oracle.whereOk
        query .init predicate
      generalize addPredicateToQuery engine.indexTypes oracle.whereOk query
        predicate .init = result at hrefused hend ⊢
      cases hcase : predicateEnd engine.indexTypes oracle.whereOk predicate with
      | added clause =>
          rw [hcase] at hend
          obtain rfl : result = ⟨.ok, addWhere query clause, .init⟩ := hend
          simp at hrefused
      | refused =>
          rw [hcase] at hend
          exact hend.2.1
      | lost =>
          rw [hcase] at hend
          exact hend.2.1

theorem yields_addPredicate {query : AsQuery} {predicate : HashTable} :
    Yields true clean (addPredicate engine oracle query predicate)
      (predicateVerdict engine oracle query predicate)
      (fun err _ => err = (predicateRun engine oracle query predicate).err) := by
  intro s hs
  have herr := @predicateRun_err engine oracle query predicate
  unfold addPredicate predicateVerdict predicateRun at *
  by_cases hempty : HashTable.numElements predicate = 0
  · simp only [hempty, if_true]
    exact ⟨s, rfl, rfl, hs⟩
  · simp only [hempty, if_false] at herr ⊢
    rw [run_bind_ok (run_get s), hs]
    generalize addPredicateToQuery engine.indexTypes oracle.whereOk query
      predicate .init = result at herr ⊢
    by_cases hstatus : result.status = .ok
    · rw [if_pos hstatus, runIf_neg (by simpa using hstatus)]
      exact ⟨{ s with err := result.err }, rfl, rfl, rfl⟩
    · rw [if_neg hstatus, runIf_pos hstatus]
      exact ⟨.cleanup, { s with err := result.err }, rfl, rfl, rfl, herr hstatus⟩

theorem zHashtableToAsList_val (err : AsError) (serializerType : SerializerType)
    (items : HashTable) :
    (zHashtableToAsList engine.rt serializerType items err).val =
      listAfter engine err serializerType items := by
  unfold listAfter
  split
  · next herr =>
      cases hitems : encodeItems engine.rt serializerType items with
      | some list => rw [zHashtableToAsList_of_some engine.rt _ herr hitems]
      | none => exact (zHashtableToAsList_of_none engine.rt _ herr hitems).1
  · next herr => exact (zHashtableToAsList_sticky engine.rt _ items herr).1

/-- The status of the conversion never stops the method. -/
theorem yields_requireArgs {err : AsError} {serializerType : SerializerType}
    {items : HashTable} :
    Yields inner (fun e _ => e = err) (requireArgs engine serializerType items)
      (.ok (listAfter engine err serializerType items)) anything := by
  have hstatus := zHashtableToAsList_status engine.rt serializerType items err
  rw [← zHashtableToAsList_val err]
  refine yields_seq yields_convert ?_
  rw [runIf_neg (by simpa using hstatus)]
  exact (yields_pure _).weaken fun _ _ _ => trivial

theorem zHashtableToAsList_err_iff (err : AsError)
    (serializerType : SerializerType) (items : HashTable) :
    (zHashtableToAsList engine.rt serializerType items err).err.code = .ok ↔
      (listAfter engine err serializerType items).isSome := by
  unfold listAfter
  by_cases herr : err.code = .ok
  · rw [if_pos herr]
    cases hitems : encodeItems engine.rt serializerType items with
    | some list => simp [zHashtableToAsList_of_some engine.rt _ herr hitems, herr]
    | none => simp [(zHashtableToAsList_of_none engine.rt _ herr hitems).2]
  · simp [herr, (zHashtableToAsList_sticky engine.rt serializerType items herr).2]

theorem yields_requireCleanArgs {err : AsError}
    {serializerType : SerializerType} {items : HashTable} :
    Yields true (fun e _ => e = err)
      (requireCleanArgs engine serializerType items)
      (cleanList engine err serializerType items) anything := by
  have hiff := @zHashtableToAsList_err_iff engine err serializerType items
  have hyields : Yields true (fun e _ => e = err)
      (requireCleanArgs engine serializerType items)
      (ensure ((zHashtableToAsList engine.rt serializerType items err).err.code =
        .ok) >>= fun _ => .ok (listAfter engine err serializerType items))
      anything := by
    rw [← zHashtableToAsList_val err]
    refine yields_seq yields_convert (yields_bind yields_cleanupOnError ?_)
    exact fun _ => (yields_pure _).weaken fun _ _ _ => trivial
  unfold ensure at hyields
  unfold cleanList
  cases hlist : listAfter engine err serializerType items with
  | some list =>
      rw [hlist] at hiff hyields
      rw [if_pos (hiff.mpr rfl)] at hyields
      exact hyields
  | none =>
      rw [hlist] at hiff hyields
      rw [if_neg (by simp [hiff])] at hyields
      exact hyields

/-! ## The methods -/

theorem queryBody_sends {policy : Option PolicyQuery} {args : QueryArgs} :
    Sends SameRequests true clean (queryBody engine oracle policy args) (do
      ensure (oracle.queryInitOk = true)
      ensure ((queryOptions engine args).1 = .ok)
      let select ← present (selectBins (args.select.getD []))
      let query ← predicateVerdict engine oracle
        { (queryOptions engine args).2 with select := select } args.predicate
      .ok (.queryForeach policy query)) := by
  unfold queryBody requireQueryInit requireSelect
  refine sends_bind (yields_check (by simp)) fun _ => ?_
  refine sends_bind (yields_check not_not.symm) fun _ => ?_
  refine sends_bind yields_orFail fun select => ?_
  exact sends_bind yields_addPredicate fun query => sends_issue

theorem query_sends (args : QueryArgs) :
    Sends SameRequests false (cleanWith policies)
      (query engine client oracle (some args))
      (queryVerdict engine client oracle policies args) := by
  unfold query queryVerdict
  refine sends_seq yields_resetClientError ?_
  refine sends_bind yields_requireConnection fun _ => ?_
  refine sends_seq (yields_pure args) ?_
  refine sends_bind (yields_check Iff.rfl) fun _ => ?_
  refine sends_bind (yields_whenGiven yields_requirePolicy
    fun _ _ => And.left) fun policy => ?_
  exact sends_withCleanup queryBody_sends reports_cleanupErr

theorem queryApply_sends (args : UdfQueryArgs) :
    Sends SameRequests false (cleanWith policies)
      (queryApply engine client oracle (some args))
      (queryApplyVerdict engine client oracle policies args) := by
  unfold queryApply queryApplyVerdict
  refine sends_seq yields_resetClientError ?_
  refine sends_bind yields_requireConnection fun _ => ?_
  refine sends_seq (yields_pure args) ?_
  refine sends_seq (yields_setOutput _) ?_
  refine sends_bind (yields_check Iff.rfl) fun _ => ?_
  refine sends_bind yields_requirePolicy fun policy => ?_
  refine sends_withCleanup ?_ reports_cleanupErr
  unfold queryApplyBody requireQueryInit
  refine sends_bind (yields_check (by simp)) fun _ => ?_
  refine sends_bind yields_addPredicate fun query => ?_
  refine sends_seq yields_requireArgs ?_
  refine sends_bind (yields_check (by simp)) fun _ => ?_
  exact sends_issue

theorem aggregate_sends (args : UdfQueryArgs) :
    Sends SameRequests false (cleanWith policies)
      (aggregate engine client oracle (some args))
      (aggregateVerdict engine client oracle policies args) := by
  unfold aggregate aggregateVerdict
  refine sends_seq yields_resetClientError ?_
  refine sends_bind yields_requireConnection fun _ => ?_
  refine sends_seq (yields_pure args) ?_
  refine sends_seq (yields_setOutput _) ?_
  refine sends_bind (yields_check Iff.rfl) fun _ => ?_
  refine sends_bind (yields_check Iff.rfl) fun _ => ?_
  refine sends_bind (yields_check Iff.rfl) fun _ => ?_
  refine sends_bind (yields_whenGiven yields_requirePolicy
    fun _ _ => And.left) fun policy => ?_
  refine sends_withCleanup ?_ reports_cleanupErr
  unfold aggregateBody requireQueryInit
  refine sends_bind (yields_check (by simp)) fun _ => ?_
  refine sends_bind yields_addPredicate fun query => ?_
  refine sends_bind yields_requireCleanArgs fun list => ?_
  refine sends_bind (yields_check (by simp)) fun _ => ?_
  exact sends_seq (yields_setOutput _) sends_issue

theorem scanApply_sends (args : ScanApplyArgs) :
    Sends OnlyWaits false (cleanWith policies)
      (scanApply engine client oracle (some args))
      (scanApplyVerdict engine client oracle policies args) := by
  unfold scanApply scanApplyVerdict
  refine sends_seq yields_resetClientError ?_
  refine sends_bind yields_requireConnection fun _ => ?_
  refine sends_seq (yields_pure args) ?_
  refine sends_seq (yields_setOutput _) ?_
  refine sends_bind (yields_check Iff.rfl) fun _ => ?_
  refine sends_bind (yields_check not_or.symm) fun _ => ?_
  refine sends_bind yields_requirePolicy fun policy => ?_
  refine sends_withCleanup ?_ reports_cleanupErr
  unfold scanApplyBody
  refine sends_bind (yields_check not_not.symm) fun _ => ?_
  refine sends_seq yields_requireArgs ?_
  refine sends_bind (yields_check (by simp)) fun _ => ?_
  refine sends_bind (yields_check (by simp)) fun _ => ?_
  exact sends_issue

theorem yields_applyArgs {serializerType : SerializerType}
    {zArgs : Option HashTable} :
    Yields inner clean (applyArgs engine serializerType zArgs)
      (.ok (match zArgs with
        | some zArgs => encodeItems engine.rt serializerType zArgs
        | none => some [])) anything := by
  cases zArgs with
  | some zArgs => exact yields_requireArgs
  | none => exact (yields_pure _).weaken fun _ _ _ => trivial

theorem apply_sends (args : ApplyArgs) :
    Sends SameRequests false (cleanWith policies)
      (apply engine client oracle (some args))
      (applyVerdict engine client policies args) := by
  unfold apply applyVerdict
  refine sends_withCleanup ?_ reports_cleanupErr
  unfold applyBody
  refine sends_bind yields_requireConnectionOrCleanup fun _ => ?_
  refine sends_seq yields_resetClientError ?_
  refine sends_seq (yields_pure args) ?_
  refine sends_seq (yields_runIf_ok (yields_setOutput _)) ?_
  refine sends_bind yields_requireKey fun key => ?_
  refine sends_bind yields_requirePolicy fun policy => ?_
  refine sends_bind (yields_check not_not.symm) fun _ => ?_
  exact sends_seq yields_applyArgs sends_issue

end

end AerospikePhp
