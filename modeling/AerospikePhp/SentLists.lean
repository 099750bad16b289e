import AerospikePhp.ListRequests
import AerospikePhp.SentPredicates
import Mathlib.Tactic

/-!
# Lists that arrive

UDF arguments and list items go through the same converter, whose status is OK
even when it gives up the list.  Most callers look only at the status, and then
a NULL list is sent.
-/

namespace AerospikePhp

open Procedure Method Proc

section

variable {engine : Engine} {client : Client} {oracle : Oracle}
variable {policies : Policies} {serializerType : SerializerType}
variable {items : HashTable}

/-- The call is refused without a request, or the list of its request is the
array, element by element. -/
def SendsItems (engine : Engine) (serializerType : SerializerType)
    (items : HashTable) (outcome : Outcome) : Prop :=
  outcome.Refused ∨ ∃ request waits list,
    outcome.state.requests = request :: waits ∧
    (∀ wait ∈ waits, wait.waits = true) ∧ request.list = some (some list) ∧
    encodeItems engine.rt serializerType items = some list

/-- All that is left of the call is a request with this list. -/
def SubmitsList (list : Option (List AsVal)) (verdict : Verdict Request) :
    Prop :=
  ∃ request : Request, verdict = .ok request ∧ request.list = some list

theorem meets_onlyWaits {outcome : Outcome} {request : Request}
    (hmeets : outcome.Meets OnlyWaits (.ok request)) :
    ∃ waits : List Request, outcome.state.requests = request :: waits ∧
      ∀ wait ∈ waits, wait.waits = true := by
  obtain ⟨sent, hsent, waits, heq, hwaits⟩ := hmeets
  exact ⟨waits, by rw [heq, hsent]; rfl, hwaits⟩

theorem Sends.mono {α : Type} {after after' : CallState → CallState → Prop}
    {inner : Bool} {p : Assertion} {body : Method α} {verdict : Verdict Request}
    (hsends : Sends after inner p body verdict)
    (hmono : ∀ s s', after s s' → after' s s') :
    Sends after' inner p body verdict := by
  intro s hs
  have hrun := hsends s hs
  cases verdict with
  | ok request =>
      obtain ⟨sent, hsent, hafter⟩ := hrun
      exact ⟨sent, hsent, hmono _ _ hafter⟩
  | error halt => exact hrun

theorem onlyWaits_of_sameRequests (s s' : CallState)
    (hsame : SameRequests s s') : OnlyWaits s s' :=
  ⟨[], by rw [List.append_nil]; exact hsame, by simp⟩

theorem sendsItems_iff {method : Method Reply} {verdict : Verdict Request}
    {passes : Prop} {list : Option (List AsVal)} (clientError : AsError)
    (hsends : Sends OnlyWaits false (cleanWith policies) method verdict)
    (hgated : Gated passes (SubmitsList list) verdict) :
    SendsItems engine serializerType items
        (method.call (.start policies clientError)) ↔
      (passes → ∃ sent, list = some sent ∧
        encodeItems engine.rt serializerType items = some sent) := by
  have hcall := call_of_sends clientError hsends
  rcases hgated with ⟨hpasses, request, rfl, hlist⟩ | ⟨hstops, rfl⟩
  · simp only [hpasses, forall_const]
    obtain ⟨waits, hrequests, hwaits⟩ := meets_onlyWaits hcall
    constructor
    · rintro (⟨-, hnone⟩ | ⟨request', waits', sent, hsent, -, hone, hitems⟩)
      · exact absurd (hrequests.symm.trans hnone) (by simp)
      · obtain ⟨rfl, rfl⟩ : request = request' ∧ waits = waits' := by
          simpa using hrequests.symm.trans hsent
        exact ⟨sent, Option.some.inj (hlist.symm.trans hone), hitems⟩
    · rintro ⟨sent, rfl, hitems⟩
      exact .inr ⟨request, waits, sent, hrequests, hwaits, hlist, hitems⟩
  · exact iff_of_true (.inl hcall) fun hpasses => absurd hpasses hstops

/-- The list sent is the one that the converter makes of a clean start. -/
theorem sent_encodeItems_iff :
    (∃ sent, encodeItems engine.rt serializerType items = some sent ∧
        encodeItems engine.rt serializerType items = some sent) ↔
      (encodeItems engine.rt serializerType items).isSome := by
  rw [Option.isSome_iff_exists]
  simp

/-! ## The methods -/

/-- The checks of `scanApply`. -/
def ScanApplyPasses (engine : Engine) (client : Client) (oracle : Oracle)
    (policies : Policies) (args : ScanApplyArgs) : Prop :=
  client.Ready ∧ args.ns.length ≠ 0 ∧
    (args.module.length ≠ 0 ∧ args.function.length ≠ 0) ∧
    (zvalToAsPolicyScan engine.init.scan args.policy policies.scan).status =
      .ok ∧
    (setScanOptionsFromPolicyHash { ns := cString args.ns, set := cString args.set }
      args.policy).1 = .ok ∧
    oracle.scanInitOk = true ∧ oracle.applyOk = true

/-- The checks of `apply`. -/
def ApplyPasses (engine : Engine) (client : Client) (policies : Policies)
    (args : ApplyArgs) : Prop :=
  client.Ready ∧ (keyOf engine.keyInit args.key).isSome ∧
    (zvalToAsPolicyApply engine.init.apply args.policy policies.apply).status =
      .ok ∧
    (setSerializerFromPolicyHash engine.iniSerializer
      (toInt32 engine.iniSerializer) args.policy).1 = .ok

/-- The checks of `listMerge` and `listInsertItems`. -/
def ItemsPass (engine : Engine) (client : Client) (oracle : Oracle)
    (policies : Policies) (args : ListArgs) (items : HashTable) : Prop :=
  client.Ready ∧ args.bin.length ≤ asBinNameMaxLen ∧
    (keyOf engine.keyInit args.key).isSome ∧
    (zvalToAsPolicyOperate engine.rt engine.init.operate args.policy
      policies.operate).status = .ok ∧
    (setOperationsGenerationFromOperatePolicy args.policy 0).1 = .ok ∧
    (setOperationsTtlFromOperatePolicy args.policy 0).1 = .ok ∧
    (setSerializerFromPolicyHash engine.iniSerializer
      (toInt32 engine.iniSerializer) args.policy).1 = .ok ∧
    HashTable.hashtableIsList items = true ∧ oracle.addOk 0 = true

/-- The predicate of a query does not end the call. -/
def PredicateGoesOn (engine : Engine) (oracle : Oracle)
    (predicate : HashTable) : Prop :=
  HashTable.numElements predicate = 0 ∨
    predicateEnd engine.indexTypes oracle.whereOk predicate ≠ .refused

/-- The predicate of a query leaves the error object clean. -/
def PredicateClean (engine : Engine) (oracle : Oracle)
    (predicate : HashTable) : Prop :=
  HashTable.numElements predicate = 0 ∨
    ¬ PredicateLost engine.indexTypes oracle.whereOk predicate

theorem scanApplyVerdict_gated (args : ScanApplyArgs) :
    Gated (ScanApplyPasses engine client oracle policies args)
      (SubmitsList (encodeItems engine.rt (iniSerializerType engine) args.args))
      (scanApplyVerdict engine client oracle policies args) := by
  refine gated_ensure fun _ => gated_ensure fun _ => gated_ensure fun _ => ?_
  refine gated_if fun _ => gated_ensure fun _ => gated_ensure fun _ => ?_
  exact gated_and_true (gated_ensure fun _ =>
    gated_of_true trivial ⟨_, rfl, rfl⟩)

theorem applyVerdict_gated (args : ApplyArgs) :
    Gated (ApplyPasses engine client policies args)
      (SubmitsList (encodeItems engine.rt (callSerializer engine args.policy)
        (args.args.getD [])))
      (applyVerdict engine client policies args) := by
  refine gated_ensure fun _ => gated_present fun key _ => gated_if fun _ => ?_
  refine gated_and_true (gated_ensure fun _ => gated_of_true trivial ?_)
  refine ⟨_, rfl, ?_⟩
  cases args.args <;> rfl

theorem list_of_operation {policy : Option PolicyOperate} {key : AsKey}
    {op : Operation} {gen ttl : ℕ} {list : Option (List AsVal)}
    (hvalue : op.value = .list list) :
    (Request.keyOperate policy key ⟨[op], gen, ttl⟩).list = some list := by
  cases op
  subst hvalue
  rfl

theorem itemsVerdict_gated (args : ListArgs) (items : HashTable)
    {make : Option (List AsVal) → Operation}
    (hmake : ∀ list, (make list).value = .list list) :
    Gated (ItemsPass engine client oracle policies args items)
      (SubmitsList (encodeItems engine.rt (callSerializer engine args.policy)
        items))
      (listVerdict engine client oracle policies args
        (itemsOperation engine args.policy items make) true) := by
  unfold listVerdict itemsOperation
  simp only [verdict_bind_assoc]
  refine gated_ensure fun _ => gated_ensure fun _ => gated_present fun _ _ => ?_
  refine gated_if fun _ => gated_if fun _ => gated_if fun _ => ?_
  refine gated_if fun _ => gated_ensure fun _ => ?_
  refine gated_congr (gated_and_true (gated_ensure fun hadd =>
    gated_of_true trivial ⟨_, rfl, ?_⟩)) (by simp)
  unfold oneOperation
  rw [if_pos (hadd trivial)]
  exact list_of_operation (hmake _)

theorem predicateRun_status_iff (base : AsQuery) (predicate : HashTable) :
    (predicateRun engine oracle base predicate).status = .ok ↔
      PredicateGoesOn engine oracle predicate := by
  unfold PredicateGoesOn
  by_cases hempty : HashTable.numElements predicate = 0
  · simp [predicateRun, hempty]
  · have hrun := @predicateRun_ends engine oracle _ base hempty
    cases hend : predicateEnd engine.indexTypes oracle.whereOk predicate with
    | added clause =>
        rw [hend] at hrun
        have hadded : predicateRun engine oracle base predicate =
            ⟨.ok, addWhere base clause, .init⟩ := hrun
        simp [hadded]
    | refused =>
        rw [hend] at hrun
        simp [hempty, hrun.1]
    | lost =>
        rw [hend] at hrun
        simp [hrun.1]

theorem predicateRun_err_iff (base : AsQuery) {predicate : HashTable}
    (hgoes : PredicateGoesOn engine oracle predicate) :
    (predicateRun engine oracle base predicate).err.code = .ok ↔
      PredicateClean engine oracle predicate := by
  unfold PredicateClean
  by_cases hempty : HashTable.numElements predicate = 0
  · simp [predicateRun, hempty, AsError.init]
  · have hrun := @predicateRun_ends engine oracle _ base hempty
    have hlost := @predicateEnd_lost_iff engine.indexTypes oracle.whereOk
      predicate
    cases hend : predicateEnd engine.indexTypes oracle.whereOk predicate with
    | added clause =>
        rw [hend] at hrun hlost
        have hadded : predicateRun engine oracle base predicate =
            ⟨.ok, addWhere base clause, .init⟩ := hrun
        simp [hadded, ← hlost, AsError.init]
    | refused => exact absurd hend (hgoes.resolve_left hempty)
    | lost =>
        rw [hend] at hrun hlost
        simp [hempty, hrun.2.1, ← hlost]

/-- The list of `queryApply` is the one the converter makes of the error object
that the predicate left. -/
theorem queryApplyVerdict_list_gated (args : UdfQueryArgs) :
    Gated (QueryApplyPasses engine client oracle policies args ∧
        PredicateGoesOn engine oracle args.predicate)
      (SubmitsList (listAfter engine
        (predicateRun engine oracle (udfQuery args) args.predicate).err
        (iniSerializerType engine) args.args))
      (queryApplyVerdict engine client oracle policies args) := by
  have hstatus := @predicateRun_status_iff engine oracle (udfQuery args)
    args.predicate
  refine gated_congr (gated_ensure fun _ => gated_ensure fun _ => gated_if
    fun _ => gated_ensure fun _ => gated_if fun _ => gated_and_true
      (gated_ensure fun _ => gated_of_true trivial ⟨_, rfl, rfl⟩)) ?_
  unfold QueryApplyPasses
  rw [hstatus]
  tauto

/-- `aggregate` looks at the error object, and so gives up with the list. -/
theorem aggregateVerdict_list_gated (args : UdfQueryArgs) :
    Gated (AggregatePasses engine client oracle policies args ∧
        (predicateRun engine oracle (udfQuery args) args.predicate).status = .ok ∧
        (predicateRun engine oracle (udfQuery args) args.predicate).err.code = .ok)
      (SubmitsList (encodeItems engine.rt (iniSerializerType engine) args.args))
      (aggregateVerdict engine client oracle policies args) := by
  unfold aggregateVerdict
  rw [ifGiven_policyOf queryPolicy_of_none]
  simp only [cleanList_eq, verdict_bind_assoc]
  refine gated_congr (gated_ensure fun _ => gated_ensure fun _ => gated_ensure
    fun _ => gated_ensure fun _ => gated_if fun _ => gated_ensure fun _ =>
    gated_if fun _ => gated_present fun list hlist => gated_ensure fun _ =>
    gated_and_true (gated_ensure fun _ => gated_of_true trivial ?_)) ?_
  · exact ⟨_, rfl, by rw [hlist]; rfl⟩
  · unfold AggregatePasses
    tauto

/-- When converted lists arrive. -/
theorem lists_sent_iff (engine : Engine) (client : Client) (oracle : Oracle)
    (policies : Policies) (clientError err : AsError)
    (serializerType : SerializerType) (items : HashTable)
    (scanArgs : ScanApplyArgs) (queryArgs : UdfQueryArgs)
    (applyArgs : ApplyArgs) (listArgs : ListArgs) (index : Int64) :
    (((zHashtableToAsList engine.rt serializerType items err).status = .ok ↔
        (zHashtableToAsList engine.rt serializerType items err).err.code =
          .ok) ↔
      err.code = .ok ∧ (encodeItems engine.rt serializerType items).isSome) ∧
    (SendsItems engine (iniSerializerType engine) scanArgs.args
        ((scanApply engine client oracle (some scanArgs)).call
          (.start policies clientError)) ↔
      (ScanApplyPasses engine client oracle policies scanArgs →
        (encodeItems engine.rt (iniSerializerType engine)
          scanArgs.args).isSome)) ∧
    (SendsItems engine (iniSerializerType engine) queryArgs.args
        ((queryApply engine client oracle (some queryArgs)).call
          (.start policies clientError)) ↔
      (QueryApplyPasses engine client oracle policies queryArgs →
        PredicateGoesOn engine oracle queryArgs.predicate →
        PredicateClean engine oracle queryArgs.predicate ∧
        (encodeItems engine.rt (iniSerializerType engine)
          queryArgs.args).isSome)) ∧
    SendsItems engine (iniSerializerType engine) queryArgs.args
      ((aggregate engine client oracle (some queryArgs)).call
        (.start policies clientError)) ∧
    (SendsItems engine (callSerializer engine applyArgs.policy)
        (applyArgs.args.getD [])
        ((apply engine client oracle (some applyArgs)).call
          (.start policies clientError)) ↔
      (ApplyPasses engine client policies applyArgs →
        (encodeItems engine.rt (callSerializer engine applyArgs.policy)
          (applyArgs.args.getD [])).isSome)) ∧
    (SendsItems engine (callSerializer engine listArgs.policy) items
        ((listMerge engine client oracle (some (listArgs, items))).call
          (.start policies clientError)) ↔
      (ItemsPass engine client oracle policies listArgs items →
        (encodeItems engine.rt (callSerializer engine listArgs.policy)
          items).isSome)) ∧
    (SendsItems engine (callSerializer engine listArgs.policy) items
        ((listInsertItems engine client oracle
          (some (listArgs, index, items))).call (.start policies clientError)) ↔
      (ItemsPass engine client oracle policies listArgs items →
        (encodeItems engine.rt (callSerializer engine listArgs.policy)
          items).isSome)) := by
  refine ⟨?_, ?_, ?_, ?_, ?_, ?_, ?_⟩
  · rw [zHashtableToAsList_err_iff, zHashtableToAsList_status]
    unfold listAfter
    split <;> simp_all
  · rw [sendsItems_iff clientError (scanApply_sends scanArgs)
      (scanApplyVerdict_gated scanArgs), sent_encodeItems_iff]
  · rw [sendsItems_iff clientError
      ((queryApply_sends queryArgs).mono onlyWaits_of_sameRequests)
      (queryApplyVerdict_list_gated queryArgs), and_imp]
    refine imp_congr_right fun _ => imp_congr_right fun hgoes => ?_
    rw [← predicateRun_err_iff (udfQuery queryArgs) hgoes]
    unfold listAfter
    split
    · next herr => simp [herr, Option.isSome_iff_exists]
    · next herr => simp [herr]
  · rw [sendsItems_iff clientError
      ((aggregate_sends queryArgs).mono onlyWaits_of_sameRequests)
      (aggregateVerdict_list_gated queryArgs), sent_encodeItems_iff]
    exact fun hpasses => hpasses.1.2.2.2.2.2.2.1
  · rw [sendsItems_iff clientError
      ((apply_sends applyArgs).mono onlyWaits_of_sameRequests)
      (applyVerdict_gated applyArgs), sent_encodeItems_iff]
  · rw [sendsItems_iff clientError
      ((listMerge_sends listArgs items).mono onlyWaits_of_sameRequests)
      (itemsVerdict_gated listArgs items fun _ => rfl), sent_encodeItems_iff]
  · rw [sendsItems_iff clientError
      ((listInsertItems_sends listArgs index items).mono
        onlyWaits_of_sameRequests)
      (itemsVerdict_gated listArgs items fun _ => rfl), sent_encodeItems_iff]

/-- The converter of maps, its sibling, returns the code that it leaves in the
error object. -/
theorem zHashtableToAsMap_status (engine : Engine) (serializerType : SerializerType)
    (table : HashTable) (err : AsError) :
    (zHashtableToAsMap engine.rt serializerType table err).status =
      (zHashtableToAsMap engine.rt serializerType table err).err.code :=
  asMapLoop_status engine.rt serializerType table [] err

end

/-- A UDF argument that has no serializer. -/
def lostArgs : ScanApplyArgs where
  ns := "test"
  set := "demo"
  module := "m"
  function := "f"
  args := [(.idx 0, .null)]
  policy := none

/-- What is sent for it: the UDF, without arguments. -/
def lostArgsScan : AsScan where
  ns := "test"
  set := "demo"
  apply := some ⟨"m", "f", none⟩

theorem lostArgs_not_sent :
    ¬ SendsItems Engine.plain (iniSerializerType Engine.plain) lostArgs.args
      ((scanApply Engine.plain Client.connected Oracle.accepting
        (some lostArgs)).call (.start default .init)) := by
  have hsent : ((scanApply Engine.plain Client.connected Oracle.accepting
      (some lostArgs)).call (.start default .init)).state.requests =
      [.scanBackground default lostArgsScan, .scanWait 0] := rfl
  rintro (⟨-, hnone⟩ | ⟨request, waits, list, hone, -, hlist, -⟩)
  · exact absurd (hsent.symm.trans hnone) (by simp)
  · obtain ⟨rfl, -⟩ : Request.scanBackground default lostArgsScan = request ∧
        [Request.scanWait 0] = waits := by
      simpa using hsent.symm.trans hone
    cases hlist

end AerospikePhp
