import AerospikePhp.ExactEntries
import AerospikePhp.Verdicts
import Mathlib.Tactic

/-!
# What the operate methods send

The verdicts of `operate`, `operateOrdered` and the methods with one operation,
and the condition under which a batch reaches the cluster as the program wrote
it.
-/

namespace AerospikePhp

open Procedure Method Proc

section

variable (engine : Engine) (client : Client) (oracle : Oracle)
variable (policies : Policies)

/-! ## Verdicts -/

def operatePolicyOf (zPolicy : Option Zval) : Verdict PolicyOperate :=
  policyOf (zvalToAsPolicyOperate engine.rt engine.init.operate zPolicy
    policies.operate)

def addedOperations (ordered : Bool) (serializerType : SerializerType)
    (zOps : HashTable) (gen ttl : ℕ) : Verdict AsOperations :=
  match (addOperations engine.rt engine.operators serializerType ordered
      (batchOf oracle zOps)).run ⟨.init, [], ttl, gen⟩ with
  | (.ok _, added) => .ok ⟨added.ops, added.gen, added.ttl⟩
  | (.error _, _) => .error .failed

def operateVerdict (args : OperateArgs) : Verdict Request := do
  ensure client.Ready
  let key ← present (keyOf engine.keyInit args.key)
  let policy ← operatePolicyOf engine policies args.policy
  ensure (HashTable.numElements args.operations ≠ 0)
  let gen ← generationOf args.policy
  let ttl ← ttlOf args.policy
  ensure (HashTable.hashtableIsList args.operations = true)
  let operations ← addedOperations engine oracle false
    (callSerializer engine args.policy) args.operations gen ttl
  .ok (.keyOperate (some policy) key operations)

def operateOrderedVerdict (args : OperateArgs) : Verdict Request := do
  ensure client.Ready
  let key ← present (keyOf engine.keyInit args.key)
  let policy ← ifGiven args.policy
    (operatePolicyOf engine policies args.policy)
  ensure (HashTable.numElements args.operations ≠ 0)
  let gen ← generationOf args.policy
  let ttl ← ttlOf args.policy
  let operations ← addedOperations engine oracle true
    (callSerializer engine args.policy) args.operations gen ttl
  .ok (.keyOperate policy key operations)

end

section

variable {engine : Engine} {client : Client} {oracle : Oracle}
variable {policies : Policies} {inner : Bool}

theorem yields_requireOperatePolicy {zPolicy : Option Zval}
    {failure : Method Unit} [Fails inner failure] :
    Yields inner (cleanWith policies)
      (requireOperatePolicy engine zPolicy failure)
      (operatePolicyOf engine policies zPolicy) clean :=
  yields_requirePolicy

theorem yields_addAllOperations {ordered : Bool}
    {serializerType : SerializerType} {zOps : HashTable} {gen ttl : ℕ} :
    Yields true clean
      (addAllOperations engine oracle ordered serializerType zOps gen ttl)
      (addedOperations engine oracle ordered serializerType zOps gen ttl)
      anything := by
  intro s hs
  unfold addAllOperations addedOperations
  rw [run_bind_ok (run_get s), hs]
  have hloop := @addOperations_run engine.rt engine.operators serializerType
    ⟨.init, [], ttl, gen⟩ ordered (batchOf oracle zOps) _ rfl
  by_cases hrefused : BatchRefused engine.rt engine.operators serializerType
      ordered true (batchOf oracle zOps)
  · obtain ⟨status, added, hrun, -, herr⟩ := hloop.1 hrefused
    rw [hrun]
    exact ⟨.cleanup, { s with err := added.err }, rfl, rfl, rfl, herr⟩
  · obtain ⟨err, ttl', hrun⟩ := hloop.2 hrefused
    rw [hrun]
    exact ⟨{ s with err := err }, rfl, rfl, trivial⟩

theorem operateBody_sends {key : AsKey} {args : OperateArgs} :
    Sends SameRequests true (cleanWith policies) (operateBody engine oracle key args) (do
      let policy ← operatePolicyOf engine policies args.policy
      ensure (HashTable.numElements args.operations ≠ 0)
      let gen ← generationOf args.policy
      let ttl ← ttlOf args.policy
      ensure (HashTable.hashtableIsList args.operations = true)
      let operations ← addedOperations engine oracle false
        (callSerializer engine args.policy) args.operations gen ttl
      .ok (.keyOperate (some policy) key operations)) := by
  unfold operateBody
  refine sends_bind yields_requireOperatePolicy fun policy => ?_
  refine sends_bind (yields_check Iff.rfl) fun _ => ?_
  refine sends_bind yields_requireGeneration fun gen => ?_
  refine sends_bind yields_requireTtl fun ttl => ?_
  refine sends_bind (yields_check (by simp)) fun _ => ?_
  refine sends_bind yields_addAllOperations fun operations => ?_
  exact sends_issue

theorem operate_sends (args : OperateArgs) :
    Sends SameRequests false (cleanWith policies) (operate engine client oracle (some args))
      (operateVerdict engine client oracle policies args) := by
  unfold operate operateVerdict
  refine sends_seq yields_resetClientError ?_
  refine sends_seq (yields_pure args) ?_
  refine sends_seq (yields_runIf_ok (yields_setOutput _)) ?_
  refine sends_bind (yields_validate (by decide)) fun _ => ?_
  refine sends_bind yields_requireKey fun key => ?_
  exact sends_withCleanup operateBody_sends reports_cleanupErr

theorem operateOrderedBody_sends {key : AsKey} {args : OperateArgs} :
    Sends SameRequests true (cleanWith policies) (operateOrderedBody engine oracle key args)
      (do
        let policy ← ifGiven args.policy
          (operatePolicyOf engine policies args.policy)
        ensure (HashTable.numElements args.operations ≠ 0)
        let gen ← generationOf args.policy
        let ttl ← ttlOf args.policy
        let operations ← addedOperations engine oracle true
          (callSerializer engine args.policy) args.operations gen ttl
        .ok (.keyOperate policy key operations)) := by
  unfold operateOrderedBody
  refine sends_bind (yields_whenGiven yields_requireOperatePolicy
    fun _ _ => And.left) fun policy => ?_
  refine sends_bind (yields_check Iff.rfl) fun _ => ?_
  refine sends_bind yields_requireGeneration fun gen => ?_
  refine sends_bind yields_requireTtl fun ttl => ?_
  refine sends_bind yields_addAllOperations fun operations => ?_
  exact sends_issue

theorem operateOrdered_sends (args : OperateArgs) :
    Sends SameRequests false (cleanWith policies)
      (operateOrdered engine client oracle (some args))
      (operateOrderedVerdict engine client oracle policies args) := by
  unfold operateOrdered operateOrderedVerdict
  refine sends_seq yields_resetClientError ?_
  refine sends_seq (yields_pure args) ?_
  refine sends_seq (yields_runIf_ok (yields_setOutput _)) ?_
  refine sends_bind (yields_validate (by decide)) fun _ => ?_
  refine sends_bind yields_requireKey fun key => ?_
  exact sends_withCleanup operateOrderedBody_sends reports_cleanupErr

/-! ## Batches that arrive as they were written -/

theorem addedOperations_of_refused {ordered : Bool}
    {serializerType : SerializerType} {zOps : HashTable} {gen ttl : ℕ}
    (hrefused : BatchRefused engine.rt engine.operators serializerType ordered
      true (batchOf oracle zOps)) :
    addedOperations engine oracle ordered serializerType zOps gen ttl =
      .error .failed := by
  obtain ⟨status, added, hrun, -⟩ := (addOperations_run
    (s := ⟨.init, [], ttl, gen⟩) ordered (batchOf oracle zOps) rfl).1 hrefused
  unfold addedOperations
  rw [hrun]

theorem addedOperations_of_not_refused {ordered : Bool}
    {serializerType : SerializerType} {zOps : HashTable} (gen ttl : ℕ)
    (hnot : ¬ BatchRefused engine.rt engine.operators serializerType ordered
      true (batchOf oracle zOps)) :
    ∃ operations,
      addedOperations engine oracle ordered serializerType zOps gen ttl =
        .ok operations ∧
      operations.ops = (contributions engine.rt engine.operators serializerType
        true (batchOf oracle zOps)).flatten ∧
      operations.gen = gen := by
  obtain ⟨err, ttl', hrun⟩ := (addOperations_run
    (s := ⟨.init, [], ttl, gen⟩) ordered (batchOf oracle zOps) rfl).2 hnot
  unfold addedOperations
  rw [hrun]
  exact ⟨_, rfl, rfl, rfl⟩

/-- The call reaches the loop over the operations array. -/
def OperatePasses (engine : Engine) (client : Client) (policies : Policies)
    (ordered : Bool) (args : OperateArgs) : Prop :=
  client.Ready ∧ (keyOf engine.keyInit args.key).isSome ∧
    (zvalToAsPolicyOperate engine.rt engine.init.operate args.policy
      policies.operate).status = .ok ∧
    HashTable.numElements args.operations ≠ 0 ∧
    (setOperationsGenerationFromOperatePolicy args.policy 0).1 = .ok ∧
    (setOperationsTtlFromOperatePolicy args.policy 0).1 = .ok ∧
    (ordered = false → HashTable.hashtableIsList args.operations = true)

/-- All that is left of the call is the loop and the request. -/
def RunsLoop (engine : Engine) (oracle : Oracle) (ordered : Bool)
    (args : OperateArgs) (verdict : Verdict Request) : Prop :=
  ∃ policy key gen ttl, verdict =
    (addedOperations engine oracle ordered (callSerializer engine args.policy)
        args.operations gen ttl >>=
      fun operations => .ok (.keyOperate policy key operations))

theorem operateVerdict_gated (args : OperateArgs) :
    Gated (OperatePasses engine client policies false args)
      (RunsLoop engine oracle false args)
      (operateVerdict engine client oracle policies args) := by
  refine gated_ensure fun _ => gated_present fun key _ => ?_
  refine gated_if fun _ => gated_ensure fun _ => ?_
  refine gated_if fun _ => gated_if fun _ => ?_
  refine gated_congr (gated_and_true (gated_ensure fun _ =>
    gated_of_true trivial ⟨_, key, _, _, rfl⟩)) (by simp)

theorem operateOrderedVerdict_gated (args : OperateArgs) :
    Gated (OperatePasses engine client policies true args)
      (RunsLoop engine oracle true args)
      (operateOrderedVerdict engine client oracle policies args) := by
  unfold operateOrderedVerdict
  refine gated_ensure fun _ => gated_present fun key _ => ?_
  have hpolicy : ifGiven args.policy (operatePolicyOf engine policies args.policy) = _ :=
    ifGiven_policyOf fun hnone => by rw [hnone]; rfl
  rw [hpolicy]
  refine gated_if fun _ => gated_ensure fun _ => ?_
  refine gated_if fun _ => gated_if fun _ => ?_
  exact gated_of_true (by simp) ⟨_, key, _, _, rfl⟩

/-- The call is refused without a request, or its request has one operation for
each element of the array, in order, and the one the element asks for. -/
def SendsWhole (engine : Engine) (args : OperateArgs) (outcome : Outcome) :
    Prop :=
  outcome.Refused ∨ ∃ policy key operations,
    outcome.state.requests = [.keyOperate policy key operations] ∧
    BatchFaithful engine.rt engine.operators
      (callSerializer engine args.policy) (HashTable.values args.operations)
      operations.ops

/-- The call stops before its loop or in it, or every entry is exact. -/
def OperateExact (engine : Engine) (client : Client) (oracle : Oracle)
    (policies : Policies) (ordered : Bool) (args : OperateArgs) : Prop :=
  OperatePasses engine client policies ordered args →
    ¬ BatchRefused engine.rt engine.operators (callSerializer engine args.policy)
      ordered true (batchOf oracle args.operations) →
    BatchExact engine.rt engine.operators (callSerializer engine args.policy)
      (batchOf oracle args.operations)

theorem batchOf_values (zOps : HashTable) :
    (batchOf oracle zOps).map (fun e => e.1.2) = HashTable.values zOps := by
  unfold batchOf HashTable.values
  apply List.ext_getElem <;> simp

/-- A call is refused or sends operations with a property, exactly when the
operations that its entries contribute have it. -/
theorem sendsOps_iff {ordered : Bool} {method : Method Reply}
    {args : OperateArgs} {verdict : Verdict Request}
    {P : List Operation → Prop} {good : Prop} (clientError : AsError)
    (hsends : Sends SameRequests false (cleanWith policies) method verdict)
    (hgated : Gated (OperatePasses engine client policies ordered args)
      (RunsLoop engine oracle ordered args) verdict)
    (hops : ¬ BatchRefused engine.rt engine.operators
        (callSerializer engine args.policy) ordered true
        (batchOf oracle args.operations) →
      (P (contributions engine.rt engine.operators
          (callSerializer engine args.policy) true
          (batchOf oracle args.operations)).flatten ↔ good)) :
    ((method.call (.start policies clientError)).Refused ∨
      ∃ policy key operations,
        (method.call (.start policies clientError)).state.requests =
          [.keyOperate policy key operations] ∧ P operations.ops) ↔
      (OperatePasses engine client policies ordered args →
        ¬ BatchRefused engine.rt engine.operators
          (callSerializer engine args.policy) ordered true
          (batchOf oracle args.operations) → good) := by
  have hcall := call_of_sends clientError hsends
  rcases hgated with ⟨hpasses, policy, key, gen, ttl, rfl⟩ | ⟨hstops, rfl⟩
  · simp only [hpasses, forall_const]
    by_cases hrefused : BatchRefused engine.rt engine.operators
        (callSerializer engine args.policy) ordered true
        (batchOf oracle args.operations)
    · rw [addedOperations_of_refused hrefused] at hcall
      exact iff_of_true (.inl hcall) fun hnot => absurd hrefused hnot
    · obtain ⟨operations, hadded, hcontributed, -⟩ :=
        addedOperations_of_not_refused gen ttl hrefused
      rw [hadded] at hcall
      have hcall := meets_sameRequests hcall
      have hgood := hops hrefused
      rw [← hcontributed] at hgood
      simp only [hrefused, not_false_eq_true, forall_const]
      rw [← hgood]
      constructor
      · rintro (⟨-, hnone⟩ | ⟨policy', key', operations', hone, hsent⟩)
        · exact absurd (hcall.symm.trans hnone) (by simp)
        · obtain ⟨-, -, rfl⟩ : policy = policy' ∧ key = key' ∧
              operations = operations' := by
            simpa using hcall.symm.trans hone
          exact hsent
      · exact fun hsent => .inr ⟨policy, key, operations, hcall, hsent⟩
  · exact iff_of_true (.inl hcall) fun hpasses => absurd hpasses hstops

theorem sendsWhole_iff {ordered : Bool} {method : Method Reply}
    {args : OperateArgs} {verdict : Verdict Request} (clientError : AsError)
    (hsends : Sends SameRequests false (cleanWith policies) method verdict)
    (hgated : Gated (OperatePasses engine client policies ordered args)
      (RunsLoop engine oracle ordered args) verdict) :
    SendsWhole engine args (method.call (.start policies clientError)) ↔
      OperateExact engine client oracle policies ordered args := by
  refine sendsOps_iff clientError hsends hgated fun hnot => ?_
  rw [← batchFaithful_iff hnot, batchOf_values]

end

/-- A touch without a ttl, alone in its batch: the request has no operation. -/
def lostTouch : OperateArgs where
  key := [(.str "ns", .string "test"), (.str "set", .string "demo"),
    (.str "key", .long 1)]
  operations := [(.idx 0, .array [(.str "op", .long 11)])]
  returned := false
  policy := none

end AerospikePhp
