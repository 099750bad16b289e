import AerospikePhp.KeyRequests
import AerospikePhp.ListRequests
import Mathlib.Tactic

/-!
# Generations

The pair under `OPT_POLICY_GEN` makes a write conditional.  It is read in two
places, once for the policy and once for the record or the operations, with
different checks.  Here is when a write goes out with the pair it was given.
-/

namespace AerospikePhp

open Procedure Method Proc

/-! ## The pair that is supplied -/

inductive SuppliedGeneration where
  | pair (policy generation : Int64)
  /-- A generation policy alone. -/
  | policy (policy : Int64)
  | malformed

def suppliedGeneration (z : Zval) : SuppliedGeneration :=
  match z with
  | .array pair =>
      match HashTable.indexFind pair 0 with
      | some (.long policy) =>
          if HashTable.numElements pair = 1 then .policy policy
          else if HashTable.numElements pair = 2 then
            match HashTable.indexFind pair 1 with
            | some (.long generation) => .pair policy generation
            | _ => .malformed
          else .malformed
      | _ => .malformed
  | _ => .malformed

/-- A request with this generation policy and generation carries what was
supplied. -/
def SuppliedGeneration.CarriedBy (supplied : SuppliedGeneration)
    (policy generation : ℕ) : Prop :=
  match supplied with
  | .pair p n => (policy : ℤ) = p.toInt ∧ (generation : ℤ) = n.toInt
  | .policy p => (policy : ℤ) = p.toInt
  | .malformed => False

/-- The supplied numbers fit the fields of the C structures. -/
def SuppliedGeneration.Fits (supplied : SuppliedGeneration) : Prop :=
  match supplied with
  | .pair p n => (0 ≤ p.toInt ∧ p.toInt < 2 ^ 32) ∧
      0 ≤ n.toInt ∧ n.toInt < 2 ^ 16
  | .policy p => 0 ≤ p.toInt ∧ p.toInt < 2 ^ 32
  | .malformed => False

/-- The generation setters refuse this entry: it is not an array, or it has two
elements of which the second is not an integer. -/
def GenerationRefused (z : Zval) : Prop :=
  match z with
  | .array pair => HashTable.numElements pair = 2 ∧
      ∀ n, HashTable.indexFind pair 1 ≠ some (.long n)
  | _ => True

/-- The entry is refused, or it is a pair or a policy whose numbers fit. -/
def GenerationExact (z : Zval) : Prop :=
  GenerationRefused z ∨ (suppliedGeneration z).Fits

/-- The generation policy and the generation of a write request. -/
def Request.generation : Request → Option (ℕ × ℕ)
  | .keyPut (some policy) _ record => some (policy.gen, record.gen)
  | .keyRemove policy _ => some (policy.gen, policy.generation)
  | .keyOperate (some policy) _ operations => some (policy.gen, operations.gen)
  | _ => none

/-- The call is refused without a request, or its request carries what was
supplied. -/
def GenerationKept (z : Zval) (outcome : Outcome) : Prop :=
  outcome.Refused ∨ ∃ request policy generation,
    outcome.state.requests = [request] ∧
    request.generation = some (policy, generation) ∧
    (suppliedGeneration z).CarriedBy policy generation

section

variable {engine : Engine} {client : Client} {oracle : Oracle}
variable {policies : Policies} {hash : HashTable} {z : Zval}

/-! ## The two readings -/

theorem recordGeneration_status_iff {gen : ℕ}
    (hz : hash.indexFind optPolicyGen = some z) :
    (setRecordGenerationFromWritePolicy (some (.array hash)) gen).1 = .ok ↔
      ¬ GenerationRefused z := by
  unfold setRecordGenerationFromWritePolicy GenerationRefused
  simp only [hz]
  cases z with
  | array pair =>
      by_cases htwo : HashTable.numElements pair = 2
      · simp only [htwo, ne_eq, not_true, if_false, true_and]
        cases hn : HashTable.indexFind pair 1 with
        | none => simp
        | some zn => cases zn <;> simp
      · simp [htwo]
  | undef | null | bool _ | long _ | double _ | string _ | object _ _
  | resource | reference _ => simp

/-- What the generation setters store for an entry that they accept, against
the policy that the converters read from its first element. -/
theorem carriedBy_iff {gen policy : ℕ}
    (hz : hash.indexFind optPolicyGen = some z)
    (haccepted : ¬ GenerationRefused z)
    (hpolicy : ∀ pair p, z = .array pair →
      HashTable.indexFind pair 0 = some (.long p) → policy = toUint32 p) :
    (suppliedGeneration z).CarriedBy policy
        (setRecordGenerationFromWritePolicy (some (.array hash)) gen).2 ↔
      (suppliedGeneration z).Fits := by
  unfold suppliedGeneration
  split
  · next pair =>
      split
      · next p hp =>
          obtain rfl := hpolicy pair p rfl hp
          by_cases hone : HashTable.numElements pair = 1
          · simp only [hone, if_true]
            exact toUint32_eq_iff p
          · by_cases htwo : HashTable.numElements pair = 2
            · cases hn : HashTable.indexFind pair 1 with
              | none => simp [GenerationRefused, htwo, hn] at haccepted
              | some zn =>
                  cases zn with
                  | long n =>
                      simp only [htwo, if_true]
                      have hstored : (setRecordGenerationFromWritePolicy
                          (some (.array hash)) gen).2 = toUint16 n := by
                        simp [setRecordGenerationFromWritePolicy, hz, htwo, hn]
                      rw [hstored]
                      exact and_congr (toUint32_eq_iff p) (toUint16_eq_iff n)
                  | undef | null | bool _ | double _ | string _ | array _
                  | object _ _ | resource | reference _ =>
                      simp [GenerationRefused, htwo, hn] at haccepted
            · simp only [hone, htwo, if_false]
              exact Iff.rfl
      · exact Iff.rfl
  · exact Iff.rfl

theorem setGenFromWriteHash_eq {gen : ℕ} {pair : HashTable} {p : Int64}
    (hz : hash.indexFind optPolicyGen = some (.array pair))
    (hp : HashTable.indexFind pair 0 = some (.long p)) :
    setGenFromWriteHash hash gen = toUint32 p := by
  have hne : 0 < HashTable.numElements pair := by
    cases pair with
    | nil => cases hp
    | cons entry rest => simp [HashTable.numElements]
  simp [setGenFromWriteHash, hz, hne, setUint32FromHashIndex, hp]

theorem setGenFromOperateHash_eq {rt : Runtime} {gen : ℕ} {pair : HashTable}
    {p : Int64} (hz : hash.indexFind optPolicyGen = some (.array pair))
    (hp : HashTable.indexFind pair 0 = some (.long p)) :
    setGenFromOperateHash rt hash gen = toUint32 p := by
  simp [setGenFromOperateHash, hz, hp, Runtime.zLval]

/-! ## From a verdict to a call -/

/-- The verdict is a request with this generation policy, and with what the
setters store. -/
def SubmitsGeneration (hash : HashTable) (policy : ℕ)
    (verdict : Verdict Request) : Prop :=
  ∃ request gen, verdict = .ok request ∧
    request.generation = some (policy,
      (setRecordGenerationFromWritePolicy (some (.array hash)) gen).2)

theorem generationKept_of_sent {outcome : Outcome} {request : Request}
    {policy generation : ℕ} (hsent : outcome.state.requests = [request])
    (hgeneration : request.generation = some (policy, generation)) :
    GenerationKept z outcome ↔
      (suppliedGeneration z).CarriedBy policy generation := by
  constructor
  · rintro (⟨-, hnone⟩ | ⟨request', policy', generation', hone, hgen, hcarried⟩)
    · exact absurd (hsent.symm.trans hnone) (by simp)
    · obtain rfl : request = request' := by simpa using hsent.symm.trans hone
      obtain ⟨rfl, rfl⟩ : policy = policy' ∧ generation = generation' := by
        simpa using hgeneration.symm.trans hgen
      exact hcarried
  · exact fun hcarried =>
      .inr ⟨request, policy, generation, hsent, hgeneration, hcarried⟩

theorem generationKept_iff {method : Method Reply} {verdict : Verdict Request}
    {passes : Prop} (policy : ℕ) (clientError : AsError)
    (hsends : Sends SameRequests false (cleanWith policies) method verdict)
    (hz : hash.indexFind optPolicyGen = some z)
    (hpolicy : ∀ pair p, z = .array pair →
      HashTable.indexFind pair 0 = some (.long p) → policy = toUint32 p)
    (hgated : Gated (passes ∧ ¬ GenerationRefused z)
      (SubmitsGeneration hash policy) verdict) :
    GenerationKept z (method.call (.start policies clientError)) ↔
      (passes → GenerationExact z) := by
  have hcall := call_of_sends clientError hsends
  unfold GenerationExact
  rcases hgated with
    ⟨⟨hpasses, haccepted⟩, request, gen, rfl, hgen⟩ | ⟨hstops, rfl⟩
  · rw [generationKept_of_sent (meets_sameRequests hcall) hgen,
      carriedBy_iff hz haccepted hpolicy]
    simp [hpasses, haccepted]
  · refine iff_of_true (.inl hcall) fun hpasses => .inl ?_
    by_contra haccepted
    exact hstops ⟨hpasses, haccepted⟩

end

end AerospikePhp
