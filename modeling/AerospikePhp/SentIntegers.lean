import AerospikePhp.GivenIntegers
import AerospikePhp.PolicyFrames
import Mathlib.Tactic

/-!
# Integers on their way to a request

Every request that a call sends and that takes options has the integers of the
call, cut to the width of their fields.
-/

namespace AerospikePhp

open Procedure Method Proc

-- a method body is one instance problem with a premise for every statement
set_option synthInstance.maxSize 200000

/-! ## What the requests of a call hold -/

namespace Call

/-- The ttl in the request; `removeBin` makes its own record and leaves the
option aside. -/
def sentTtl : Call → Int64 → ℕ
  | .removeBin _, _ => 0
  | _, n => toUint32 n

/-- Each integer that the call is given is in the request, cut to the width of
its field. -/
structure Forwards (operators : OperatorCodes) (call : Call)
    (request : Request) : Prop where
  integers : Carries call.kind call.options request.integer
  ttl : ∀ n, call.givenTtl operators = some n →
    request.ttl = some (call.sentTtl n)
  port : ∀ n, call.givenPort = some n → request.port = some (toUint16 n)

/-- The same for a request that takes options at all. -/
def Respects (operators : OperatorCodes) (call : Call) (request : Request) :
    Prop :=
  request.takesOptions = true → call.Forwards operators request

theorem respects_of {operators : OperatorCodes} {call : Call}
    {request : Request}
    (hintegers : Carries call.kind call.options request.integer)
    (httl : call.givenTtl operators = none) (hport : call.givenPort = none) :
    call.Respects operators request :=
  fun _ => ⟨hintegers, fun n hgiven => by simp [httl] at hgiven,
    fun n hgiven => by simp [hport] at hgiven⟩

end Call

/-- Requests without the property are not sent. -/
def SendsOnly (Q : Request → Prop) (s s' : CallState) : Prop :=
  (∀ request ∈ s.requests, Q request) → ∀ request ∈ s'.requests, Q request

instance (Q : Request → Prop) : Frame (SendsOnly Q) where
  refl _ := id
  trans _ _ _ h h' := h' ∘ h
  untouched _ hrequests hall request hmem := hall request (hrequests ▸ hmem)

class Sendable (Q : Request → Prop) (request : Request) : Prop where
  sendable : Q request

section

variable {α : Type} {Q : Request → Prop}

instance (oracle : Oracle) (request : Request) [hrequest : Sendable Q request] :
    Moves (SendsOnly Q) (issue oracle request) := by
  refine ⟨fun s hall sent hmem => ?_⟩
  rcases List.mem_append.mp hmem with hold | hnew
  · exact hall sent hold
  · obtain rfl := List.mem_singleton.mp hnew
    exact hrequest.sendable

instance {P : Type} (field : PolicyField P)
    (converter : P → ConvertedPolicy P) (failure : Method Unit)
    [Moves (SendsOnly Q) failure] :
    Moves (SendsOnly Q) (requirePolicy field converter failure) := by
  have hload : Moves (SendsOnly Q) (loadPolicy field converter) :=
    ⟨fun _ => id⟩
  unfold requirePolicy
  infer_instance

instance (engine : Engine) (zPolicy : Option Zval) (message : String) :
    Moves (SendsOnly Q) (requireInfoPolicy engine zPolicy message) := by
  unfold requireInfoPolicy
  infer_instance

instance (engine : Engine) (zPolicy : Option Zval) (message : String) :
    Moves (SendsOnly Q) (requireAdminPolicy engine zPolicy message) := by
  unfold requireAdminPolicy
  infer_instance

theorem requests_of_sendsOnly {method : Method Reply} {policies : Policies}
    (clientError : AsError) [hmoves : Moves (SendsOnly Q) method] :
    ∀ request ∈ (method.call (.start policies clientError)).state.requests,
      Q request := by
  have hrun := hmoves.moves (.start policies clientError)
    fun _ hmem => absurd hmem List.not_mem_nil
  unfold Method.call
  generalize method.run (.start policies clientError) = result at hrun ⊢
  obtain ⟨outcome, s'⟩ := result
  cases outcome with
  | ok reply => exact hrun
  | error exit => cases exit <;> exact hrun

/-! ## The policies -/

theorem carries_none {kind : OptionsKind} {integer : PolicyInteger → Option ℕ} :
    Carries kind none integer := fun _ _ hgiven => by cases hgiven

theorem returns_of_fails {failure : Method α} [hfails : Fails true failure] :
    Returns failure fun _ => False := by
  intro s value s' hrun
  obtain ⟨exit, s'', hend, -⟩ := hfails.yields s trivial
  rw [hend] at hrun
  simp at hrun

theorem returns_orFail {value : Option α} {failure : Method α}
    [Fails true failure] : Returns (orFail value failure) fun v => value = some v := by
  cases value with
  | none =>
      have hfails : Returns failure fun _ => False := returns_of_fails
      exact hfails.weaken fun _ => False.elim
  | some v => exact returns_pure rfl

/-- A policy that is returned is one that the converter made with success. -/
theorem returns_requirePolicy {P : Type} {field : PolicyField P}
    {converter : P → ConvertedPolicy P} {failure : Method Unit}
    [Fails true failure] {good : P → Prop}
    (hgood : ∀ policy, (converter policy).status = .ok →
      good (converter policy).policy) :
    Returns (requirePolicy field converter failure) good := by
  have hload : Returns (loadPolicy field converter) fun converted =>
      ∃ policy, converted = converter policy := by
    intro s converted s' hrun
    have hconverted : (Except.ok (converter (field.get s.policies)) :
        Except Exit (ConvertedPolicy P)) = .ok converted :=
      congrArg Prod.fst hrun
    exact ⟨field.get s.policies, (Except.ok.inj hconverted).symm⟩
  unfold requirePolicy
  refine returns_bind hload ?_
  rintro _ ⟨policy, rfl⟩
  by_cases hok : (converter policy).status = .ok
  · exact returns_bind (returns_true _) fun _ _ => returns_pure (hgood policy hok)
  · unfold runIf
    rw [if_pos hok]
    exact returns_bind returns_of_fails fun _ hfalse => hfalse.elim

section

variable {z : Option Zval} {failure : Method Unit} [Fails true failure]

theorem returns_readPolicy {init : PolicyRead} :
    Returns (requirePolicy readField (zvalToAsPolicyRead init z) failure)
      fun policy => Carries .read z policy.base.integer :=
  returns_requirePolicy fun _ _ => zvalToAsPolicyRead_carries

theorem returns_writePolicy {init : PolicyWrite} :
    Returns (requirePolicy writeField (zvalToAsPolicyWrite init z) failure)
      fun policy => Carries .write z policy.base.integer :=
  returns_requirePolicy fun _ _ => zvalToAsPolicyWrite_carries

theorem returns_applyPolicy {init : PolicyApply} :
    Returns (requirePolicy applyField (zvalToAsPolicyApply init z) failure)
      fun policy => Carries .write z policy.base.integer :=
  returns_requirePolicy fun _ _ => zvalToAsPolicyApply_carries

theorem returns_queryPolicy {init : PolicyQuery} :
    Returns (requirePolicy queryField (zvalToAsPolicyQuery init z) failure)
      fun policy => Carries .read z policy.base.integer :=
  returns_requirePolicy fun _ hok => zvalToAsPolicyQuery_carries hok

theorem returns_batchPolicy {init : PolicyBatch} :
    Returns (requirePolicy batchField (zvalToAsPolicyBatch init z) failure)
      fun policy => Carries .read z policy.base.integer :=
  returns_requirePolicy fun _ hok => zvalToAsPolicyBatch_carries hok

theorem returns_scanPolicy {init : PolicyScan} :
    Returns (requirePolicy scanField (zvalToAsPolicyScan init z) failure)
      fun policy => Carries .scan z policy.integer :=
  returns_requirePolicy fun _ hok => zvalToAsPolicyScan_carries hok

theorem returns_infoPolicy {init : PolicyInfo} :
    Returns (requirePolicy infoField (zvalToAsPolicyInfo init z) failure)
      fun policy => Carries .info z policy.integer :=
  returns_requirePolicy fun _ _ => zvalToAsPolicyInfo_carries

theorem returns_adminPolicy {init : PolicyInfo} :
    Returns (requirePolicy adminField (zvalToAsPolicyAdmin init z) failure)
      fun policy => Carries .admin z policy.integer :=
  returns_requirePolicy fun _ hok => zvalToAsPolicyAdmin_carries hok

end

/-- Options that are left out give no integer, so any policy carries them. -/
theorem returns_whenGiven {P : Type} {z given : Option Zval} {kind : OptionsKind}
    {load : Method P} {integer : P → PolicyInteger → Option ℕ}
    (hleft : given = none → ∀ field, givenInteger kind z field = none)
    (hload : Returns load fun policy => Carries kind z (integer policy)) :
    Returns (whenGiven given load) fun policy =>
      Carries kind z (policyInteger integer policy) := by
  cases given with
  | none =>
      refine returns_pure fun field n hgiven => ?_
      rw [hleft rfl field] at hgiven
      cases hgiven
  | some _ => exact returns_bind hload fun policy hpolicy => returns_pure hpolicy

theorem givenInteger_of_none {kind : OptionsKind} {z : Option Zval}
    (hnone : z = none) (field : PolicyInteger) :
    givenInteger kind z field = none := by
  rw [hnone]
  rfl

theorem givenInteger_nonNull {kind : OptionsKind} {z : Option Zval}
    (hnull : nonNull z = none) (field : PolicyInteger) :
    givenInteger kind z field = none := by
  cases z with
  | none => rfl
  | some z =>
      cases z with
      | array _ => cases hnull
      | undef | null | bool _ | long _ | double _ | string _ | object _ _
      | resource | reference _ => rfl

/-- The arguments are there. -/
theorem moves_args {R : CallState → CallState → Prop} {args : α} {β : Type}
    {failure : Method α} {next : α → Method β} (hnext : Moves R (next args)) :
    Moves R (orFail (some args) failure >>= next) := hnext

theorem moves_withCleanup {R : CallState → CallState → Prop} [ErrorFrame R]
    {body : Method Unit} {cleanup : Method α} (hbody : Moves R body)
    [Moves R cleanup] : Moves R (withCleanup body cleanup) := inferInstance

end

end AerospikePhp
