import AerospikePhp.Library.Transition
import Mathlib.Tactic

/-!
# Systems that reply

A system answers each request and goes on to a new state.  One system refines
another when a relation between their states makes every reply the same; from
one step this follows for whole histories.
-/

namespace Refinement

open Transition

structure System (σ ε ρ : Type) where
  step : σ → ε → ρ × σ

namespace System

variable {σ τ ε ρ : Type}

/-- The machine that is left when the replies are dropped. -/
def machine (system : System σ ε ρ) (state : σ) : Machine σ ε :=
  ⟨state, fun state request => (system.step state request).2⟩

/-- The state after a history. -/
def after (system : System σ ε ρ) (state : σ) (history : List ε) : σ :=
  (system.machine state).run history

/-- The reply to a request that follows a history. -/
def reply (system : System σ ε ρ) (state : σ) (history : List ε) (request : ε) : ρ :=
  (system.step (system.after state history) request).1

variable {system : System σ ε ρ} {spec : System τ ε ρ}

@[simp] theorem after_nil (state : σ) : system.after state [] = state := rfl

theorem after_concat (state : σ) (history : List ε) (request : ε) :
    system.after state (history ++ [request]) =
      (system.step (system.after state history) request).2 :=
  List.foldl_concat _ _ _ _

/-- On the requests that meet `P`, a step keeps the relation and gives the
reply of the other system. -/
def StepRefines (system : System σ ε ρ) (spec : System τ ε ρ) (R : σ → τ → Prop)
    (P : ε → Prop) : Prop :=
  ∀ state abstract request, R state abstract → P request →
    (system.step state request).1 = (spec.step abstract request).1 ∧
      R (system.step state request).2 (spec.step abstract request).2

theorem StepRefines.after {R : σ → τ → Prop} {P : ε → Prop}
    (hstep : StepRefines system spec R P) {state : σ} {abstract : τ}
    (hstate : R state abstract) {history : List ε}
    (hhistory : ∀ request ∈ history, P request) :
    R (system.after state history) (spec.after abstract history) := by
  induction history using List.reverseRecOn with
  | nil => exact hstate
  | append_singleton history request ih =>
      have hbefore := ih fun earlier hmem =>
        hhistory earlier (List.mem_append_left _ hmem)
      have hrequest : P request := hhistory request (by simp)
      rw [after_concat, after_concat]
      exact (hstep _ _ request hbefore hrequest).2

/-- After any history of such requests the replies agree. -/
theorem StepRefines.reply {R : σ → τ → Prop} {P : ε → Prop}
    (hstep : StepRefines system spec R P) {state : σ} {abstract : τ}
    (hstate : R state abstract) {history : List ε} {request : ε}
    (hhistory : ∀ earlier ∈ history, P earlier) (hrequest : P request) :
    system.reply state history request = spec.reply abstract history request :=
  (hstep _ _ request (hstep.after hstate hhistory) hrequest).1

/-! ## Up to relations on requests and replies -/

variable {ζ π : Type} {other : System τ ζ π}

/-- The replies to the requests of a history, in order. -/
def replies (system : System σ ε ρ) : σ → List ε → List ρ
  | _, [] => []
  | state, request :: history =>
      (system.step state request).1 ::
        system.replies (system.step state request).2 history

@[simp] theorem replies_nil (state : σ) : system.replies state [] = [] := rfl

@[simp] theorem replies_cons (state : σ) (request : ε) (history : List ε) :
    system.replies state (request :: history) =
      (system.step state request).1 ::
        system.replies (system.step state request).2 history := rfl

/-- A step on a request that stands for one of the other system keeps the
relation and gives a reply that stands for its reply. -/
def Simulates (system : System σ ε ρ) (other : System τ ζ π) (R : σ → τ → Prop)
    (Q : ε → ζ → Prop) (E : ρ → π → Prop) : Prop :=
  ∀ state abstract request request', R state abstract → Q request request' →
    E (system.step state request).1 (other.step abstract request').1 ∧
      R (system.step state request).2 (other.step abstract request').2

/-- Over whole histories all replies stand for each other. -/
theorem Simulates.replies {R : σ → τ → Prop} {Q : ε → ζ → Prop}
    {E : ρ → π → Prop} (hstep : Simulates system other R Q E) {state : σ}
    {abstract : τ} (hstate : R state abstract) {history : List ε}
    {history' : List ζ} (hhistory : List.Forall₂ Q history history') :
    List.Forall₂ E (system.replies state history)
      (other.replies abstract history') := by
  induction hhistory generalizing state abstract with
  | nil => exact .nil
  | cons hrequest _ ih =>
      obtain ⟨hreply, hnext⟩ := hstep _ _ _ _ hstate hrequest
      exact .cons hreply (ih hnext)

end System

end Refinement
