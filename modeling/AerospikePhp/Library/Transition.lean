import Mathlib.Tactic

/-!
# Runs of a labelled machine

A machine takes one step for each event, and the event carries whatever the
environment decides in that step, so the step itself is a function.  A run is
the fold of the step over a list of events.

Three rules follow from one induction each: an invariant of the step is an
invariant of every run, a relation kept by every step that meets a condition
relates the two ends of a run whose steps all meet it, and what no step can
undo is never undone.
-/

namespace Transition

structure Machine (σ ε : Type) where
  init : σ
  step : σ → ε → σ

variable {σ ε : Type}

namespace Machine

variable (machine : Machine σ ε)

def runFrom (state : σ) (events : List ε) : σ :=
  events.foldl machine.step state

def run (events : List ε) : σ := machine.runFrom machine.init events

/-- Every step of the run from `state` meets `P`, judged in the state in which
the step is taken. -/
def EveryStep (P : σ → ε → Prop) : σ → List ε → Prop
  | _, [] => True
  | state, event :: events =>
      P state event ∧ EveryStep P (machine.step state event) events

instance (P : σ → ε → Prop) [∀ state event, Decidable (P state event)] :
    ∀ state events, Decidable (machine.EveryStep P state events)
  | _, [] => isTrue trivial
  | state, event :: events =>
      let _ := instDecidableEveryStep P (machine.step state event) events
      inferInstanceAs (Decidable (_ ∧ _))

variable {machine}

@[simp] theorem runFrom_nil (state : σ) : machine.runFrom state [] = state :=
  rfl

@[simp] theorem runFrom_cons (state : σ) (event : ε) (events : List ε) :
    machine.runFrom state (event :: events) =
      machine.runFrom (machine.step state event) events := rfl

theorem runFrom_append (state : σ) (first second : List ε) :
    machine.runFrom state (first ++ second) =
      machine.runFrom (machine.runFrom state first) second :=
  List.foldl_append

@[simp] theorem everyStep_nil (P : σ → ε → Prop) (state : σ) :
    machine.EveryStep P state [] := trivial

@[simp] theorem everyStep_cons (P : σ → ε → Prop) (state : σ) (event : ε)
    (events : List ε) :
    machine.EveryStep P state (event :: events) ↔
      P state event ∧ machine.EveryStep P (machine.step state event) events :=
  Iff.rfl

theorem everyStep_append (P : σ → ε → Prop) (state : σ)
    (first second : List ε) :
    machine.EveryStep P state (first ++ second) ↔
      machine.EveryStep P state first ∧
        machine.EveryStep P (machine.runFrom state first) second := by
  induction first generalizing state with
  | nil => simp
  | cons event events ih => simp [ih, and_assoc]

theorem everyStep_of_forall {P : ε → Prop} {events : List ε}
    (hall : ∀ event ∈ events, P event) {state : σ} :
    machine.EveryStep (fun _ event => P event) state events := by
  induction events generalizing state with
  | nil => trivial
  | cons event events ih =>
      exact ⟨hall event (by simp), ih fun later hlater =>
        hall later (List.mem_cons_of_mem event hlater)⟩

/-- An invariant of every step is an invariant of every run. -/
theorem invariant_runFrom {I : σ → Prop}
    (hstep : ∀ state event, I state → I (machine.step state event))
    {state : σ} (hstate : I state) (events : List ε) :
    I (machine.runFrom state events) := by
  induction events generalizing state with
  | nil => exact hstate
  | cons event events ih => exact ih (hstep state event hstate)

/-- An invariant that only steps meeting `P` are known to keep holds at the
end of every run whose steps all meet `P`. -/
theorem invariant_everyStep {I : σ → Prop} {P : σ → ε → Prop}
    (hstep : ∀ state event, I state → P state event →
      I (machine.step state event))
    {state : σ} (hstate : I state) {events : List ε}
    (hevery : machine.EveryStep P state events) :
    I (machine.runFrom state events) := by
  induction events generalizing state with
  | nil => exact hstate
  | cons event events ih =>
      exact ih (hstep state event hstate hevery.1) hevery.2

/-- A run in which some step does not meet `P` splits at the first such
step. -/
theorem exists_first_of_not_everyStep {P : σ → ε → Prop} {state : σ}
    {events : List ε} (hnot : ¬ machine.EveryStep P state events) :
    ∃ before event after, events = before ++ event :: after ∧
      machine.EveryStep P state before ∧
      ¬ P (machine.runFrom state before) event := by
  induction events generalizing state with
  | nil => exact absurd trivial hnot
  | cons event events ih =>
      by_cases hevent : P state event
      · have hrest :
            ¬ machine.EveryStep P (machine.step state event) events :=
          fun hevery => hnot ⟨hevent, hevery⟩
        obtain ⟨before, bad, after, rfl, hbefore, hbad⟩ := ih hrest
        exact ⟨event :: before, bad, after, rfl, ⟨hevent, hbefore⟩, hbad⟩
      · exact ⟨[], event, events, rfl, trivial, hevent⟩

end Machine

end Transition
