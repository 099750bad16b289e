import Mathlib.Tactic

/-!
# Procedures with early exit

A procedure reads and writes a state `σ` and either goes on with a value of
type `α` or leaves early with a result of type `ε`, as a C function does that
has a `return` or a `goto` in the middle of its body.  The state reached is
kept in both cases.

The rules below are the ones of a small program logic: a relation between the
state on entry and the state on exit (`Moves`), and a precondition with one
postcondition for each way out (`Ends`).
-/

namespace Procedure

/-- A computation that ends with the state it reached, after its last
statement or after an early exit. -/
def Proc (σ ε α : Type) : Type := σ → Except ε α × σ

variable {σ ε ε' α β : Type}

namespace Proc

def run (body : Proc σ ε α) (state : σ) : Except ε α × σ := body state

protected def pure (value : α) : Proc σ ε α := fun state => (.ok value, state)

protected def bind (body : Proc σ ε α) (next : α → Proc σ ε β) : Proc σ ε β :=
  fun state =>
    match body state with
    | (.ok value, state') => next value state'
    | (.error result, state') => (.error result, state')

instance : Monad (Proc σ ε) where
  pure := Proc.pure
  bind := Proc.bind

/-- Leave the procedure with `result`. -/
def exit (result : ε) : Proc σ ε α := fun state => (.error result, state)

def get : Proc σ ε σ := fun state => (.ok state, state)

def modify (change : σ → σ) : Proc σ ε Unit := fun state => (.ok (), change state)

/-- Run `body`; when it leaves early, go on with `handler`. -/
def catchExit (body : Proc σ ε' α) (handler : ε' → Proc σ ε α) : Proc σ ε α :=
  fun state =>
    match body state with
    | (.ok value, state') => (.ok value, state')
    | (.error result, state') => handler result state'

@[simp] theorem run_pure (value : α) (state : σ) :
    (pure value : Proc σ ε α).run state = (.ok value, state) := rfl

@[simp] theorem run_exit (result : ε) (state : σ) :
    (exit result : Proc σ ε α).run state = (.error result, state) := rfl

@[simp] theorem run_get (state : σ) :
    (get : Proc σ ε σ).run state = (.ok state, state) := rfl

@[simp] theorem run_modify (change : σ → σ) (state : σ) :
    (modify change : Proc σ ε Unit).run state = (.ok (), change state) := rfl

theorem run_catchExit (body : Proc σ ε' α) (handler : ε' → Proc σ ε α)
    (state : σ) :
    (catchExit body handler).run state =
      match body.run state with
      | (.ok value, state') => (.ok value, state')
      | (.error result, state') => (handler result).run state' := rfl

theorem run_bind (body : Proc σ ε α) (next : α → Proc σ ε β) (state : σ) :
    (body >>= next).run state =
      match body.run state with
      | (.ok value, state') => (next value).run state'
      | (.error result, state') => (.error result, state') := rfl

theorem run_bind_ok {body : Proc σ ε α} {next : α → Proc σ ε β}
    {state state' : σ} {value : α}
    (hbody : body.run state = (.ok value, state')) :
    (body >>= next).run state = (next value).run state' := by
  rw [run_bind, hbody]

theorem run_bind_error {body : Proc σ ε α} {next : α → Proc σ ε β}
    {state state' : σ} {result : ε}
    (hbody : body.run state = (.error result, state')) :
    (body >>= next).run state = (.error result, state') := by
  rw [run_bind, hbody]

theorem pure_bind (value : α) (next : α → Proc σ ε β) :
    (pure value >>= next) = next value := rfl

theorem bind_assoc {γ : Type} (body : Proc σ ε α) (next : α → Proc σ ε β)
    (last : β → Proc σ ε γ) :
    (body >>= next >>= last) = (body >>= fun value => next value >>= last) := by
  funext state
  show (body >>= next >>= last).run state =
    (body >>= fun value => next value >>= last).run state
  rw [run_bind (body >>= next), run_bind body next,
    run_bind body fun value => next value >>= last]
  cases body.run state with
  | mk outcome state' => cases outcome <;> rfl

/-- A sequence that reaches its end ran both parts to their ends. -/
theorem bind_eq_ok {body : Proc σ ε α} {next : α → Proc σ ε β}
    {state final : σ} {value : β}
    (hrun : (body >>= next).run state = (.ok value, final)) :
    ∃ middle state', body.run state = (.ok middle, state') ∧
      (next middle).run state' = (.ok value, final) := by
  rw [run_bind] at hrun
  cases hbody : body.run state with
  | mk outcome state' =>
      cases outcome with
      | ok middle =>
          rw [hbody] at hrun
          exact ⟨middle, state', rfl, hrun⟩
      | error result =>
          rw [hbody] at hrun
          simp at hrun

/-! ## Relations between entry and exit -/

/-- Every run of the procedure relates the state on entry to the one it ends
in, at the end of the body and at every early exit alike.  The rules are
instances, so that a body put together from pieces that move in `R` is found
to move in `R`. -/
class Moves (R : σ → σ → Prop) (body : Proc σ ε α) : Prop where
  moves : ∀ state, R state (body.run state).2

section Moves

variable {R : σ → σ → Prop}

instance [Std.Refl R] (value : α) : Moves R (pure value : Proc σ ε α) :=
  ⟨fun state => Std.Refl.refl state⟩

instance [Std.Refl R] (result : ε) : Moves R (exit result : Proc σ ε α) :=
  ⟨fun state => Std.Refl.refl state⟩

instance [Std.Refl R] : Moves R (get : Proc σ ε σ) :=
  ⟨fun state => Std.Refl.refl state⟩

theorem moves_modify {change : σ → σ} (hchange : ∀ state, R state (change state)) :
    Moves R (modify change : Proc σ ε Unit) := ⟨hchange⟩

instance [IsTrans σ R] (body : Proc σ ε α) (next : α → Proc σ ε β)
    [hbody : Moves R body] [hnext : ∀ value, Moves R (next value)] :
    Moves R (body >>= next) where
  moves state := by
    have hfirst := hbody.moves state
    rw [run_bind]
    cases hrun : body.run state with
    | mk outcome state' =>
        rw [hrun] at hfirst
        cases outcome with
        | ok value => exact IsTrans.trans _ _ _ hfirst ((hnext value).moves state')
        | error result => exact hfirst

instance [IsTrans σ R] (body : Proc σ ε' α) (handler : ε' → Proc σ ε α)
    [hbody : Moves R body] [hhandler : ∀ result, Moves R (handler result)] :
    Moves R (catchExit body handler) where
  moves state := by
    have hfirst := hbody.moves state
    rw [run_catchExit]
    cases hrun : body.run state with
    | mk outcome state' =>
        rw [hrun] at hfirst
        cases outcome with
        | ok value => exact hfirst
        | error result =>
            exact IsTrans.trans _ _ _ hfirst ((hhandler result).moves state')

instance {condition : Prop} [Decidable condition] (yes no : Proc σ ε α)
    [hyes : Moves R yes] [hno : Moves R no] :
    Moves R (if condition then yes else no) := by
  split
  · exact hyes
  · exact hno

/-- The value of the procedure, where it reaches its end, has the property. -/
def Returns (body : Proc σ ε α) (good : α → Prop) : Prop :=
  ∀ state value state', body.run state = (.ok value, state') → good value

theorem returns_pure {value : α} {good : α → Prop} (hgood : good value) :
    Returns (pure value : Proc σ ε α) good := by
  intro state value' state' hrun
  obtain ⟨rfl, -⟩ : value = value' ∧ state = state' := by simpa using hrun
  exact hgood

theorem Returns.weaken {body : Proc σ ε α} {good good' : α → Prop}
    (hbody : Returns body good) (hgood : ∀ value, good value → good' value) :
    Returns body good' :=
  fun state value state' hrun => hgood value (hbody state value state' hrun)

theorem returns_bind {body : Proc σ ε β} {next : β → Proc σ ε α}
    {middle : β → Prop} {good : α → Prop} (hbody : Returns body middle)
    (hnext : ∀ value, middle value → Returns (next value) good) :
    Returns (body >>= next) good := by
  intro state value final hrun
  obtain ⟨between, state', hfirst, hrest⟩ := bind_eq_ok hrun
  exact hnext between (hbody state between state' hfirst) state' value final hrest

theorem returns_true (body : Proc σ ε α) : Returns body fun _ => True :=
  fun _ _ _ _ => trivial

theorem returns_exit {result : ε} {good : α → Prop} :
    Returns (exit result : Proc σ ε α) good := by
  intro state value state' hrun
  simp at hrun

/-- A sequence moves in `R` when its second part does for the values that the
first one can have. -/
theorem moves_bind_of [IsTrans σ R] {body : Proc σ ε β}
    {next : β → Proc σ ε α} {good : β → Prop} [hbody : Moves R body]
    (hreturns : Returns body good)
    (hnext : ∀ value, good value → Moves R (next value)) :
    Moves R (body >>= next) where
  moves state := by
    have hfirst := hbody.moves state
    rw [run_bind]
    cases hrun : body.run state with
    | mk outcome state' =>
        rw [hrun] at hfirst
        cases outcome with
        | ok value =>
            have hgood := hreturns state value state' hrun
            exact IsTrans.trans _ _ _ hfirst ((hnext value hgood).moves state')
        | error result => exact hfirst

theorem moves_seq [IsTrans σ R] {body : Proc σ ε β} {next : β → Proc σ ε α}
    [Moves R body] (hnext : ∀ value, Moves R (next value)) :
    Moves R (body >>= next) :=
  moves_bind_of (returns_true body) fun value _ => hnext value

end Moves

/-! ## Postconditions for both ways out -/

/-- Started in a state that meets `P`, the procedure reaches its end only with
a value and a state that meet `Q`, and leaves early only with a result and a
state that meet `E`. -/
def Ends (P : σ → Prop) (body : Proc σ ε α) (Q : α → σ → Prop)
    (E : ε → σ → Prop) : Prop :=
  ∀ state, P state →
    match body.run state with
    | (.ok value, state') => Q value state'
    | (.error result, state') => E result state'

section Ends

variable {P : σ → Prop} {Q : α → σ → Prop} {E : ε → σ → Prop}

theorem ends_pure {value : α} (hpost : ∀ state, P state → Q value state) :
    Ends P (pure value : Proc σ ε α) Q E := hpost

theorem ends_bind {M : β → σ → Prop} {body : Proc σ ε β}
    {next : β → Proc σ ε α} (hbody : Ends P body M E)
    (hnext : ∀ value, Ends (M value) (next value) Q E) :
    Ends P (body >>= next) Q E := by
  intro state hstate
  have hfirst := hbody state hstate
  rw [run_bind]
  cases hrun : body.run state with
  | mk outcome state' =>
      rw [hrun] at hfirst
      cases outcome with
      | ok value => exact hnext value state' hfirst
      | error result => exact hfirst

theorem ends_ite {condition : Prop} [Decidable condition]
    {yes no : Proc σ ε α} (hyes : condition → Ends P yes Q E)
    (hno : ¬ condition → Ends P no Q E) :
    Ends P (if condition then yes else no) Q E := by
  split
  · next hc => exact hyes hc
  · next hc => exact hno hc

theorem ends_weaken {P' : σ → Prop} {Q' : α → σ → Prop} {E' : ε → σ → Prop}
    {body : Proc σ ε α} (hends : Ends P body Q E)
    (hpre : ∀ state, P' state → P state)
    (hpost : ∀ value state, Q value state → Q' value state)
    (hexit : ∀ result state, E result state → E' result state) :
    Ends P' body Q' E' := by
  intro state hstate
  have hrun := hends state (hpre state hstate)
  cases hbody : body.run state with
  | mk outcome state' =>
      rw [hbody] at hrun
      cases outcome with
      | ok value => exact hpost value state' hrun
      | error result => exact hexit result state' hrun

/-- A precondition that does not depend on the state. -/
theorem ends_given {fact : Prop} {body : Proc σ ε α}
    (hbody : fact → Ends P body Q E) :
    Ends (fun state => fact ∧ P state) body Q E := by
  rintro state ⟨hfact, hstate⟩
  exact hbody hfact state hstate

/-- A procedure that cannot reach its end leaves early. -/
theorem ends_false_run {body : Proc σ ε α}
    (hends : Ends P body (fun _ _ => False) E) {state : σ} (hstate : P state) :
    ∃ result state', body.run state = (.error result, state') ∧
      E result state' := by
  have hrun := hends state hstate
  cases hbody : body.run state with
  | mk outcome state' =>
      rw [hbody] at hrun
      cases outcome with
      | ok value => exact hrun.elim
      | error result => exact ⟨result, state', rfl, hrun⟩

end Ends

end Proc

end Procedure
