import AerospikePhp.Library.References
import AerospikePhp.Library.Transition
import Mathlib.Tactic

/-!
# Registered callbacks

The module keeps three PHP functions in its globals: the serializer and the
deserializer of the program, and its log handler.  It has a reference to each of
them from the call that sets it to the next one, or to the end of the request.
The logger of the C client knows nothing of requests.
-/

namespace AerospikePhp

namespace Callbacks

open Transition References

/-- The call infos in the globals, each with its flag. -/
inductive Slot where
  | serializer
  | deserializer
  | logHandler
  deriving DecidableEq

instance : Fintype Slot where
  elems := {.serializer, .deserializer, .logHandler}
  complete slot := by cases slot <;> decide

section

variable {Callable : Type}

/-- A call of a setter, after the release of the function that was set before. -/
structure Frame (Callable : Type) where
  slot : Slot
  function : Callable
  /-- The release was of the last reference: destructors run meanwhile. -/
  destructing : Bool

/-- A call of the function in a slot. -/
structure Call (Callable : Type) where
  slot : Slot
  function : Callable
  /-- Somebody has a reference to the function. -/
  alive : Bool
  deriving DecidableEq

structure State (Callable : Type) where
  registered : Slot → Bool
  callInfo : Slot → Option Callable
  /-- `as_log_set_callback` was called. -/
  logCallback : Bool
  inRequest : Bool
  /-- The references that the program has. -/
  program : Callable → ℕ
  /-- The references that the module has taken, less those it has released. -/
  held : Callable → ℤ
  frames : List (Frame Callable)
  calls : List (Call Callable)

/-- The C client logs from threads of its own, at any time. -/
inductive Event (Callable : Type) where
  | requestStart
  | requestEnd
  | acquire (function : Callable)
  | release (function : Callable)
  | set (slot : Slot) (function : Callable)
  /-- The innermost setter goes on after the release. -/
  | finish
  /-- A value is converted by the function in the slot, or a line is logged. -/
  | call (slot : Slot)

namespace State

def stored (s : State Callable) (slot : Slot) : Option Callable :=
  if s.registered slot then s.callInfo slot else none

/-- The slots that a setter has released and not filled again. -/
def replaced (s : State Callable) : List Slot := s.frames.map Frame.slot

/-- PHP code runs, not a setter. -/
def running (s : State Callable) : Bool :=
  s.frames.head?.all Frame.destructing

variable [DecidableEq Callable]

def alive (s : State Callable) (function : Callable) : Bool :=
  decide (0 < s.program function + s.held function)

/-- `zval_dtor` of the function name. -/
def drop (s : State Callable) (function : Callable) : State Callable :=
  { s with held := Function.update s.held function (s.held function - 1) }

def dropStored (s : State Callable) (slot : Slot) : State Callable :=
  match s.stored slot with
  | some function => s.drop function
  | none => s

/-- `PHP_RINIT_FUNCTION(aerospike)`. -/
def requestStart (s : State Callable) : State Callable :=
  { s with
    registered := fun _ => false
    callInfo := fun _ => none
    inRequest := true }

/-- `PHP_RSHUTDOWN_FUNCTION(aerospike)`, which leaves the flags as they are.  The
setters that run are not gone on with. -/
def requestEnd (s : State Callable) : State Callable :=
  { ((s.dropStored .serializer).dropStored .deserializer).dropStored .logHandler
    with inRequest := false, frames := [] }

/-- The setters up to the release. -/
def beginSet (s : State Callable) (slot : Slot) (function : Callable) :
    State Callable :=
  let dropped := s.dropStored slot
  let destructing := (s.stored slot).any fun old => !dropped.alive old
  { dropped with frames := ⟨slot, function, destructing⟩ :: s.frames }

/-- The setters after the release.  Nothing can happen between their steps,
which `setDeserializer` takes in another order. -/
def finishSet (s : State Callable) (frame : Frame Callable)
    (frames : List (Frame Callable)) : State Callable :=
  { s with
    registered := Function.update s.registered frame.slot true
    callInfo := Function.update s.callInfo frame.slot (some frame.function)
    logCallback := s.logCallback || decide (frame.slot = .logHandler)
    held := Function.update s.held frame.function (s.held frame.function + 1)
    frames }

/-- `serialize_with_user_function`, `unserialize_with_user_function` and
`aerospike_helper_log_callback`, which call nothing when the flag is not set. -/
def invoke (s : State Callable) (slot : Slot) : State Callable :=
  match s.stored slot with
  | some function =>
      { s with calls := s.calls ++ [⟨slot, function, s.alive function⟩] }
  | none => s

/-- The caller of a setter that has not returned has a reference that nothing
else can release. -/
def mayRelease (s : State Callable) (function : Callable) : Prop :=
  (s.frames.filter fun frame => frame.function = function).length <
    s.program function

instance (s : State Callable) (function : Callable) :
    Decidable (s.mayRelease function) :=
  inferInstanceAs (Decidable (_ < _))

section

variable (zts : Bool)

/-- A setter gets a function that its caller holds; in a build with `ZTS` there
are no log handlers. -/
def maySet (s : State Callable) (slot : Slot) (function : Callable) : Prop :=
  s.inRequest = true ∧ s.running = true ∧ 0 < s.program function ∧
    (slot = .logHandler → zts = false)

instance (s : State Callable) (slot : Slot) (function : Callable) :
    Decidable (s.maySet zts slot function) :=
  inferInstanceAs (Decidable (_ ∧ _))

def mayCall (s : State Callable) (slot : Slot) : Prop :=
  (slot = .logHandler → s.logCallback = true ∧ zts = false) ∧
    (slot ≠ .logHandler → s.inRequest = true ∧ s.running = true)

instance (s : State Callable) (slot : Slot) : Decidable (s.mayCall zts slot) :=
  inferInstanceAs (Decidable ((_ → _) ∧ (_ → _)))

/-- What cannot happen in the state changes nothing. -/
def step (s : State Callable) : Event Callable → State Callable
  | .requestStart => if s.inRequest = false then s.requestStart else s
  -- also out of a destructor that a setter runs: `exit` or a fatal error
  | .requestEnd =>
      if s.inRequest = true ∧ s.running = true then s.requestEnd else s
  | .acquire function =>
      if s.inRequest = true ∧ s.running = true then
        { s with
          program := Function.update s.program function (s.program function + 1) }
      else s
  | .release function =>
      if s.running = true ∧ s.mayRelease function then
        { s with
          program := Function.update s.program function (s.program function - 1) }
      else s
  | .set slot function =>
      if s.maySet zts slot function then s.beginSet slot function else s
  | .finish =>
      match s.frames with
      | [] => s
      | frame :: frames => s.finishSet frame frames
  | .call slot => if s.mayCall zts slot then s.invoke slot else s

end

end State

/-- The module from `PHP_GINIT_FUNCTION(aerospike)` on. -/
def callbackMachine (Callable : Type) [DecidableEq Callable] (zts : Bool) :
    Machine (State Callable) (Event Callable) where
  init :=
    { registered := fun _ => false, callInfo := fun _ => none, logCallback := false
      inRequest := false, program := fun _ => 0, held := fun _ => 0, frames := []
      calls := [] }
  step := State.step zts

/-! ## The references of the module -/

namespace State

variable {s : State Callable}

/-- What the module should have references to: the functions that it has
stored in this request, but for those that are being replaced. -/
def holding (s : State Callable) (slot : Slot) : Option Callable :=
  if s.inRequest = true ∧ slot ∉ s.replaced then s.stored slot else none

/-- No request ends inside a setter, the destructors that a setter runs leave its
slot alone, and no log handler is called between requests or while a setter
releases it. -/
def Undisturbed (s : State Callable) : Event Callable → Prop
  | .requestEnd => s.frames = []
  | .set slot _ => slot ∉ s.replaced
  | .call slot =>
      s.stored slot = none ∨
        ((slot = .logHandler → s.inRequest = true) ∧ slot ∉ s.replaced)
  | _ => True

theorem holding_of_open (hin : s.inRequest = true) {slot : Slot}
    (hslot : slot ∉ s.replaced) : s.holding slot = s.stored slot :=
  if_pos ⟨hin, hslot⟩

theorem holding_between (hout : s.inRequest = false) :
    s.holding = fun _ => none := by
  funext slot
  simp [holding, hout]

instance (s : State Callable) : ∀ event, Decidable (s.Undisturbed event)
  | .requestEnd => inferInstanceAs (Decidable (s.frames = []))
  | .set _ _ => inferInstanceAs (Decidable (_ ∉ _))
  | .call slot =>
      inferInstanceAs (Decidable (s.stored slot = none ∨ ((_ → _) ∧ _ ∉ _)))
  | .requestStart | .acquire _ | .release _ | .finish => isTrue trivial

variable [DecidableEq Callable]

/-- The references of the module are to the functions in the slots. -/
structure Counted (s : State Callable) : Prop where
  held : ∀ function, s.held function = references s.holding function
  distinct : s.replaced.Nodup
  between : s.inRequest = false → s.frames = []
  alive : ∀ call ∈ s.calls, call.alive = true

/-! ### Single steps -/

@[simp] theorem dropStored_stored (s : State Callable) (slot : Slot) :
    (s.dropStored slot).stored = s.stored := by
  unfold dropStored
  cases s.stored slot <;> rfl

@[simp] theorem dropStored_calls (s : State Callable) (slot : Slot) :
    (s.dropStored slot).calls = s.calls := by
  unfold dropStored
  cases s.stored slot <;> rfl

@[simp] theorem dropStored_inRequest (s : State Callable) (slot : Slot) :
    (s.dropStored slot).inRequest = s.inRequest := by
  unfold dropStored
  cases s.stored slot <;> rfl

theorem held_dropStored (s : State Callable) (slot : Slot) (function : Callable) :
    (s.dropStored slot).held function =
      s.held function - if s.stored slot = some function then 1 else 0 := by
  unfold dropStored drop
  cases hstored : s.stored slot with
  | none => simp
  | some old =>
      by_cases heq : function = old
      · subst heq
        simp
      · have hne : old ≠ function := fun h => heq h.symm
        simp [Function.update_of_ne heq, hne]

theorem Counted.held_between (hcounted : s.Counted) (hout : s.inRequest = false)
    (function : Callable) : s.held function = 0 := by
  rw [hcounted.held, holding_between hout, references_none]

theorem Counted.requestStart (hcounted : s.Counted) (hout : s.inRequest = false) :
    s.requestStart.Counted := by
  have hempty : s.requestStart.holding = fun _ => none := by
    funext slot
    simp [holding, State.requestStart, stored]
  constructor
  · intro function
    rw [hempty, references_none]
    exact hcounted.held_between hout function
  · exact hcounted.distinct
  · simp [State.requestStart]
  · exact hcounted.alive

/-- The end of a request releases what is in the slots. -/
theorem held_requestEnd (s : State Callable) (function : Callable) :
    s.requestEnd.held function =
      s.held function - references s.stored function := by
  have hreferences : references s.stored function =
      (if s.stored .serializer = some function then 1 else 0) +
        ((if s.stored .deserializer = some function then 1 else 0) +
          (if s.stored .logHandler = some function then 1 else 0)) := by
    have huniv : (Finset.univ : Finset Slot) =
        {.serializer, .deserializer, .logHandler} := rfl
    rw [references, huniv, Finset.sum_insert (by decide),
      Finset.sum_insert (by decide), Finset.sum_singleton]
  show (((s.dropStored .serializer).dropStored .deserializer).dropStored
    .logHandler).held function = _
  simp only [held_dropStored, dropStored_stored, hreferences]
  ring

theorem Counted.requestEnd (hcounted : s.Counted) (hin : s.inRequest = true)
    (hframes : s.frames = []) : s.requestEnd.Counted := by
  have hstored : s.holding = s.stored := by
    funext slot
    apply holding_of_open hin
    simp [replaced, hframes]
  have hout : s.requestEnd.inRequest = false := rfl
  have hleft : s.requestEnd.frames = [] := rfl
  constructor
  · intro function
    rw [held_requestEnd, hcounted.held, hstored, holding_between hout,
      references_none, sub_self]
  · simp [replaced, hleft]
  · exact fun _ => hleft
  · have hcalls : s.requestEnd.calls = s.calls := by simp [State.requestEnd]
    rw [hcalls]
    exact hcounted.alive

theorem Counted.beginSet (hcounted : s.Counted) (hin : s.inRequest = true)
    {slot : Slot} (hslot : slot ∉ s.replaced) (function : Callable) :
    (s.beginSet slot function).Counted := by
  have hreplaced : (s.beginSet slot function).replaced = slot :: s.replaced := rfl
  have hstays : (s.beginSet slot function).inRequest = true :=
    (dropStored_inRequest s slot).trans hin
  have hholding : (s.beginSet slot function).holding =
      Function.update s.holding slot none := by
    funext other
    have hthere : (s.beginSet slot function).stored other = s.stored other :=
      congrFun (dropStored_stored s slot) other
    unfold holding
    rw [hreplaced, hthere, hstays, hin]
    by_cases heq : other = slot
    · subst heq
      simp
    · simp [heq]
  constructor
  · intro other
    have hheld := held_dropStored s slot other
    rw [hholding, references_update, holding_of_open hin hslot,
      ← hcounted.held other]
    rw [show (s.beginSet slot function).held other = _ from hheld]
    simp
  · rw [hreplaced]
    exact List.nodup_cons.mpr ⟨hslot, hcounted.distinct⟩
  · intro hout
    rw [hstays] at hout
    cases hout
  · show ∀ call ∈ (s.dropStored slot).calls, _
    rw [dropStored_calls]
    exact hcounted.alive

theorem Counted.finishSet (hcounted : s.Counted) {frame : Frame Callable}
    {frames : List (Frame Callable)} (hframes : s.frames = frame :: frames) :
    (s.finishSet frame frames).Counted := by
  have hin : s.inRequest = true := by
    by_contra hout
    have hnone := hcounted.between (by simpa using hout)
    rw [hnone] at hframes
    cases hframes
  have hreplaced : s.replaced = frame.slot :: (s.finishSet frame frames).replaced := by
    simp [replaced, hframes, State.finishSet]
  have hdistinct := hcounted.distinct
  rw [hreplaced, List.nodup_cons] at hdistinct
  obtain ⟨hfilled, hrest⟩ := hdistinct
  have hempty : s.holding frame.slot = none := by
    unfold holding
    rw [hreplaced]
    simp
  have hholding : (s.finishSet frame frames).holding =
      Function.update s.holding frame.slot (some frame.function) := by
    funext other
    have hstays : (s.finishSet frame frames).inRequest = true := hin
    unfold holding
    rw [hreplaced, hstays, hin]
    by_cases heq : other = frame.slot
    · subst heq
      rw [if_pos ⟨rfl, hfilled⟩]
      simp [stored, State.finishSet]
    · simp [heq, stored, State.finishSet]
  constructor
  · intro other
    rw [hholding, references_update, hempty, ← hcounted.held other]
    by_cases heq : other = frame.function
    · subst heq
      simp [State.finishSet]
    · have hne : frame.function ≠ other := fun h => heq h.symm
      simp [State.finishSet, Function.update_of_ne heq, hne]
  · exact hrest
  · intro hout
    rw [show (s.finishSet frame frames).inRequest = true from hin] at hout
    cases hout
  · exact hcounted.alive

/-- What a call does where the module holds just what it should: only a
reference keeps the function alive. -/
theorem Counted.calls_invoke (hcounted : s.Counted) {slot : Slot}
    {function : Callable} (hstored : s.stored slot = some function) :
    (s.invoke slot).calls = s.calls ++ [⟨slot, function,
      decide (0 < s.program function + references s.holding function)⟩] := by
  have halive : s.alive function =
      decide (0 < s.program function + references s.holding function) := by
    rw [State.alive, hcounted.held]
  unfold State.invoke
  rw [hstored, ← halive]

theorem Counted.invoke (hcounted : s.Counted) (hin : s.inRequest = true)
    {slot : Slot} (hslot : slot ∉ s.replaced) : (s.invoke slot).Counted := by
  cases hstored : s.stored slot with
  | none =>
      unfold State.invoke
      rw [hstored]
      exact hcounted
  | some function =>
      have hpos : 0 < references s.holding function := by
        apply references_pos
        rw [holding_of_open hin hslot, hstored]
      have hcalls := hcounted.calls_invoke hstored
      unfold State.invoke at hcalls ⊢
      rw [hstored] at hcalls ⊢
      refine ⟨hcounted.held, hcounted.distinct, hcounted.between, ?_⟩
      intro call hmem
      rw [hcalls] at hmem
      rcases List.mem_append.mp hmem with hbefore | hnow
      · exact hcounted.alive call hbefore
      · obtain rfl := List.mem_singleton.mp hnow
        apply decide_eq_true
        omega

theorem counted_step {zts : Bool} (hcounted : s.Counted) {event : Event Callable}
    (hundisturbed : s.Undisturbed event) : (s.step zts event).Counted := by
  cases event with
  | requestStart =>
      simp only [step]
      split
      · next hout => exact hcounted.requestStart hout
      · exact hcounted
  | requestEnd =>
      simp only [step]
      split
      · next hend => exact hcounted.requestEnd hend.1 hundisturbed
      · exact hcounted
  | acquire function | release function =>
      all_goals
        simp only [step]
        split
        · exact ⟨hcounted.held, hcounted.distinct, hcounted.between,
            hcounted.alive⟩
        · exact hcounted
  | set slot function =>
      simp only [step]
      split
      · next hset => exact hcounted.beginSet hset.1 hundisturbed function
      · exact hcounted
  | finish =>
      simp only [step]
      cases hframes : s.frames with
      | nil => exact hcounted
      | cons frame frames => exact hcounted.finishSet hframes
  | call slot =>
      simp only [step]
      split
      · next hcall =>
          rcases hundisturbed with hnone | ⟨hlogged, hslot⟩
          · unfold State.invoke
            rw [hnone]
            exact hcounted
          · have hin : s.inRequest = true := by
              by_cases hlog : slot = .logHandler
              · exact hlogged hlog
              · exact (hcall.2 hlog).1
            exact hcounted.invoke hin hslot
      · exact hcounted

/-- A line that is logged between requests still calls the log handler of the
last one, to which the module has no reference any more. -/
theorem Counted.invoke_between (hcounted : s.Counted) (hout : s.inRequest = false)
    {function : Callable} (hstored : s.stored .logHandler = some function) :
    (s.invoke .logHandler).calls =
      s.calls ++ [⟨.logHandler, function, decide (0 < s.program function)⟩] := by
  rw [hcounted.calls_invoke hstored, holding_between hout, references_none, add_zero]
  simp only [Int.natCast_pos]

/-- A function that a setter is releasing counts for nothing, and is still in
its slot when the request ends. -/
theorem Counted.requestEnd_again (hcounted : s.Counted) {slot : Slot}
    (hslot : slot ∈ s.replaced) {old : Callable} (hstored : s.stored slot = some old) :
    s.requestEnd.held old < 0 := by
  have hempty : s.holding slot = none := if_neg fun hopen => hopen.2 hslot
  have hfill : references (Function.update s.holding slot (some old)) old ≤
      references s.stored old := by
    apply references_le
    intro other hholds
    by_cases heq : other = slot
    · subst heq
      exact hstored
    · rw [Function.update_of_ne heq] at hholds
      unfold holding at hholds
      split at hholds
      · exact hholds
      · cases hholds
  rw [references_update, hempty, if_neg (by simp), if_pos rfl] at hfill
  rw [held_requestEnd, hcounted.held]
  omega

/-- A destructor that sets the slot again which a setter has just released
makes the module release the function a second time. -/
theorem Counted.beginSet_again (hcounted : s.Counted) {slot : Slot}
    (hslot : slot ∈ s.replaced) {old : Callable} (hstored : s.stored slot = some old)
    (function : Callable) :
    (s.beginSet slot function).held old =
      references (s.beginSet slot function).holding old - 1 := by
  have hholding : (s.beginSet slot function).holding = s.holding := by
    funext other
    have hreplaced : other ∈ (s.beginSet slot function).replaced ↔
        other ∈ s.replaced := by
      have hcons : (s.beginSet slot function).replaced = slot :: s.replaced := rfl
      rw [hcons, List.mem_cons]
      constructor
      · rintro (rfl | hmem)
        · exact hslot
        · exact hmem
      · exact Or.inr
    have hthere : (s.beginSet slot function).stored other = s.stored other :=
      congrFun (dropStored_stored s slot) other
    have hstays : (s.beginSet slot function).inRequest = s.inRequest :=
      dropStored_inRequest s slot
    unfold holding
    rw [hthere, hstays]
    simp only [hreplaced]
  have hheld := held_dropStored s slot old
  rw [hstored, if_pos rfl] at hheld
  rw [hholding, ← hcounted.held old]
  exact hheld

end State

/-! ## Whole runs -/

variable [DecidableEq Callable]

theorem counted_init (zts : Bool) : (callbackMachine Callable zts).init.Counted := by
  constructor
  · intro function
    rw [State.holding_between rfl, references_none]
    rfl
  · exact List.nodup_nil
  · exact fun _ => rfl
  · simp [callbackMachine]

/-- Over any number of requests: unless a line is logged between two of them, or
a setter is disturbed while it releases a function, the module has one reference
to each function that it has stored, none is left over from a request that has
ended, and every function is alive when it is called.  A line that is logged
between requests calls the log handler of the last one, which only the program
can have kept alive.  A function that a setter is releasing is still called, by a
line that is logged or by a destructor, and is released once more if the slot is
set again or the request ends there. -/
theorem callbacks_counted (zts : Bool) {events : List (Event Callable)}
    (hundisturbed : (callbackMachine Callable zts).EveryStep State.Undisturbed
      (callbackMachine Callable zts).init events) :
    let s := (callbackMachine Callable zts).run events
    (∀ function, s.held function = references s.holding function) ∧
      (∀ call ∈ s.calls, call.alive = true) ∧
      (s.inRequest = false → (∀ function, s.held function = 0) ∧
        ∀ function, s.stored .logHandler = some function →
          (s.invoke .logHandler).calls = s.calls ++
            [⟨.logHandler, function, decide (0 < s.program function)⟩]) ∧
      ∀ slot ∈ s.replaced, ∀ old, s.stored slot = some old →
        (s.invoke slot).calls = s.calls ++ [⟨slot, old,
          decide (0 < s.program old + references s.holding old)⟩] ∧
        (∀ function, (s.beginSet slot function).held old =
          references (s.beginSet slot function).holding old - 1) ∧
        s.requestEnd.held old < 0 := by
  intro s
  have hcounted : s.Counted :=
    @Machine.invariant_everyStep _ _ (callbackMachine Callable zts) State.Counted
      State.Undisturbed (fun _ _ hbefore => State.counted_step hbefore) _
      (counted_init zts) _ hundisturbed
  refine ⟨hcounted.held, hcounted.alive, fun hout => ⟨?_, ?_⟩, ?_⟩
  · exact hcounted.held_between hout
  · intro function hstored
    exact hcounted.invoke_between hout hstored
  · intro slot hslot old hstored
    refine ⟨hcounted.calls_invoke hstored, ?_, ?_⟩
    · exact hcounted.beginSet_again hslot hstored
    · exact hcounted.requestEnd_again hslot hstored

end

/-- Two requests, in which functions are set, replaced, released by the program
and called; the second one takes over the log handler of neither. -/
def servedRequests : List (Event (Fin 3)) :=
  [.requestStart, .acquire 0, .set .serializer 0, .finish, .set .logHandler 0,
    .call .logHandler, .finish, .release 0, .acquire 1, .set .serializer 1, .finish,
    .call .serializer, .call .logHandler, .requestEnd, .release 1, .requestStart,
    .call .serializer, .call .logHandler, .acquire 2, .set .deserializer 2,
    .finish, .call .deserializer, .requestEnd]

theorem callbacks_counted_servedRequests :
    let s := (callbackMachine (Fin 3) false).run servedRequests
    (∀ function, s.held function = references s.holding function) ∧
      (∀ call ∈ s.calls, call.alive = true) ∧
      (s.inRequest = false → (∀ function, s.held function = 0) ∧
        ∀ function, s.stored .logHandler = some function →
          (s.invoke .logHandler).calls = s.calls ++
            [⟨.logHandler, function, decide (0 < s.program function)⟩]) ∧
      ∀ slot ∈ s.replaced, ∀ old, s.stored slot = some old →
        (s.invoke slot).calls = s.calls ++ [⟨slot, old,
          decide (0 < s.program old + references s.holding old)⟩] ∧
        (∀ function, (s.beginSet slot function).held old =
          references (s.beginSet slot function).holding old - 1) ∧
        s.requestEnd.held old < 0 :=
  callbacks_counted false (by decide)

/-- The log handler of a request that has ended is gone when it is called. -/
example : ((callbackMachine (Fin 1) false).run [.requestStart, .acquire 0,
    .set .logHandler 0, .finish, .requestEnd, .release 0,
    .call .logHandler]).calls = [⟨.logHandler, 0, false⟩] := by
  decide

/-- A destructor ends the request while its serializer is replaced. -/
example : ((callbackMachine (Fin 2) false).run [.requestStart, .acquire 0,
    .set .serializer 0, .finish, .release 0, .acquire 1, .set .serializer 1,
    .requestEnd]).held 0 = -1 := by
  decide

end Callbacks

end AerospikePhp
