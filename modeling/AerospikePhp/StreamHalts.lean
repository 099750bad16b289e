import AerospikePhp.UserCallbacks
import Mathlib.Tactic

/-!
# Halting a stream

A failed invocation leaves an error behind, and with an error in place no
record converts any more, so a failure is final.  An explicit false leaves
nothing behind: it stops the thread that gets it, and every other thread goes
on to call the PHP function.
-/

namespace AerospikePhp

open Transition

/-- The argument with which the PHP function is called on a record. -/
def StreamRecord.argument (rt : Runtime) (record : StreamRecord) : Option Zval :=
  recordZval rt record.record record.key true

namespace Foreach

variable {Thread : Type}

/-! ## What halting means -/

/-- The call ended the scan or query: it failed, or the PHP function answered
an explicit false. -/
def Call.Halts (call : Call Thread) : Prop :=
  match call.invocation with
  | some (_, .returned retval) => retval = .bool false
  | _ => True

def Halted (calls : List (Call Thread)) : Prop := ∃ call ∈ calls, call.Halts

/-- Up to the halt every call invokes the PHP function on its own record, and
after it no call does. -/
def HaltsFinally (rt : Runtime) (calls : List (Call Thread)) : Prop :=
  ∀ before call after, calls = before ++ call :: after →
    (¬ Halted before →
      call.invocation.map Prod.fst = call.record.argument rt) ∧
    (Halted before → call.invocation = none)

/-- The records for which a thread is in the wrapper. -/
def Place.inHand : Place → List StreamRecord
  | .waiting record | .holding record => [record]
  | _ => []

def Place.Locked : Place → Prop
  | .holding _ | .leaving _ => True
  | _ => False

/-- The record that the thread hands over next, or has in hand. -/
def Reader.next : Reader → Option StreamRecord
  | ⟨.waiting record, _⟩ | ⟨.holding record, _⟩ => some record
  | ⟨.reading, rest⟩ | ⟨.leaving true, rest⟩ => rest.head?
  | ⟨.leaving false, _⟩ | ⟨.stopped, _⟩ => none

theorem halted_append {calls : List (Call Thread)} {call : Call Thread} :
    Halted (calls ++ [call]) ↔ Halted calls ∨ call.Halts := by
  simp [Halted, or_and_right, exists_or]

theorem HaltsFinally.append {rt : Runtime} {calls : List (Call Thread)}
    (h : HaltsFinally rt calls) {call : Call Thread}
    (hbefore : ¬ Halted calls →
      call.invocation.map Prod.fst = call.record.argument rt)
    (hafter : Halted calls → call.invocation = none) :
    HaltsFinally rt (calls ++ [call]) := by
  intro before middle after hcalls
  rcases List.eq_nil_or_concat after with rfl | ⟨front, last, rfl⟩
  · obtain ⟨rfl, hcall⟩ := List.append_inj' hcalls rfl
    obtain rfl : call = middle := by simpa using hcall
    exact ⟨hbefore, hafter⟩
  · rw [List.concat_eq_append, ← List.cons_append, ← List.append_assoc]
      at hcalls
    exact h before middle front (List.append_inj' hcalls rfl).1

variable [DecidableEq Thread]

/-- The records of the calls that a thread made. -/
def State.recordsOf (s : State Thread) (thread : Thread) : List StreamRecord :=
  (s.calls.filter fun call => decide (call.thread = thread)).map Call.record

/-- The records of every stream come to the wrapper in order and each of them
once, halting is final, and no thread keeps the mutex. -/
structure Right (rt : Runtime) (callback : List Invocation → Zval → CallResult)
    (streams : Thread → List StreamRecord) (s : State Thread) : Prop where
  delivered : ∀ thread, s.recordsOf thread ++ (s.readers thread).place.inHand ++
    (s.readers thread).rest = streams thread
  final : HaltsFinally rt s.calls
  locked : ∀ thread,
    s.cbMutex = some thread ↔ (s.readers thread).place.Locked
  released : ∀ thread, s.cbMutex = some thread →
    ((s.step rt callback (.execute thread)).step rt callback
      (.unlock thread)).cbMutex = none

/-- The PHP function is called and answers an explicit false. -/
def AnswersFalse (rt : Runtime) (callback : List Invocation → Zval → CallResult)
    (s : State Thread) (thread : Thread) : Prop :=
  ∃ record rest z, s.readers thread = ⟨.holding record, rest⟩ ∧
    s.err.code = .ok ∧ record.argument rt = some z ∧
    callback s.invocations z = .returned (.bool false)

/-- When the PHP function answers an explicit false, no other thread has a
record to hand over that it could be called on. -/
def LastRecord (rt : Runtime) (callback : List Invocation → Zval → CallResult)
    (s : State Thread) : Event Thread → Prop
  | .execute thread => AnswersFalse rt callback s thread →
      ∀ other record, other ≠ thread → (s.readers other).next = some record →
        record.argument rt = none
  | _ => True

/-! ## One call of the wrapper -/

section

variable {rt : Runtime} {callback : Zval → CallResult} {record : StreamRecord}
variable {err : AsError}

theorem converted_of_argument {z : Zval} (herr : err.code = .ok)
    (hz : record.argument rt = some z) :
    asRecordToZval rt record.record record.key true err = ⟨.ok, some z, err⟩ := by
  have hdecodes :=
    asRecordToZval_decodes rt record.record record.key true herr
  rw [← StreamRecord.argument, hz] at hdecodes
  exact hdecodes

theorem not_converted (hnot : err.code ≠ .ok ∨ record.argument rt = none) :
    (asRecordToZval rt record.record record.key true err).status ≠ .ok ∧
      (asRecordToZval rt record.record record.key true err).err.code ≠ .ok := by
  by_cases herr : err.code = .ok
  · have hnone : record.argument rt = none :=
      hnot.resolve_left (not_not_intro herr)
    have hdecodes :=
      asRecordToZval_decodes rt record.record record.key true herr
    rw [← StreamRecord.argument, hnone] at hdecodes
    exact ⟨hdecodes.1, hdecodes.2.1⟩
  · exact asRecordToZval_sticky record.record record.key true herr

/-- A record that does not convert leaves an error and calls nothing. -/
theorem userCallbackWrapper_of_not
    (hnot : err.code ≠ .ok ∨ record.argument rt = none) :
    ∃ err', err'.code ≠ .ok ∧
      userCallbackWrapper rt callback record err = ⟨false, err', none⟩ := by
  obtain ⟨hstatus, hcode⟩ := not_converted hnot
  have hexecuted : executeUserCallback rt callback record err =
      ⟨(asRecordToZval rt record.record record.key true err).err.code,
        (asRecordToZval rt record.record record.key true err).err, .null,
        none⟩ := if_pos hstatus
  refine ⟨err.update .errParam "Callback raised an error", by simp, ?_⟩
  unfold userCallbackWrapper
  rw [hexecuted]
  exact if_pos hcode

theorem userCallbackWrapper_of_failed {z : Zval} (herr : err.code = .ok)
    (hz : record.argument rt = some z) (hfailed : callback z = .failed) :
    ∃ err', err'.code ≠ .ok ∧ userCallbackWrapper rt callback record err =
      ⟨false, err', some (z, .failed)⟩ := by
  have hexecuted : executeUserCallback rt callback record err =
      ⟨.errClient, { err with code := .errClient }, .null,
        some (z, .failed)⟩ := by
    simp [executeUserCallback, converted_of_argument herr hz, hfailed]
  refine ⟨err.update .errParam "Callback raised an error", by simp, ?_⟩
  unfold userCallbackWrapper
  rw [hexecuted]
  exact if_pos (by simp)

theorem userCallbackWrapper_of_returned {z retval : Zval} (herr : err.code = .ok)
    (hz : record.argument rt = some z)
    (hreturned : callback z = .returned retval) :
    ∃ goOn, (goOn = true ↔ retval ≠ .bool false) ∧
      userCallbackWrapper rt callback record err =
        ⟨goOn, err, some (z, .returned retval)⟩ := by
  have hexecuted : executeUserCallback rt callback record err =
      ⟨.ok, err, retval, some (z, .returned retval)⟩ := by
    simp [executeUserCallback, converted_of_argument herr hz, hreturned]
  unfold userCallbackWrapper
  rw [hexecuted]
  by_cases hfalse : retval = .bool false
  · subst hfalse
    exact ⟨false, by simp, rfl⟩
  · refine ⟨true, by simpa using hfalse, ?_⟩
    simp only [ne_eq, not_true_eq_false, if_false]

end

/-! ## The invariant -/

section

variable {rt : Runtime} {callback : List Invocation → Zval → CallResult}
variable {streams : Thread → List StreamRecord} {s : State Thread}

/-- What holds in every run in which the explicit false comes last. -/
structure Inv (rt : Runtime) (streams : Thread → List StreamRecord)
    (s : State Thread) : Prop where
  delivered : ∀ thread, s.recordsOf thread ++ (s.readers thread).place.inHand ++
    (s.readers thread).rest = streams thread
  final : HaltsFinally rt s.calls
  locked : ∀ thread,
    s.cbMutex = some thread ↔ (s.readers thread).place.Locked
  clean : ¬ Halted s.calls → s.err.code = .ok
  /-- After the halt no record is left on which the PHP function could be
  called. -/
  halted : Halted s.calls → s.err.code ≠ .ok ∨
    ∀ thread record, (s.readers thread).next = some record →
      record.argument rt = none

theorem Inv.move (h : Inv rt streams s) {thread : Thread} {reader : Reader}
    {mutex : Option Thread}
    (hstream : reader.place.inHand ++ reader.rest =
      (s.readers thread).place.inHand ++ (s.readers thread).rest)
    (hnext : reader.next = (s.readers thread).next)
    (hlocked : ∀ other, mutex = some other ↔
      (Function.update s.readers thread reader other).place.Locked) :
    Inv rt streams { s.setReader thread reader with cbMutex := mutex } where
  delivered other := by
    by_cases hother : other = thread
    · subst hother
      have hdelivered := h.delivered other
      rw [List.append_assoc] at hdelivered ⊢
      simpa [State.setReader, State.recordsOf, hstream] using hdelivered
    · simpa [State.setReader, State.recordsOf, hother] using h.delivered other
  final := h.final
  locked := hlocked
  clean := h.clean
  halted hhalted := by
    refine (h.halted hhalted).imp_right fun hnone other record hrecord => ?_
    by_cases hother : other = thread
    · subst hother
      refine hnone other record ?_
      simpa [State.setReader, hnext] using hrecord
    · refine hnone other record ?_
      simpa [State.setReader, hother] using hrecord

theorem locked_update {thread : Thread} {reader : Reader}
    (hsame : reader.place.Locked ↔ (s.readers thread).place.Locked)
    (other : Thread) :
    (Function.update s.readers thread reader other).place.Locked ↔
      (s.readers other).place.Locked := by
  by_cases hother : other = thread
  · subst hother
    rw [Function.update_self]
    exact hsame
  · rw [Function.update_of_ne hother]

theorem Inv.deliver (h : Inv rt streams s) (thread : Thread) :
    Inv rt streams (s.step rt callback (.deliver thread)) := by
  rw [State.step]
  split
  · next hreader =>
      refine h.move (by simp [hreader, Place.inHand])
        (by simp [hreader, Reader.next]) fun other => ?_
      rw [locked_update (by simp [hreader, Place.Locked])]
      exact h.locked other
  · next record rest hreader =>
      refine h.move (by simp [hreader, Place.inHand])
        (by simp [hreader, Reader.next]) fun other => ?_
      rw [locked_update (by simp [hreader, Place.Locked])]
      exact h.locked other
  · exact h

theorem Inv.lock (h : Inv rt streams s) (thread : Thread) :
    Inv rt streams (s.step rt callback (.lock thread)) := by
  rw [State.step]
  split
  · next record rest hmutex hreader =>
      refine h.move (by simp [hreader, Place.inHand])
        (by simp [hreader, Reader.next]) fun other => ?_
      by_cases hother : other = thread
      · simp [hother, Place.Locked]
      · have hfree : ¬ (s.readers other).place.Locked := by
          rw [← h.locked other, hmutex]
          simp
        simpa [Function.update_of_ne hother, hfree] using Ne.symm hother
  · exact h

theorem Inv.unlock (h : Inv rt streams s) (thread : Thread) :
    Inv rt streams (s.step rt callback (.unlock thread)) := by
  rw [State.step]
  split
  · next goOn rest hreader =>
      have hmutex : s.cbMutex = some thread :=
        (h.locked thread).mpr (by simp [hreader, Place.Locked])
      refine h.move (by cases goOn <;> simp [hreader, Place.inHand])
        (by cases goOn <;> simp [hreader, Reader.next]) fun other => ?_
      by_cases hother : other = thread
      · cases goOn <;> simp [hother, Place.Locked]
      · have hfree : ¬ (s.readers other).place.Locked := by
          rw [← h.locked other, hmutex]
          simpa using Ne.symm hother
        simpa [Function.update_of_ne hother] using hfree
  · exact h

/-! ## A call with the mutex held -/

/-- The state after a call of the wrapper that ended so. -/
def State.called (s : State Thread) (thread : Thread) (record : StreamRecord)
    (rest : List StreamRecord) (wrapped : Wrapped) : State Thread :=
  { s.setReader thread ⟨.leaving wrapped.goOn, rest⟩ with
    err := wrapped.err
    calls := s.calls ++ [⟨thread, record, wrapped.invocation⟩] }

theorem recordsOf_called {thread other : Thread} {record : StreamRecord}
    {rest : List StreamRecord} {wrapped : Wrapped} :
    (s.called thread record rest wrapped).recordsOf other =
      if other = thread then s.recordsOf other ++ [record]
      else s.recordsOf other := by
  by_cases hother : other = thread
  · simp [State.recordsOf, State.called, hother]
  · simp [State.recordsOf, State.called, hother, Ne.symm hother]

theorem Inv.called (h : Inv rt streams s) {thread : Thread}
    {record : StreamRecord} {rest : List StreamRecord} {wrapped : Wrapped}
    (hreader : s.readers thread = ⟨.holding record, rest⟩)
    (hbefore : ¬ Halted s.calls →
      wrapped.invocation.map Prod.fst = record.argument rt)
    (hafter : Halted s.calls → wrapped.invocation = none)
    (hclean : ¬ Halted s.calls →
      ¬ (⟨thread, record, wrapped.invocation⟩ : Call Thread).Halts →
        wrapped.err.code = .ok)
    (hhalted : wrapped.err.code ≠ .ok ∨
      ¬ Halted (s.called thread record rest wrapped).calls ∨
        wrapped.goOn = false ∧
          ∀ other record', other ≠ thread →
            (s.readers other).next = some record' →
              record'.argument rt = none) :
    Inv rt streams (s.called thread record rest wrapped) where
  delivered other := by
    rw [recordsOf_called]
    have hdelivered := h.delivered other
    by_cases hother : other = thread
    · subst hother
      simpa [State.called, State.setReader, Place.inHand, hreader]
        using hdelivered
    · simpa [State.called, State.setReader, hother] using hdelivered
  final := h.final.append hbefore hafter
  locked other := by
    have hsame : (Place.leaving wrapped.goOn).Locked ↔
        (s.readers thread).place.Locked := by
      simp [hreader, Place.Locked]
    exact (h.locked other).trans (@locked_update _ _ s thread
      ⟨.leaving wrapped.goOn, rest⟩ hsame other).symm
  clean hnot := by
    have hboth := fun hor => hnot (halted_append.mpr hor)
    exact hclean (fun hold => hboth (.inl hold)) fun hnew => hboth (.inr hnew)
  halted hhalted' := by
    refine hhalted.imp_right fun hlast other record' hrecord => ?_
    rcases hlast with hnot | ⟨hgoOn, hlast⟩
    · exact absurd hhalted' hnot
    · by_cases hother : other = thread
      · subst hother
        simp [State.called, State.setReader, Reader.next, hgoOn] at hrecord
      · refine hlast other record' hother ?_
        simpa [State.called, State.setReader, hother] using hrecord

theorem Inv.execute (h : Inv rt streams s) {thread : Thread}
    {record : StreamRecord} {rest : List StreamRecord}
    (hreader : s.readers thread = ⟨.holding record, rest⟩)
    (hlast : LastRecord rt callback s (.execute thread)) :
    Inv rt streams (s.execute rt callback thread record) := by
  have hcalled : s.execute rt callback thread record =
      s.called thread record rest
        (userCallbackWrapper rt (callback s.invocations) record s.err) := by
    simp [State.execute, State.called, hreader]
  have hnext : (s.readers thread).next = some record := by
    simp [hreader, Reader.next]
  rw [hcalled]
  by_cases hnot : s.err.code ≠ .ok ∨ record.argument rt = none
  · -- nothing is called, and the error keeps it so
    obtain ⟨err', herr', hwrapped⟩ := @userCallbackWrapper_of_not rt
      (callback s.invocations) record s.err hnot
    rw [hwrapped]
    refine h.called hreader (fun hhalted => ?_) (fun _ => rfl)
      (fun _ hhalts => absurd trivial hhalts) (.inl herr')
    have hnone : record.argument rt = none :=
      hnot.resolve_left (not_not_intro (h.clean hhalted))
    rw [hnone]
    rfl
  · obtain ⟨herr, hsome⟩ := not_or.mp hnot
    have herr : s.err.code = .ok := not_not.mp herr
    obtain ⟨z, hz⟩ := Option.ne_none_iff_exists'.mp hsome
    have hgoing : ¬ Halted s.calls := by
      intro hhalted
      have hnone := (h.halted hhalted).resolve_left (not_not_intro herr)
        thread record hnext
      rw [hnone] at hz
      cases hz
    cases hresult : callback s.invocations z with
    | failed =>
        obtain ⟨err', herr', hwrapped⟩ :=
          userCallbackWrapper_of_failed herr hz hresult
        rw [hwrapped]
        exact h.called hreader (fun _ => hz.symm) (fun hhalted =>
          absurd hhalted hgoing) (fun _ hhalts => absurd trivial hhalts)
          (.inl herr')
    | returned retval =>
        obtain ⟨goOn, hgoOn, hwrapped⟩ :=
          userCallbackWrapper_of_returned herr hz hresult
        rw [hwrapped]
        refine h.called hreader (fun _ => hz.symm) (fun hhalted =>
          absurd hhalted hgoing) (fun _ _ => herr) (.inr ?_)
        by_cases hfalse : retval = .bool false
        · subst hfalse
          have hstop : goOn = false := by simpa using hgoOn
          exact .inr ⟨hstop, hlast ⟨record, rest, z, hreader, herr, hz, hresult⟩⟩
        · refine .inl fun hhalted => ?_
          rcases halted_append.mp hhalted with hhalted | hhalts
          · exact hgoing hhalted
          · exact hfalse hhalts

theorem Inv.step (h : Inv rt streams s) (event : Event Thread)
    (hlast : LastRecord rt callback s event) :
    Inv rt streams (s.step rt callback event) := by
  cases event with
  | deliver thread => exact h.deliver thread
  | lock thread => exact h.lock thread
  | unlock thread => exact h.unlock thread
  | execute thread =>
      rw [State.step]
      split
      · next record rest hreader => exact h.execute hreader hlast
      · exact h

/-! ## Whole runs -/

theorem inv_init : Inv rt streams (foreachMachine rt callback streams).init where
  delivered thread := by
    simp [foreachMachine, State.recordsOf, Place.inHand]
  final before call after hcalls := by simp [foreachMachine] at hcalls
  locked thread := by simp [foreachMachine, Place.Locked]
  clean _ := rfl
  halted hhalted := by simp [foreachMachine, Halted] at hhalted

/-- The mutex is free again once its holder has run to the end of the
wrapper. -/
theorem Inv.released (h : Inv rt streams s) {thread : Thread}
    (hmutex : s.cbMutex = some thread) :
    ((s.step rt callback (.execute thread)).step rt callback
      (.unlock thread)).cbMutex = none := by
  have hlocked := (h.locked thread).mp hmutex
  cases hreader : s.readers thread with
  | mk place rest =>
      cases place with
      | holding record =>
          simp [State.step, State.execute, State.setReader, hreader]
      | leaving goOn => simp [State.step, hreader]
      | reading | waiting record | stopped =>
          rw [hreader] at hlocked
          exact hlocked.elim

theorem Inv.right (h : Inv rt streams s) : Right rt callback streams s where
  delivered := h.delivered
  final := h.final
  locked := h.locked
  released _ hmutex := h.released hmutex

theorem inv_run {events : List (Event Thread)}
    (hlast : (foreachMachine rt callback streams).EveryStep
      (LastRecord rt callback) (foreachMachine rt callback streams).init events) :
    Inv rt streams ((foreachMachine rt callback streams).run events) :=
  Machine.invariant_everyStep (fun _ event h => h.step event) inv_init hlast

/-- The state after an explicit false has been returned to its thread. -/
theorem runFrom_answersFalse {thread : Thread}
    (hfalse : AnswersFalse rt callback s thread) :
    ∃ s', (foreachMachine rt callback streams).runFrom s
        [.execute thread, .unlock thread] = s' ∧
      s'.err.code = .ok ∧ s'.cbMutex = none ∧ Halted s'.calls ∧
      ∀ other, other ≠ thread → s'.readers other = s.readers other := by
  obtain ⟨record, rest, z, hreader, herr, hz, hresult⟩ := hfalse
  obtain ⟨goOn, -, hwrapped⟩ := userCallbackWrapper_of_returned herr hz hresult
  refine ⟨_, rfl, ?_⟩
  simp only [Machine.runFrom_cons, Machine.runFrom_nil, foreachMachine,
    State.step, hreader, State.execute, State.setReader, hwrapped,
    Function.update_self]
  refine ⟨herr, trivial, halted_append.mpr (.inr rfl), fun other hother => ?_⟩
  simp [hother]

/-- A thread with a record left calls the PHP function, when nothing keeps it
from doing so. -/
theorem runFrom_next {thread : Thread} {record : StreamRecord}
    (hmutex : s.cbMutex = none) (herr : s.err.code = .ok)
    (hfree : ¬ (s.readers thread).place.Locked)
    (hnext : (s.readers thread).next = some record)
    (hsome : record.argument rt ≠ none) :
    ∃ invocation, ((foreachMachine rt callback streams).runFrom s
        [.deliver thread, .lock thread, .execute thread]).calls =
      s.calls ++ [⟨thread, record, some invocation⟩] := by
  obtain ⟨z, hz⟩ := Option.ne_none_iff_exists'.mp hsome
  have hcalled : ∃ invocation, (userCallbackWrapper rt (callback s.invocations)
      record s.err).invocation = some invocation := by
    cases hresult : callback s.invocations z with
    | failed =>
        obtain ⟨err', -, hwrapped⟩ :=
          userCallbackWrapper_of_failed herr hz hresult
        exact ⟨_, by rw [hwrapped]⟩
    | returned retval =>
        obtain ⟨goOn, -, hwrapped⟩ :=
          userCallbackWrapper_of_returned herr hz hresult
        exact ⟨_, by rw [hwrapped]⟩
  obtain ⟨invocation, hinvocation⟩ := hcalled
  refine ⟨invocation, ?_⟩
  cases hreader : s.readers thread with
  | mk place rest =>
      rw [hreader] at hnext hfree
      cases place with
      | reading =>
          obtain ⟨rest, rfl⟩ := List.head?_eq_some_iff.mp hnext
          simp [foreachMachine, State.step, hreader, State.setReader, hmutex,
            State.execute, State.invocations] at hinvocation ⊢
          exact hinvocation
      | waiting waited =>
          obtain rfl : waited = record := by simpa [Reader.next] using hnext
          simp [foreachMachine, State.step, hreader, State.setReader, hmutex,
            State.execute, State.invocations] at hinvocation ⊢
          exact hinvocation
      | holding held => exact absurd trivial hfree
      | leaving goOn => exact absurd trivial hfree
      | stopped => simp [Reader.next] at hnext

/-- An explicit false while another thread has a record left: that thread goes
on to call the PHP function. -/
theorem exists_call_after (h : Inv rt streams s) {thread other : Thread}
    (hfalse : AnswersFalse rt callback s thread) (hother : other ≠ thread)
    {record : StreamRecord} (hnext : (s.readers other).next = some record)
    (hsome : record.argument rt ≠ none) :
    ∃ events, ¬ HaltsFinally rt
      ((foreachMachine rt callback streams).runFrom s events).calls := by
  obtain ⟨s', hrun, herr, hmutex, hhalted, hreaders⟩ :=
    @runFrom_answersFalse _ _ rt callback streams s thread hfalse
  have hholder : s.cbMutex = some thread := by
    obtain ⟨_, _, _, hreader, _⟩ := hfalse
    exact (h.locked thread).mpr (by simp [hreader, Place.Locked])
  have hfree : ¬ (s'.readers other).place.Locked := by
    rw [hreaders other hother, ← h.locked other, hholder]
    simpa using Ne.symm hother
  rw [← hreaders other hother] at hnext
  obtain ⟨invocation, hcalls⟩ := @runFrom_next _ _ rt callback streams s' other
    record hmutex herr hfree hnext hsome
  refine ⟨[.execute thread, .unlock thread] ++
    [.deliver other, .lock other, .execute other], fun hfinal => ?_⟩
  rw [Machine.runFrom_append, hrun] at hfinal
  have hnone := (hfinal s'.calls _ [] hcalls).2 hhalted
  cases hnone

end

/-- In a run in which every explicit false comes while no other thread has a
record left, halting is final; and when it is final in all runs, then every
explicit false comes so. -/
theorem halting_final_iff (rt : Runtime)
    (callback : List Invocation → Zval → CallResult)
    (streams : Thread → List StreamRecord) :
    (∀ events, (foreachMachine rt callback streams).EveryStep
        (LastRecord rt callback) (foreachMachine rt callback streams).init
        events →
      Right rt callback streams
        ((foreachMachine rt callback streams).run events)) ∧
    ((∀ events, Right rt callback streams
        ((foreachMachine rt callback streams).run events)) →
      ∀ events, (foreachMachine rt callback streams).EveryStep
        (LastRecord rt callback) (foreachMachine rt callback streams).init
        events) := by
  refine ⟨fun events hlast => (inv_run hlast).right, fun hright events => ?_⟩
  by_contra hnot
  obtain ⟨before, event, after, -, hbefore, hbad⟩ :=
    Machine.exists_first_of_not_everyStep hnot
  cases event with
  | deliver thread | lock thread | unlock thread => exact hbad trivial
  | execute thread =>
      simp only [LastRecord, not_forall] at hbad
      obtain ⟨hfalse, other, record, hother, hnext, hsome⟩ := hbad
      obtain ⟨more, hmore⟩ :=
        exists_call_after (inv_run hbefore) hfalse hother hnext hsome
      refine hmore ?_
      have hrun := (hright (before ++ more)).final
      rwa [Machine.run, Machine.runFrom_append] at hrun

/-! ## Two nodes with one record each -/

def emptyRecord : StreamRecord :=
  ⟨asRecordNew, ⟨"test", "demo", .absent, none⟩⟩

/-- Both threads have a record when the callback answers false to the first. -/
def stopsAtOnce : List (Event Bool) :=
  [.deliver false, .deliver true, .lock false, .execute false, .unlock false,
    .lock true, .execute true]

theorem stopsAtOnce_not_right :
    ¬ Right Runtime.plain (fun _ _ => .returned (.bool false))
      (fun _ => [emptyRecord])
      ((foreachMachine Runtime.plain (fun _ _ => .returned (.bool false))
        fun _ => [emptyRecord]).run stopsAtOnce) := by
  intro hright
  have hnone := (hright.final [_] _ [] rfl).2 ⟨_, List.mem_singleton_self _, rfl⟩
  cases hnone

end Foreach

end AerospikePhp
