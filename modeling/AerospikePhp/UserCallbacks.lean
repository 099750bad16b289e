import AerospikePhp.Batches
import AerospikePhp.Library.Transition
import Mathlib.Tactic

/-!
# Callbacks of scans and queries

The C client hands every record of a scan or a query to
`user_callback_wrapper`, on one thread for each node.  The threads share an
error object and a mutex, and each of them reads on until the wrapper returns
false to it.
-/

namespace AerospikePhp

open Transition

/-- A record of a stream, with the key that is kept in the `as_record`. -/
structure StreamRecord where
  record : AsRecord
  key : AsKey

/-- The result of `zend_call_function`, with the value in `retval`. -/
inductive CallResult where
  | returned (retval : Zval)
  | failed

namespace Foreach

/-- A call of the PHP function: its argument and its result. -/
abbrev Invocation := Zval × CallResult

/-- What `execute_user_callback` leaves behind. -/
structure Executed where
  status : AsStatus
  err : AsError
  retval : Zval
  invocation : Option Invocation

section

variable (rt : Runtime) (callback : Zval → CallResult)

def executeUserCallback (record : StreamRecord) (err : AsError) : Executed :=
  let converted := asRecordToZval rt record.record record.key true err
  if converted.status ≠ .ok then
    ⟨converted.err.code, converted.err, .null, none⟩
  else
    let zRecord := converted.val.getD .undef
    match callback zRecord with
    | .failed =>
        ⟨.errClient, { converted.err with code := .errClient }, .null,
          some (zRecord, .failed)⟩
    | .returned retval =>
        ⟨.ok, converted.err, retval, some (zRecord, .returned retval)⟩

/-- What `user_callback_wrapper` leaves behind when it releases the mutex. -/
structure Wrapped where
  goOn : Bool
  err : AsError
  invocation : Option Invocation

/-- `user_callback_wrapper` between the lock and the unlock. -/
def userCallbackWrapper (record : StreamRecord) (err : AsError) : Wrapped :=
  let executed := executeUserCallback rt callback record err
  if executed.status ≠ .ok then
    ⟨false, executed.err.update .errParam "Callback raised an error",
      executed.invocation⟩
  else
    match executed.retval with
    | .bool false => ⟨false, executed.err, executed.invocation⟩
    | _ => ⟨true, executed.err, executed.invocation⟩

end

/-! ## The threads -/

/-- Where a thread of the C client is. -/
inductive Place where
  | reading
  /-- In the wrapper, before the lock. -/
  | waiting (record : StreamRecord)
  /-- In the wrapper, with the mutex. -/
  | holding (record : StreamRecord)
  /-- At the unlock, with the value to return. -/
  | leaving (goOn : Bool)
  | stopped

/-- A thread, with the part of its stream that it has not read. -/
structure Reader where
  place : Place
  rest : List StreamRecord

/-- A call of the wrapper that has run. -/
structure Call (Thread : Type) where
  thread : Thread
  record : StreamRecord
  invocation : Option Invocation

structure State (Thread : Type) where
  err : AsError
  cbMutex : Option Thread
  readers : Thread → Reader
  calls : List (Call Thread)

variable {Thread : Type}

/-- The calls of the PHP function so far. -/
def State.invocations (s : State Thread) : List Invocation :=
  s.calls.filterMap Call.invocation

/-- What a thread does next. -/
inductive Event (Thread : Type) where
  /-- It calls the wrapper with its next record, or with NULL at the end. -/
  | deliver (thread : Thread)
  | lock (thread : Thread)
  | execute (thread : Thread)
  /-- It releases the mutex and returns. -/
  | unlock (thread : Thread)

variable [DecidableEq Thread]

def State.setReader (s : State Thread) (thread : Thread) (reader : Reader) :
    State Thread :=
  { s with readers := Function.update s.readers thread reader }

section

variable (rt : Runtime) (callback : List Invocation → Zval → CallResult)

/-- The wrapper runs with the mutex held. -/
def State.execute (s : State Thread) (thread : Thread) (record : StreamRecord) :
    State Thread :=
  let wrapped :=
    userCallbackWrapper rt (callback s.invocations) record s.err
  { s.setReader thread ⟨.leaving wrapped.goOn, (s.readers thread).rest⟩ with
    err := wrapped.err
    calls := s.calls ++ [⟨thread, record, wrapped.invocation⟩] }

/-- A thread that is elsewhere does nothing. -/
def State.step (s : State Thread) : Event Thread → State Thread
  | .deliver thread =>
      match s.readers thread with
      | ⟨.reading, []⟩ => s.setReader thread ⟨.stopped, []⟩
      | ⟨.reading, record :: rest⟩ =>
          s.setReader thread ⟨.waiting record, rest⟩
      | _ => s
  | .lock thread =>
      match s.cbMutex, s.readers thread with
      | none, ⟨.waiting record, rest⟩ =>
          { s.setReader thread ⟨.holding record, rest⟩ with
            cbMutex := some thread }
      | _, _ => s
  | .execute thread =>
      match s.readers thread with
      | ⟨.holding record, _⟩ => s.execute rt callback thread record
      | _ => s
  | .unlock thread =>
      match s.readers thread with
      | ⟨.leaving goOn, rest⟩ =>
          { s.setReader thread ⟨if goOn then .reading else .stopped, rest⟩ with
            cbMutex := none }
      | _ => s

/-- `aerospike_scan_foreach` and `aerospike_query_foreach`, on the streams of
the nodes. -/
def foreachMachine (streams : Thread → List StreamRecord) :
    Machine (State Thread) (Event Thread) where
  init :=
    { err := .init, cbMutex := none, calls := []
      readers := fun thread => ⟨.reading, streams thread⟩ }
  step := State.step rt callback

end

end Foreach

end AerospikePhp
