import AerospikePhp.Library.ListCommands
import AerospikePhp.SingleOperations
import AerospikePhp.RecordRows
import Mathlib.Tactic

/-!
# Lists as the cluster keeps them

The list methods over a cluster that carries out each operation on the list in
a bin, and the shelf of PHP lists that these come to for a program.  What the
cluster makes of an operation is not fixed: any machine will do that moves the
elements of a list around without looking at them.
-/

namespace AerospikePhp

open Refinement System ListCommands

/-- An error that the cluster answers with. -/
structure ClusterError where
  err : AsError
  failed : err.code ≠ .ok

/-- A bin of a record. -/
abbrev BinPlace := Place × String

/-- The lists in the bins. -/
abbrev Lists (α : Type) := BinPlace → Option (List α)

/-! ## The cluster -/

/-- The command that a list operation stands for. -/
def Operation.command (operation : Operation) : Option (Command AsVal) :=
  match operation.op, operation.index, operation.count, operation.value with
  | .listSize, _, _, _ => some .size
  | .listAppend, _, _, .asVal (some value) => some (.append value)
  | .listMerge, _, _, .list (some values) => some (.appendAll values)
  | .listInsert, some index, _, .asVal (some value) =>
      some (.insert index.toInt value)
  | .listInsertItems, some index, _, .list (some values) =>
      some (.insertAll index.toInt values)
  | .listPop, some index, _, _ => some (.pop index.toInt)
  | .listPopRange, some index, some count, _ =>
      some (.popRange index.toInt count)
  | .listRemove, some index, _, _ => some (.remove index.toInt)
  | .listRemoveRange, some index, some count, _ =>
      some (.removeRange index.toInt count)
  | .listTrim, some index, some count, _ => some (.trim index.toInt count)
  | .listClear, _, _, _ => some .clear
  | .listSet, some index, _, .asVal (some value) => some (.set index.toInt value)
  | .listGet, some index, _, _ => some (.get index.toInt)
  | .listGetRange, some index, some count, _ =>
      some (.getRange index.toInt count)
  | _, _, _, _ => none

def resultValue : Result AsVal → AsVal
  | .number n => .integer (Int64.ofNat n)
  | .one value => value
  | .many values => .list values

/-- The record of an answer holds the result in the bin of the operation. -/
def resultRecord (bin : String) (result : Option (Result AsVal)) : AsRecord :=
  { (default : AsRecord) with
    bins := (result.map fun result => (bin, resultValue result)).toList }

def listAnswer (bin : String) : Except ClusterError (Option (Result AsVal)) → Answer
  | .error error => { err := error.err }
  | .ok result => { err := .init, record := some (resultRecord bin result) }

section

variable (engine : Engine) (machine : Machine ClusterError)

/-- The cluster carries out each list operation at once, under policies that
set no condition; it leaves the other requests to other parts of it. -/
def Engine.serveList (request : Request) (lists : Lists AsVal) :
    Answer × Lists AsVal :=
  match request with
  | .keyOperate _ key ⟨[operation], _, _⟩ =>
      match operation.bin, operation.command with
      | some bin, some command =>
          let reaction := machine.step command (lists (engine.place key, bin))
          (listAnswer bin reaction.result,
            Function.update lists (engine.place key, bin) reaction.held)
      | _, _ => ({ err := .init }, lists)
  | _ => ({ err := .init }, lists)

/-! ## Calls -/

/-- The command that a list method is for, where a PHP program counts elements
with an `int64_t` that is sent as a `uint64_t`. -/
def SingleOp.command : SingleOp → Option (Command Zval)
  | listSize => some .size
  | listAppend z => some (.append z)
  | listMerge items => some (.appendAll (HashTable.values items))
  | listInsert index z => some (.insert index.toInt z)
  | listInsertItems index items =>
      some (.insertAll index.toInt (HashTable.values items))
  | listPop index => some (.pop index.toInt)
  | listPopRange index count => some (.popRange index.toInt (toUint64 count))
  | listRemove index => some (.remove index.toInt)
  | listRemoveRange index count =>
      some (.removeRange index.toInt (toUint64 count))
  | listTrim index count => some (.trim index.toInt (toUint64 count))
  | listClear => some .clear
  | listSet index z => some (.set index.toInt z)
  | listGet index => some (.get index.toInt)
  | listGetRange index count => some (.getRange index.toInt (toUint64 count))
  | append _ | prepend _ | increment _ => none

/-- A call of a list method, with the state of the object that makes it. -/
structure CommandCall where
  client : Client
  policies : Policies
  clientError : AsError
  args : ListArgs
  op : SingleOp
  command : Command Zval
  commands : op.command = some command

/-- The answers of a cluster with these lists. -/
def Engine.servingLists (oracle : Oracle) (lists : Lists AsVal) : Oracle :=
  { oracle with
    answer := fun _ request => (engine.serveList machine request lists).1 }

/-- The list methods over the cluster, which none of them asks twice. -/
def listClient (oracle : Oracle) : System (Lists AsVal) CommandCall Outcome where
  step lists call :=
    let outcome := (call.op.call call.args).run engine call.client
      (engine.servingLists machine oracle lists) call.policies call.clientError
    (outcome, outcome.state.requests.foldl
      (fun lists request => (engine.serveList machine request lists).2) lists)

end

/-! ## What the methods are for -/

inductive ListOp where
  | run (place : BinPlace) (command : Command Zval)
  /-- A call whose arguments do not get it to a request. -/
  | nothing

inductive ListReply where
  | refused
  | failed (code : AsStatus)
  | done
  /-- There is no such element, or no such list. -/
  | absent
  | returned (z : Zval)

def resultZval : Result Zval → Zval
  | .number n => .long (Int64.ofNat n)
  | .one z => z
  | .many zs => .array (HashTable.ofValues zs)

def sizeReply : Option (Result Zval) → ListReply
  | some (.number n) => .returned (.long (Int64.ofNat n))
  | _ => .returned (.long (-1))

def readReply : Option (Result Zval) → ListReply
  | some result => .returned (resultZval result)
  | none => .absent

/-- What the program is told of the result of its command. -/
def replyTo : Command Zval → Except ClusterError (Option (Result Zval)) → ListReply
  | _, .error error => .failed error.err.code
  | .size, .ok result => sizeReply result
  | .pop _, .ok result | .popRange _ _, .ok result | .get _, .ok result
  | .getRange _ _, .ok result => readReply result
  | _, .ok _ => .done

/-- A shelf of PHP lists, with the same machine. -/
def listShelf (machine : Machine ClusterError) :
    System (Lists Zval) ListOp ListReply where
  step shelf
    | .run place command =>
        let reaction := machine.step command (shelf place)
        (replyTo command reaction.result,
          Function.update shelf place reaction.held)
    | .nothing => (.refused, shelf)

end AerospikePhp
