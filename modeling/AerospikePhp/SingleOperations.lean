import AerospikePhp.Calls
import AerospikePhp.ListRequests
import AerospikePhp.RangeCounts
import Mathlib.Tactic

/-!
# Entries for one operation

`touch`, `append`, `prepend`, `increment` and the list methods send one
operation each.  An entry of the operations array that is written for one of
them asks for the same operation, and the loop over such entries adds them in
order.
-/

namespace AerospikePhp

open Procedure Method AddOp
open List (Forall₂)

/-- A method with one operation on a bin, with the arguments of its own. -/
inductive SingleOp where
  | append (value : String)
  | prepend (value : String)
  | increment (offset : Zval)
  | listSize
  | listAppend (z : Zval)
  | listMerge (items : HashTable)
  | listInsert (index : Int64) (z : Zval)
  | listInsertItems (index : Int64) (items : HashTable)
  | listPop (index : Int64)
  | listPopRange (index count : Int64)
  | listRemove (index : Int64)
  | listRemoveRange (index count : Int64)
  | listTrim (index count : Int64)
  | listClear
  | listSet (index : Int64) (z : Zval)
  | listGet (index : Int64)
  | listGetRange (index count : Int64)

namespace SingleOp

def type : SingleOp → OpType
  | append _ => .append
  | prepend _ => .prepend
  | increment _ => .incr
  | listSize => .listSize
  | listAppend _ => .listAppend
  | listMerge _ => .listMerge
  | listInsert _ _ => .listInsert
  | listInsertItems _ _ => .listInsertItems
  | listPop _ => .listPop
  | listPopRange _ _ => .listPopRange
  | listRemove _ => .listRemove
  | listRemoveRange _ _ => .listRemoveRange
  | listTrim _ _ => .listTrim
  | listClear => .listClear
  | listSet _ _ => .listSet
  | listGet _ => .listGet
  | listGetRange _ _ => .listGetRange

/-- The `index` entry of the operation in an array. -/
def index : SingleOp → Option Int64
  | listInsert index _ | listInsertItems index _ | listPop index
  | listPopRange index _ | listRemove index | listRemoveRange index _
  | listTrim index _ | listSet index _ | listGet index
  | listGetRange index _ => some index
  | _ => none

/-- The `val` entry of the operation in an array. -/
def val : SingleOp → Option Zval
  | append value | prepend value => some (.string value)
  | increment z | listAppend z | listInsert _ z | listSet _ z => some z
  | listMerge items | listInsertItems _ items => some (.array items)
  | listPopRange _ count | listRemoveRange _ count | listTrim _ count
  | listGetRange _ count => some (.long count)
  | _ => none

/-- The list that is sent whole. -/
def items : SingleOp → Option HashTable
  | listMerge items | listInsertItems _ items => some items
  | _ => none

/-- The method looks at the result of the add call. -/
def checked : SingleOp → Bool
  | append _ | prepend _ | increment _ | listSize | listAppend _ => false
  | _ => true

def call (args : ListArgs) : SingleOp → Call
  | append value => .append (some ⟨args.key, args.bin, value, args.policy⟩)
  | prepend value => .prepend (some ⟨args.key, args.bin, value, args.policy⟩)
  | increment offset =>
      .increment (some ⟨args.key, args.bin, offset, args.policy⟩)
  | listSize => .listSize (some args)
  | listAppend z => .listAppend (some (args, z))
  | listMerge items => .listMerge (some (args, items))
  | listInsert index z => .listInsert (some (args, index, z))
  | listInsertItems index items => .listInsertItems (some (args, index, items))
  | listPop index => .listPop (some (args, index))
  | listPopRange index count => .listPopRange (some (args, index, count))
  | listRemove index => .listRemove (some (args, index))
  | listRemoveRange index count => .listRemoveRange (some (args, index, count))
  | listTrim index count => .listTrim (some (args, index, count))
  | listClear => .listClear (some args)
  | listSet index z => .listSet (some (args, index, z))
  | listGet index => .listGet (some (args, index))
  | listGetRange index count => .listGetRange (some (args, index, count))

/-- The operation that the method adds. -/
def operation (engine : Engine) (zPolicy : Option Zval) (bin : String)
    (op : SingleOp) : Verdict Operation :=
  let made : Operation := { op := op.type, bin := some (cString bin) }
  match op with
  | append value | prepend value =>
      .ok { made with value := .string (cString value) }
  | increment offset => do
      let value ← present (incrValue engine.rt (some offset))
      .ok { made with value }
  | listSize | listClear => .ok made
  | listAppend z => valueOperation engine zPolicy z fun value =>
      { made with value := .asVal value }
  | listInsert index z | listSet index z =>
      valueOperation engine zPolicy z fun value =>
        { made with index := some index, value := .asVal value }
  | listMerge items => itemsOperation engine zPolicy items fun list =>
      { made with value := .list list }
  | listInsertItems index items =>
      itemsOperation engine zPolicy items fun list =>
        { made with index := some index, value := .list list }
  | listPop index => do
      let _ ← serializerOf engine zPolicy
      .ok { made with index := some index }
  | listRemove index | listGet index => .ok { made with index := some index }
  | listPopRange index count | listRemoveRange index count
  | listTrim index count | listGetRange index count =>
      .ok { made with index := some index, count := some (toUint64 count) }

end SingleOp

/-- A touch, or an operation on a bin. -/
inductive SingleCall where
  | touch (ttl : Int64)
  | onBin (bin : String) (op : SingleOp)

namespace SingleCall

/-- The call of the method for it. -/
def call (key : HashTable) (zPolicy : Option Zval) : SingleCall → Call
  | touch ttl => .touch (some ⟨key, ttl, zPolicy⟩)
  | onBin bin op => op.call ⟨key, bin, zPolicy⟩

/-- The operation that it adds. -/
def operation (engine : Engine) (zPolicy : Option Zval) :
    SingleCall → Verdict Operation
  | touch _ => .ok { op := .touch }
  | onBin bin op => do
      ensure (bin.length ≤ asBinNameMaxLen)
      op.operation engine zPolicy bin

/-- The time to live that it asks for, where it asks for one. -/
def ttl : SingleCall → Option ℕ
  | touch ttl => some (toUint32 ttl)
  | onBin _ _ => none

def HasCode (operators : OperatorCodes) (op : OpType) (entry : HashTable) :
    Prop :=
  ∃ code, entry.strFind "op" = some (.long code) ∧
    code.toInt = opCode operators op

/-- The entry asks for this in an operations array, whatever else is in it. -/
def Written (operators : OperatorCodes) : SingleCall → HashTable → Prop
  | touch ttl, entry => HasCode operators .touch entry ∧
      entry.strFind "ttl" = some (.long ttl)
  | onBin bin op, entry => HasCode operators op.type entry ∧
      entry.strFind "bin" = some (.string bin) ∧
      (∀ index, op.index = some index →
        entry.strFind "index" = some (.long index)) ∧
      ∀ z, op.val = some z → entry.strFind "val" = some z

/-- A bin name without a NUL, and a list of which every element converts. -/
def Plain (engine : Engine) (zPolicy : Option Zval) : SingleCall → Prop
  | touch _ => True
  | onBin bin op => NulFree bin ∧ ∀ items, op.items = some items →
      (encodeItems engine.rt (callSerializer engine zPolicy) items).isSome

end SingleCall

section

open SingleCall

variable {engine : Engine} {client : Client} {oracle : Oracle}
variable {policies : Policies} {zPolicy : Option Zval}

/-! ## What an entry asks for -/

theorem opTypeOf_of_large {code : ℤ} {operators : OperatorCodes}
    (hlarge : 1001 ≤ code) : opTypeOf operators code =
      if code < 1101 then listOpTypes[(code - 1001).toNat]?
      else mapOpTypes[(code - 1101).toNat]? := by
  have hsmall := operators.small
  simp only [List.forall_mem_cons, List.not_mem_nil, false_implies,
    implies_true, and_true] at hsmall
  unfold opTypeOf
  iterate 7 rw [if_neg (by omega)]
  by_cases hlist : code < 1101
  · rw [if_pos ⟨hlarge, hlist⟩, if_pos hlist]
  · rw [if_neg (by omega), if_pos (by omega), if_neg hlist]

theorem opTypeOf_listOp {op : OpType} {operators : OperatorCodes} {i : ℕ}
    (hop : listOpTypes[i]? = some op) :
    opTypeOf operators (opCode operators op) = some op := by
  have hlength : i < 14 := (List.getElem?_eq_some_iff.mp hop).1
  have hplace : ((1001 + i : ℤ) - 1001).toNat = i := by omega
  rw [opCode_of_listOp hop, opTypeOf_of_large (by omega), if_pos (by omega),
    hplace, hop]

theorem opTypeOf_mapOp {op : OpType} {operators : OperatorCodes} {i : ℕ}
    (hop : mapOpTypes[i]? = some op) :
    opTypeOf operators (opCode operators op) = some op := by
  have hplace : ((1101 + i : ℤ) - 1101).toNat = i := by omega
  rw [opCode_of_mapOp hop, opTypeOf_of_large (by omega), if_neg (by omega),
    hplace, hop]

theorem opTypeOf_opCode (operators : OperatorCodes) (op : OpType) :
    opTypeOf operators (opCode operators op) = some op := by
  by_cases hlist : op ∈ listOpTypes
  · obtain ⟨i, hi⟩ := List.getElem?_of_mem hlist
    exact opTypeOf_listOp hi
  by_cases hmap : op ∈ mapOpTypes
  · obtain ⟨i, hi⟩ := List.getElem?_of_mem hmap
    exact opTypeOf_mapOp hi
  · have hdistinct := operators.distinct
    simp only [List.nodup_cons, List.mem_cons, List.not_mem_nil, or_false,
      not_or] at hdistinct
    cases op <;> simp [listOpTypes, mapOpTypes] at hlist hmap <;>
      simp [opTypeOf, opCode, hdistinct, eq_comm]

theorem entryOpType_of_hasCode {operators : OperatorCodes} {op : OpType}
    {entry : HashTable} (hcode : HasCode operators op entry) :
    entryOpType operators entry = some op := by
  obtain ⟨code, hfind, heq⟩ := hcode
  have hlong : longEntry entry "op" = some code := by
    unfold longEntry
    rw [hfind]
  have hdeclared : opTypeOf operators code.toInt = some op := by
    rw [heq]
    exact opTypeOf_opCode operators op
  unfold entryOpType
  rw [hlong, Option.bind_some, toInt32_of_declared hdeclared, hdeclared]

theorem strlen_of_nulFree {s : String} (hfree : NulFree s) :
    strlen s = s.length := by
  unfold strlen
  rw [(cString_eq_self_iff s).mpr hfree]

theorem entryOp_of_bin {serializerType : SerializerType} {bin : String}
    {op : SingleOp} {entry : HashTable}
    (hwritten : (SingleCall.onBin bin op).Written engine.operators entry)
    (hfree : NulFree bin) :
    entryOp (asC true) engine.rt engine.operators serializerType entry =
      if bin.length ≤ asBinNameMaxLen then
        valueEntryOp (asC true) engine.rt serializerType op.type
          (some (cString bin)) op.index entry
      else none := by
  obtain ⟨hcode, hbin, hindex, -⟩ := hwritten
  obtain ⟨code, hlong, hop⟩ := Option.bind_eq_some_iff.mp
    (entryOpType_of_hasCode hcode)
  have hentryBin : entryBin (asC true) op.type entry =
      if bin.length ≤ asBinNameMaxLen then some (some (cString bin)) else none := by
    unfold entryBin required
    have hneeds : opRequiresBin (some op.type) = true := by cases op <;> rfl
    rw [if_pos hneeds, hbin]
    by_cases hfits : bin.length ≤ asBinNameMaxLen
    · simp [strlen_of_nulFree hfree, hfits, asC]
    · simp [strlen_of_nulFree hfree, hfits, Nat.lt_of_not_le hfits]
  have hentryIndex : entryIndex op.type entry = some op.index := by
    unfold entryIndex required
    cases hneeds : op.index with
    | none =>
        have hnot : opRequiresIndex (some op.type) = false := by
          cases op <;> first | rfl | cases hneeds
        rw [hnot]
        rfl
    | some index =>
        have hrequired : opRequiresIndex (some op.type) = true := by
          cases op <;> first | rfl | cases hneeds
        rw [if_pos hrequired, longEntry, hindex index hneeds]
        rfl
  have htouch : op.type ≠ .touch := by cases op <;> simp [SingleOp.type]
  have hmap : op.type ∉ mapOpTypes := by
    cases op <;> simp [SingleOp.type, mapOpTypes]
  unfold entryOp
  rw [hlong]
  show (opTypeOf engine.operators (toInt32 code)).bind _ = _
  rw [hop, Option.bind_some, if_neg htouch, hentryBin, hentryIndex]
  by_cases hfits : bin.length ≤ asBinNameMaxLen
  · simp [hfits, hmap]
  · simp [hfits]

/-- What `operate` and the methods need of the options to read them alike. -/
def ReadsSerializer (engine : Engine) (zPolicy : Option Zval) : Prop :=
  serializerOf engine zPolicy = .ok (callSerializer engine zPolicy)

theorem valueOperation_toOption (hserializer : ReadsSerializer engine zPolicy)
    (z : Zval) (make : Option AsVal → Operation) :
    (valueOperation engine zPolicy z make).toOption =
      (encode engine.rt (callSerializer engine zPolicy) z).map
        fun value => make (some value) := by
  unfold valueOperation
  rw [hserializer]
  show Except.toOption (present (encode engine.rt (callSerializer engine zPolicy)
    z) >>= fun value => .ok (make (some value))) = _
  cases encode engine.rt (callSerializer engine zPolicy) z <;> rfl

theorem itemsOperation_toOption (hserializer : ReadsSerializer engine zPolicy)
    (items : HashTable) (make : Option (List AsVal) → Operation) :
    (itemsOperation engine zPolicy items make).toOption =
      if HashTable.hashtableIsList items = true then
        some (make (encodeItems engine.rt (callSerializer engine zPolicy) items))
      else none := by
  unfold itemsOperation
  rw [hserializer]
  cases hlist : HashTable.hashtableIsList items <;> simp [ensure] <;> rfl

theorem valueEntryOp_of_val {bin : String} {op : SingleOp} {entry : HashTable}
    (hserializer : ReadsSerializer engine zPolicy)
    (hval : ∀ z, op.val = some z → entry.strFind "val" = some z) :
    valueEntryOp (asC true) engine.rt (callSerializer engine zPolicy) op.type
        (some (cString bin)) op.index entry =
      (op.operation engine zPolicy bin).toOption := by
  have hvalue := valueOperation_toOption hserializer
  have hitems := itemsOperation_toOption hserializer
  cases op with
  | append _ | prepend _ =>
      simp only [SingleOp.val, Option.some.injEq, forall_eq'] at hval
      simp [valueEntryOp, SingleOp.type, SingleOp.operation, SingleOp.index,
        hval, asC, Except.toOption]
  | increment offset =>
      simp only [SingleOp.val, Option.some.injEq, forall_eq'] at hval
      simp only [valueEntryOp, SingleOp.type, SingleOp.operation, SingleOp.index,
        hval]
      cases incrValue engine.rt (some offset) <;> rfl
  | listSize | listClear | listRemove _ | listGet _ => rfl
  | listPop _ =>
      simp only [valueEntryOp, SingleOp.type, SingleOp.operation, SingleOp.index]
      rw [hserializer]
      rfl
  | listAppend z | listInsert _ z | listSet _ z =>
      simp only [SingleOp.val, Option.some.injEq, forall_eq'] at hval
      simp [valueEntryOp, SingleOp.type, SingleOp.operation, SingleOp.index,
        hval, hvalue]
  | listMerge items | listInsertItems _ items =>
      simp only [SingleOp.val, Option.some.injEq, forall_eq'] at hval
      simp [valueEntryOp, SingleOp.type, SingleOp.operation, SingleOp.index,
        hval, hitems, asC]
  | listPopRange _ _ | listRemoveRange _ _ | listTrim _ _ | listGetRange _ _ =>
      simp only [SingleOp.val, Option.some.injEq, forall_eq'] at hval
      simp [valueEntryOp, SingleOp.type, SingleOp.operation, SingleOp.index,
        hval, asC, Except.toOption]

theorem entryOp_of_written {bin : String} {op : SingleOp} {entry : HashTable}
    (hserializer : ReadsSerializer engine zPolicy) (hfree : NulFree bin)
    (hwritten : (onBin bin op).Written engine.operators entry) :
    entryOp (asC true) engine.rt engine.operators
        (callSerializer engine zPolicy) entry =
      ((onBin bin op).operation engine zPolicy).toOption := by
  rw [entryOp_of_bin hwritten hfree,
    valueEntryOp_of_val hserializer hwritten.2.2.2]
  by_cases hfits : bin.length ≤ asBinNameMaxLen
  · simp only [SingleCall.operation, ensure, if_pos hfits]
    rfl
  · simp only [SingleCall.operation, ensure, if_neg hfits]
    rfl

/-! ## The loop over such entries -/

/-- The procedure adds these operations and sets the ttl, or stops with an
error. -/
def Contributes (proc : AddOp Unit) (s : OpsState) (ttl : ℕ) :
    Option (List Operation) → Prop
  | some ops => proc.run s = (.ok (), { s with ttl := ttl, ops := s.ops ++ ops })
  | none => Refused proc s

theorem operation_nullList {step : SingleCall} {op : Operation}
    (hplain : step.Plain engine zPolicy)
    (hserializer : ReadsSerializer engine zPolicy)
    (hop : step.operation engine zPolicy = .ok op) : op.nullList = false := by
  cases step with
  | touch ttl =>
      cases hop
      rfl
  | onBin bin single =>
      obtain ⟨-, -, hop⟩ := verdict_bind_eq_ok.mp hop
      have hmade : (single.operation engine zPolicy bin).toOption = some op := by
        rw [hop]
        rfl
      cases single with
      | listAppend z | listInsert _ z | listSet _ z =>
          simp only [SingleOp.operation, valueOperation_toOption hserializer,
            Option.map_eq_some_iff] at hmade
          obtain ⟨value, -, rfl⟩ := hmade
          rfl
      | listMerge items | listInsertItems _ items =>
          obtain ⟨list, hlist⟩ := Option.isSome_iff_exists.mp
            (hplain.2 items rfl)
          simp only [SingleOp.operation, itemsOperation_toOption hserializer,
            hlist, Option.ite_none_right_eq_some,
            Option.some.injEq] at hmade
          obtain ⟨-, rfl⟩ := hmade
          rfl
      | increment _ =>
          obtain ⟨value, hnumber, hop⟩ := verdict_bind_eq_ok.mp hop
          cases hop
          exact incrValue_not_list _ value (present_eq_ok.mp hnumber) .incr _ none
      | listPop _ =>
          obtain ⟨-, -, hop⟩ := verdict_bind_eq_ok.mp hop
          cases hop
          rfl
      | _ =>
          cases hop
          rfl

/-- The step of the loop. -/
theorem addOp_contributes {step : SingleCall} {entry : HashTable} {s : OpsState}
    (hclean : s.err.code = .ok) (hserializer : ReadsSerializer engine zPolicy)
    (hplain : step.Plain engine zPolicy)
    (hwritten : step.Written engine.operators entry) :
    Contributes (addOpToOperations engine.rt engine.operators
        (callSerializer engine zPolicy) true entry) s (step.ttl.getD s.ttl)
      ((step.operation engine zPolicy).toOption.map fun op => [op]) := by
  cases step with
  | touch ttl =>
      obtain ⟨hcode, httl⟩ := hwritten
      obtain ⟨code, hlong, hop⟩ := Option.bind_eq_some_iff.mp
        (entryOpType_of_hasCode hcode)
      refine (addOp_run hlong).trans ?_
      rw [hop, if_pos rfl, addTouch, httl]
      rfl
  | onBin bin single =>
      have htouch : single.type ≠ .touch := by
        cases single <;> simp [SingleOp.type]
      have hadds := @addOp_adds engine.rt _ (callSerializer engine zPolicy) s
        true entry _ (entryOpType_of_hasCode hwritten.1) htouch (.inl hclean)
      have hreading : readingAt s = asC true := by
        unfold readingAt
        rw [hclean]
        rfl
      rw [hreading, entryOp_of_written hserializer hplain.1 hwritten] at hadds
      cases hop : (onBin bin single).operation engine zPolicy with
      | error halt =>
          rw [hop] at hadds
          exact hadds
      | ok op =>
          rw [hop] at hadds
          obtain ⟨err, hrun, hkept, -⟩ := hadds
          obtain rfl : err = s.err :=
            hkept (operation_nullList hplain hserializer hop)
          exact hrun

/-- The ttl after these calls; a touch sets it. -/
def lastTtl (ttl : ℕ) (steps : List SingleCall) : ℕ :=
  steps.foldl (fun ttl step => step.ttl.getD ttl) ttl

/-- This element of the batch is written for this call, and the client adds
its operation. -/
structure AddedFor (operators : OperatorCodes) (ordered : Bool)
    (element : (ZKey × Zval) × Bool) (step : SingleCall) : Prop where
  key : keyRefused ordered element.1.1 = false
  entry : ∃ entry, element.1.2 = .array entry ∧ step.Written operators entry
  added : element.2 = true

/-- The run of the loop. -/
theorem addOperations_contributes {ordered : Bool} {batch : Batch}
    {steps : List SingleCall} {s : OpsState} (hclean : s.err.code = .ok)
    (hserializer : ReadsSerializer engine zPolicy)
    (hplain : ∀ step ∈ steps, step.Plain engine zPolicy)
    (hbatch : Forall₂ (AddedFor engine.operators ordered) batch steps) :
    Contributes (addOperations engine.rt engine.operators
        (callSerializer engine zPolicy) ordered batch) s (lastTtl s.ttl steps)
      (steps.mapM fun step => (step.operation engine zPolicy).toOption) := by
  induction hbatch generalizing s with
  | nil =>
      rw [List.mapM_nil]
      simp [Contributes, addOperations, lastTtl]
  | @cons element step batch steps hhead hrest ih =>
      obtain ⟨⟨key, z⟩, addOk⟩ := element
      obtain ⟨hkey, ⟨entry, rfl, hwritten⟩, rfl⟩ := hhead
      rw [List.forall_mem_cons] at hplain
      have hstep := addOp_contributes hclean hserializer hplain.1 hwritten
      rw [addOperations_cons hkey, List.mapM_cons]
      cases hop : step.operation engine zPolicy with
      | error halt =>
          rw [hop] at hstep
          exact refused_bind hstep _
      | ok op =>
          rw [hop] at hstep
          have hrun := @ih { s with
            ttl := step.ttl.getD s.ttl, ops := s.ops ++ [op] } hclean hplain.2
          cases hops : steps.mapM
              fun step => (step.operation engine zPolicy).toOption with
          | none =>
              rw [hops] at hrun
              obtain ⟨status, s', hend, hfail⟩ := hrun
              exact ⟨status, s', (Proc.run_bind_ok hstep).trans hend, hfail⟩
          | some ops =>
              rw [hops] at hrun
              refine (Proc.run_bind_ok hstep).trans (hrun.trans ?_)
              simp [lastTtl]

end

end AerospikePhp
