import AerospikePhp.ListRequests
import Mathlib.Tactic

/-!
# Op codes and range counts

An op code is truncated to an `int` before it is looked up, and the count of a
list range becomes a `uint64_t` without a look at its sign.  Both survive when
every code is a declared one and no count is negative.
-/

namespace AerospikePhp

open Procedure Method

/-! ## What an element gives -/

/-- The operation that an entry declares, with its code as the program wrote
it. -/
def declaredOp (operators : OperatorCodes) (entry : HashTable) : Option OpType :=
  (longEntry entry "op").bind fun code => opTypeOf operators code.toInt

/-- The range operation and the count of an entry, for a reading of both. -/
def entryRange (op : Option OpType) (count : Int64 → ℤ) (entry : HashTable) :
    Option (OpType × ℤ) :=
  if opRequiresLongVal op then
    op.bind fun op => (longEntry entry "val").map fun n => (op, count n)
  else none

/-- The range that an element of the operations array asks for. -/
def givenRange (operators : OperatorCodes) : Zval → Option (OpType × ℤ)
  | .array entry => entryRange (declaredOp operators entry) Int64.toInt entry
  | _ => none

/-- The range of an operation in the request. -/
def sentRange (operation : Operation) : Option (OpType × ℤ) :=
  if opRequiresLongVal (some operation.op) then
    operation.count.map fun count => (operation.op, count)
  else none

/-- Every op code is a declared one, and the list ranges that are sent are the
ones given, in order. -/
structure ConversionSurvives (operators : OperatorCodes) (elements : List Zval)
    (ops : List Operation) : Prop where
  declared : ∀ entry, .array entry ∈ elements →
    (declaredOp operators entry).isSome
  ranges : ops.filterMap sentRange = elements.filterMap (givenRange operators)
  natural : ∀ range ∈ elements.filterMap (givenRange operators), 0 ≤ range.2

/-- The condition on one element: a declared code, and a count that is not
negative. -/
def ElementFits (operators : OperatorCodes) : Zval → Prop
  | .array entry => (declaredOp operators entry).isSome ∧
      ∀ range, givenRange operators (.array entry) = some range → 0 ≤ range.2
  | _ => True

section

variable {rt : Runtime} {operators : OperatorCodes}
variable {serializerType : SerializerType}

theorem opCode_bounds (op : OpType) :
    0 ≤ opCode operators op ∧ opCode operators op < 2 ^ 31 := by
  have hlist : listOpTypes.idxOf op ≤ listOpTypes.length := List.idxOf_le_length
  have hmap : mapOpTypes.idxOf op ≤ mapOpTypes.length := List.idxOf_le_length
  have hsmall := operators.small
  simp only [List.forall_mem_cons, List.not_mem_nil, false_implies,
    implies_true, and_true] at hsmall
  simp only [listOpTypes, mapOpTypes, List.length_cons, List.length_nil] at hlist hmap
  unfold opCode
  split
  all_goals try omega
  split
  all_goals
    simp only [listOpTypes, mapOpTypes]
    omega

/-- A declared code is an `int`. -/
theorem toInt32_of_declared {code : Int64} {op : OpType}
    (hop : opTypeOf operators code.toInt = some op) :
    toInt32 code = code.toInt := by
  have hcode := opTypeOf_eq_some hop
  have hbounds := @opCode_bounds operators op
  exact (toInt32_eq_iff code).mpr (by omega)

theorem entryOpType_of_declared {entry : HashTable}
    (hdeclared : (declaredOp operators entry).isSome) :
    entryOpType operators entry = declaredOp operators entry := by
  unfold declaredOp entryOpType at *
  cases hcode : longEntry entry "op" with
  | none => rfl
  | some code =>
      rw [hcode, Option.bind_some] at hdeclared
      obtain ⟨op, hop⟩ := Option.isSome_iff_exists.mp hdeclared
      simp only [Option.bind_some]
      rw [toInt32_of_declared hop]

/-! ## What an entry adds -/

/-- The range of an entry, as the dispatcher reads it. -/
def readRange (operators : OperatorCodes) (entry : HashTable) :
    Option (OpType × ℤ) :=
  entryRange (entryOpType operators entry) (fun n => (toUint64 n : ℤ)) entry

theorem sentRange_of_op {operation : Operation}
    (hop : opRequiresLongVal (some operation.op) = false) :
    sentRange operation = none := by
  simp [sentRange, hop]

theorem longEntry_eq_some {entry : HashTable} {name : String} {n : Int64} :
    longEntry entry name = some n ↔ entry.strFind name = some (.long n) := by
  unfold longEntry
  split <;> simp_all

theorem fieldsOp_range {clean : Bool} {op : OpType} {entry : HashTable}
    {added : Operation} (hop : opRequiresLongVal (some op) = true)
    (hadded : fieldsOp (asC clean) rt serializerType op entry = some added) :
    sentRange added = entryRange (some op) (fun n => (toUint64 n : ℤ)) entry := by
  have hmap : op ∉ mapOpTypes := by
    revert hop
    cases op <;> decide
  obtain ⟨bin, -, hadded⟩ := Option.bind_eq_some_iff.mp hadded
  obtain ⟨index, -, hadded⟩ := Option.bind_eq_some_iff.mp hadded
  rw [if_neg hmap, valueEntryOp_eq, entryArgument_range hop] at hadded
  obtain ⟨arg, harg, rfl⟩ := Option.map_eq_some_iff.mp hadded
  split at harg
  · next n hval =>
      obtain rfl := Option.some.inj harg
      simp [sentRange, entryRange, hop, longEntry_eq_some.mpr hval, asC]
  · simp at harg

/-- An accepted entry adds the range that the dispatcher reads in it, or no
range at all. -/
theorem contribution_ranges {clean addOk : Bool} {entry : HashTable}
    (hnot : ¬ EntryRefused rt operators serializerType clean addOk entry) :
    (contribution rt operators serializerType clean addOk entry).filterMap
      sentRange = (readRange operators entry).toList := by
  unfold EntryRefused at hnot
  unfold readRange
  cases hop : entryOpType operators entry with
  | none => simp [hop] at hnot
  | some op =>
      by_cases htouch : op = .touch
      · subst htouch
        rw [contribution_touch hop]
        split <;> simp [sentRange, entryRange, opRequiresLongVal]
      · rw [contribution, if_neg (by simpa [hop] using htouch)]
        obtain ⟨code, hcode, htype⟩ := Option.bind_eq_some_iff.mp hop
        have hentry := @entryOp_of_code rt operators serializerType (asC clean)
          _ _ hcode
        rw [show (asC clean).code code = toInt32 code from rfl, htype,
          Option.bind_some, if_neg htouch] at hentry
        have hsome : entryOp (asC clean) rt operators serializerType entry ≠
            none := by
          intro hnone
          rw [hop] at hnot
          cases op <;> simp_all
        obtain ⟨added, hadded⟩ := Option.ne_none_iff_exists'.mp hsome
        rw [hadded] at hentry
        have hone : (some added).toList.filterMap sentRange =
            (sentRange added).toList := by
          cases hsent : sentRange added <;> simp [hsent]
        rw [hadded, hone]
        cases hlong : opRequiresLongVal (some op) with
        | true =>
            rw [fieldsOp_range hlong hentry.symm]
        | false =>
            have hnone : sentRange added = none :=
              sentRange_of_op (by rw [fieldsOp_op hentry.symm, hlong])
            simp [hnone, entryRange, hlong]

/-! ## The batch -/

/-- The ranges that a batch adds are the ones the dispatcher reads in its
entries, in order. -/
theorem contributions_ranges {ordered clean : Bool} {batch : Batch}
    (hnot : ¬ BatchRefused rt operators serializerType ordered clean batch) :
    ∃ entries : List HashTable,
      batch.map (fun e => e.1.2) = entries.map .array ∧
      (contributions rt operators serializerType clean batch).flatten.filterMap
        sentRange = entries.filterMap (readRange operators) := by
  induction batch generalizing clean with
  | nil => exact ⟨[], rfl, rfl⟩
  | cons head rest ih =>
      obtain ⟨⟨key, z⟩, addOk⟩ := head
      cases hkey : keyRefused ordered key with
      | true => exact absurd (Or.inl hkey) hnot
      | false =>
      cases z with
      | undef | null | bool _ | long _ | double _ | string _ | object _ _
      | resource | reference _ => exact absurd (Or.inr trivial) hnot
      | array entry =>
          rw [batchRefused_array hkey, not_or] at hnot
          obtain ⟨entries, hmap, hranges⟩ := ih hnot.2
          refine ⟨entry :: entries, by simp [hmap], ?_⟩
          rw [contributions, List.flatten_cons, List.filterMap_append,
            contribution_ranges hnot.1, hranges]
          cases hread : readRange operators entry <;> simp [hread]

theorem givenRange_array (entry : HashTable) :
    givenRange operators (.array entry) =
      entryRange (declaredOp operators entry) Int64.toInt entry := rfl

theorem readRange_of_declared {entry : HashTable}
    (hdeclared : (declaredOp operators entry).isSome)
    (hnatural : ∀ range, givenRange operators (.array entry) = some range →
      0 ≤ range.2) :
    readRange operators entry = givenRange operators (.array entry) := by
  rw [givenRange_array] at hnatural ⊢
  rw [readRange, entryOpType_of_declared hdeclared]
  obtain ⟨op, hop⟩ := Option.isSome_iff_exists.mp hdeclared
  rw [hop] at hnatural ⊢
  unfold entryRange at *
  cases hlong : opRequiresLongVal (some op) with
  | false => rfl
  | true =>
      cases hval : longEntry entry "val" with
      | none => rfl
      | some n =>
          have hcount := hnatural (op, n.toInt) (by simp [hlong, hval])
          simp [(toUint64_eq_iff n).mpr hcount]

/-- A batch that is not refused survives the conversion exactly when each of
its elements fits. -/
theorem conversionSurvives_iff {ordered : Bool} {batch : Batch}
    (hnot : ¬ BatchRefused rt operators serializerType ordered true batch) :
    ConversionSurvives operators (batch.map fun e => e.1.2)
        (contributions rt operators serializerType true batch).flatten ↔
      ∀ element ∈ batch.map fun e => e.1.2, ElementFits operators element := by
  obtain ⟨entries, hmap, hranges⟩ := contributions_ranges hnot
  rw [hmap]
  constructor
  · intro hsurvives element helement
    obtain ⟨entry, hentry, rfl⟩ := List.mem_map.mp helement
    refine ⟨hsurvives.declared entry helement, fun range hrange => ?_⟩
    exact hsurvives.natural range (List.mem_filterMap.mpr ⟨_, helement, hrange⟩)
  · intro hfits
    refine ⟨fun entry hentry => (hfits _ hentry).1, ?_, fun range hrange => ?_⟩
    · rw [hranges, List.filterMap_map]
      refine List.filterMap_congr fun entry hentry => ?_
      have hfit := hfits _ (List.mem_map_of_mem hentry)
      exact readRange_of_declared hfit.1 hfit.2
    · obtain ⟨element, helement, hgiven⟩ := List.mem_filterMap.mp hrange
      obtain ⟨entry, hentry, rfl⟩ := List.mem_map.mp helement
      exact (hfits _ helement).2 range hgiven

end

/-! ## The calls -/

/-- The call is refused without a request, or its op codes and range counts
reach the cluster as they were given. -/
def OperateSurvives (engine : Engine) (args : OperateArgs) (outcome : Outcome) :
    Prop :=
  outcome.Refused ∨ ∃ policy key operations,
    outcome.state.requests = [.keyOperate policy key operations] ∧
    ConversionSurvives engine.operators (HashTable.values args.operations)
      operations.ops

/-- The call stops before its loop or in it, or every element fits. -/
def OperateFits (engine : Engine) (client : Client) (oracle : Oracle)
    (policies : Policies) (ordered : Bool) (args : OperateArgs) : Prop :=
  OperatePasses engine client policies ordered args →
    ¬ BatchRefused engine.rt engine.operators (callSerializer engine args.policy)
      ordered true (batchOf oracle args.operations) →
    ∀ element ∈ HashTable.values args.operations,
      ElementFits engine.operators element

/-- The list operations with a count. -/
inductive RangeMethod where
  | popRange | removeRange | getRange | trim

namespace RangeMethod

def op : RangeMethod → OpType
  | popRange => .listPopRange
  | removeRange => .listRemoveRange
  | getRange => .listGetRange
  | trim => .listTrim

def method (engine : Engine) (client : Client) (oracle : Oracle)
    (args : Option (ListArgs × Int64 × Int64)) : RangeMethod → Method Reply
  | popRange => listPopRange engine client oracle args
  | removeRange => listRemoveRange engine client oracle args
  | getRange => listGetRange engine client oracle args
  | trim => listTrim engine client oracle args

/-- The call is refused without a request, or it sends its range with the
count it was given. -/
def Survives (range : RangeMethod) (count : Int64) (outcome : Outcome) : Prop :=
  outcome.Refused ∨ ∃ policy key operations,
    outcome.state.requests = [.keyOperate policy key operations] ∧
    operations.ops.filterMap sentRange = [(range.op, count.toInt)] ∧
    0 ≤ count.toInt

/-- The call reaches its request. -/
def Passes (engine : Engine) (client : Client) (oracle : Oracle)
    (policies : Policies) (args : ListArgs) : Prop :=
  client.Ready ∧ args.bin.length ≤ asBinNameMaxLen ∧
    (keyOf engine.keyInit args.key).isSome ∧
    (zvalToAsPolicyOperate engine.rt engine.init.operate args.policy
      policies.operate).status = .ok ∧
    (setOperationsGenerationFromOperatePolicy args.policy 0).1 = .ok ∧
    (setOperationsTtlFromOperatePolicy args.policy 0).1 = .ok ∧
    oracle.addOk 0 = true

section

variable {engine : Engine} {client : Client} {oracle : Oracle}
variable {policies : Policies}

theorem method_sends (range : RangeMethod) (args : ListArgs)
    (index count : Int64) :
    Sends SameRequests false (cleanWith policies)
      (range.method engine client oracle (some (args, index, count)))
      (listVerdict engine client oracle policies args
        (.ok (plainOp range.op args.bin (some index) (some count))) true) := by
  cases range with
  | popRange => exact listPopRange_sends args index count
  | removeRange => exact rangeMethod_sends _ _ args index count
  | getRange => exact listGetRange_sends args index count
  | trim => exact rangeMethod_sends _ _ args index count

theorem listVerdict_gated (args : ListArgs) (op : Operation) :
    Gated (Passes engine client oracle policies args)
      (fun verdict => ∃ policy key gen ttl, verdict =
        .ok (.keyOperate policy key (oneOperation true op gen ttl)))
      (listVerdict engine client oracle policies args (.ok op) true) := by
  refine gated_ensure fun _ => gated_ensure fun _ => ?_
  refine gated_present fun key _ => gated_if fun _ => ?_
  refine gated_if fun _ => gated_if fun _ => ?_
  refine gated_congr (gated_and_true (gated_ensure fun hadd => ?_)) (by simp)
  rw [hadd rfl]
  exact gated_of_true trivial ⟨_, key, _, _, rfl⟩

theorem sentRange_plainOp (range : RangeMethod) (bin : String)
    (index count : Int64) :
    sentRange (plainOp range.op bin (some index) (some count)) =
      some (range.op, (toUint64 count : ℤ)) := by
  cases range <;> rfl

theorem survives_iff (range : RangeMethod) (args : ListArgs)
    (index count : Int64) (clientError : AsError) :
    range.Survives count
        ((range.method engine client oracle (some (args, index, count))).call
          (.start policies clientError)) ↔
      (Passes engine client oracle policies args → 0 ≤ count.toInt) := by
  have hsends := @method_sends engine client oracle policies range args index count
  have hcall := call_of_sends clientError hsends
  rcases @listVerdict_gated engine client oracle policies args
    (plainOp range.op args.bin (some index) (some count)) with
    ⟨hpasses, policy, key, gen, ttl, hverdict⟩ | ⟨hstops, hverdict⟩
  · rw [hverdict] at hcall
    have hcall := meets_sameRequests hcall
    simp only [hpasses, forall_const]
    constructor
    · rintro (⟨-, hnone⟩ | ⟨-, -, -, -, -, hnatural⟩)
      · exact absurd (hcall.symm.trans hnone) (by simp)
      · exact hnatural
    · intro hnatural
      refine .inr ⟨policy, key, _, hcall, ?_, hnatural⟩
      simp [oneOperation, sentRange_plainOp, (toUint64_eq_iff count).mpr hnatural]
  · rw [hverdict] at hcall
    exact iff_of_true (.inl hcall) fun hpasses => absurd hpasses hstops

end

end RangeMethod

/-- When op codes and range counts reach the cluster as they were given. -/
theorem conversion_survives_iff (engine : Engine) (client : Client)
    (oracle : Oracle) (policies : Policies) (clientError : AsError) :
    (∀ args : OperateArgs,
      OperateSurvives engine args ((operate engine client oracle (some args)).call
          (.start policies clientError)) ↔
        OperateFits engine client oracle policies false args) ∧
    (∀ args : OperateArgs,
      OperateSurvives engine args
          ((operateOrdered engine client oracle (some args)).call
            (.start policies clientError)) ↔
        OperateFits engine client oracle policies true args) ∧
    ∀ (range : RangeMethod) (args : ListArgs) (index count : Int64),
      range.Survives count
          ((range.method engine client oracle (some (args, index, count))).call
            (.start policies clientError)) ↔
        (RangeMethod.Passes engine client oracle policies args →
          0 ≤ count.toInt) := by
  have hbatch : ∀ (ordered : Bool) (args : OperateArgs),
      ¬ BatchRefused engine.rt engine.operators
        (callSerializer engine args.policy) ordered true
        (batchOf oracle args.operations) →
      (ConversionSurvives engine.operators (HashTable.values args.operations)
        (contributions engine.rt engine.operators
          (callSerializer engine args.policy) true
          (batchOf oracle args.operations)).flatten ↔
        ∀ element ∈ HashTable.values args.operations,
          ElementFits engine.operators element) := by
    intro ordered args hnot
    have hsurvives := conversionSurvives_iff hnot
    rwa [batchOf_values] at hsurvives
  refine ⟨fun args => ?_, fun args => ?_, fun range args index count => ?_⟩
  · exact sendsOps_iff clientError (operate_sends args)
      (operateVerdict_gated args) (hbatch false args)
  · exact sendsOps_iff clientError (operateOrdered_sends args)
      (operateOrderedVerdict_gated args) (hbatch true args)
  · exact range.survives_iff args index count clientError

/-- A batch of one entry with this op code and this value, on the bin `b`. -/
def oneRange (code count : Int64) : OperateArgs where
  key := [(.str "ns", .string "test"), (.str "set", .string "demo"),
    (.str "key", .long 1)]
  operations := [(.idx 0, .array [(.str "op", .long code),
    (.str "bin", .string "b"), (.str "index", .long 0),
    (.str "val", .long count)])]
  returned := false
  policy := none

/-- The code `2 ^ 32 + 1013` trims the list, and a trim to -1 elements asks for
`2 ^ 64 - 1` of them. -/
theorem oneRange_not_survives :
    ¬ OperateSurvives Engine.plain (oneRange (2 ^ 32 + 1013) 1)
        ((operate Engine.plain Client.connected Oracle.accepting
          (some (oneRange (2 ^ 32 + 1013) 1))).call (.start default .init)) ∧
      ¬ OperateSurvives Engine.plain (oneRange 1013 (-1))
        ((operate Engine.plain Client.connected Oracle.accepting
          (some (oneRange 1013 (-1)))).call (.start default .init)) := by
  have hcode : ((operate Engine.plain Client.connected Oracle.accepting
      (some (oneRange (2 ^ 32 + 1013) 1))).call (.start default .init)
      ).state.requests =
      [.keyOperate (some default) ⟨"test", "demo", .integer 1, none⟩
        ⟨[{ op := .listTrim, bin := some "b", index := some 0,
            count := some 1 }], 0, 0⟩] := rfl
  have hcount : ((operate Engine.plain Client.connected Oracle.accepting
      (some (oneRange 1013 (-1)))).call (.start default .init)
      ).state.requests =
      [.keyOperate (some default) ⟨"test", "demo", .integer 1, none⟩
        ⟨[{ op := .listTrim, bin := some "b", index := some 0,
            count := some (2 ^ 64 - 1) }], 0, 0⟩] := rfl
  constructor
  · rintro (⟨-, hnone⟩ | ⟨_, _, _, _, hsurvives⟩)
    · exact absurd (hcode.symm.trans hnone) (by simp)
    · have hdeclared := hsurvives.declared _ List.mem_cons_self
      exact absurd hdeclared (by decide)
  · rintro (⟨-, hnone⟩ | ⟨_, _, _, _, hsurvives⟩)
    · exact absurd (hcount.symm.trans hnone) (by simp)
    · have hnatural := hsurvives.natural (.listTrim, -1) (by decide)
      exact absurd hnatural (by decide)

end AerospikePhp
