import AerospikePhp.ExactEntries
import Mathlib.Tactic

/-!
# The grammar of the map operations

What a map operation needs is written down twice in `operate.c`: in the eight
classifiers, which decide what is read from the entry, and in the switch, which
decides what is passed on.  The table `mapOpFields` is a third account, taken
from the arguments of the operations, with which both agree.

The values are converted before their use is known.  A list is a fine list of
keys or of values, but the items of a map are then no map any more.
-/

namespace AerospikePhp

open Procedure

/-- What may stand in a value field. -/
inductive ValueKind where
  | any
  /-- A PHP list. -/
  | list
  /-- Any PHP array, for the items of a map. -/
  | items
  deriving DecidableEq, Repr

/-- The fields of an entry that an operation takes. -/
structure MapOpFields where
  key : Option ValueKind := none
  val : Option ValueKind := none
  rangeEnd : Option ValueKind := none
  index : Bool := false
  rank : Bool := false
  count : Bool := false
  returnType : Bool := false
  mapPolicy : Bool := false

def mapOpFields : OpType → MapOpFields
  | .mapSetPolicy => { mapPolicy := true }
  | .mapPut | .mapIncrement | .mapDecrement =>
      { mapPolicy := true, key := some .any, val := some .any }
  | .mapPutItems => { mapPolicy := true, val := some .items }
  | .mapRemoveByKey | .mapGetByKey =>
      { key := some .any, returnType := true }
  | .mapRemoveByKeyList => { key := some .list, returnType := true }
  | .mapRemoveByKeyRange | .mapGetByKeyRange =>
      { key := some .any, rangeEnd := some .any, returnType := true }
  | .mapRemoveByValue | .mapGetByValue =>
      { val := some .any, returnType := true }
  | .mapRemoveByValueList => { val := some .list, returnType := true }
  | .mapRemoveByValueRange | .mapGetByValueRange =>
      { val := some .any, rangeEnd := some .any, returnType := true }
  | .mapRemoveByIndex | .mapGetByIndex =>
      { index := true, returnType := true }
  | .mapRemoveByIndexRange | .mapGetByIndexRange =>
      { index := true, count := true, returnType := true }
  | .mapRemoveByRank | .mapGetByRank => { rank := true, returnType := true }
  | .mapRemoveByRankRange | .mapGetByRankRange =>
      { rank := true, count := true, returnType := true }
  | _ => {}

section

variable (rt : Runtime) (serializerType : SerializerType)

/-- The value that a field of this kind stands for. -/
def ValueKind.read : ValueKind → Zval → Option AsVal
  | .any, z => encode rt serializerType z
  | .list, .array entries =>
      if HashTable.hashtableIsList entries then
        (encodeItems rt serializerType entries).map .list
      else none
  | .items, .array entries =>
      (encodePairs rt serializerType entries []).map .map
  | _, _ => none

def fieldVal (entry : HashTable) (name : String) (kind : ValueKind) :
    Option AsVal :=
  (entry.strFind name).bind (kind.read rt serializerType)

/-- Every field that the operation takes is there and of its type. -/
structure FieldsComplete (op : OpType) (entry : HashTable) : Prop where
  known : op ∈ mapOpTypes
  count : (mapOpFields op).count = true → (entryCount entry).isSome
  index : (mapOpFields op).index = true → (longEntry entry "index").isSome
  rank : (mapOpFields op).rank = true → (longEntry entry "rank").isSome
  returnType : (mapOpFields op).returnType = true →
    (longEntry entry "return_type").isSome
  mapPolicy : (mapOpFields op).mapPolicy = true →
    ((entry.strFind "map_policy").bind zvalToAsPolicyMap).isSome
  key : ∀ kind, (mapOpFields op).key = some kind →
    (fieldVal rt serializerType entry "key" kind).isSome
  rangeEnd : ∀ kind, (mapOpFields op).rangeEnd = some kind →
    (fieldVal rt serializerType entry "range_end" kind).isSome
  val : ∀ kind, (mapOpFields op).val = some kind →
    (fieldVal rt serializerType entry "val" kind).isSome

/-- The arguments of the operation are the fields it takes, and no others. -/
structure CarriesFields (op : OpType) (bin : Option String) (entry : HashTable)
    (added : Operation) : Prop where
  sameOp : added.op = op
  sameBin : added.bin = bin
  count : added.count =
    if (mapOpFields op).count then entryCount entry else none
  index : added.index =
    if (mapOpFields op).index then longEntry entry "index" else none
  rank : added.rank =
    if (mapOpFields op).rank then longEntry entry "rank" else none
  returnType : added.returnType.map Nat.cast =
    if (mapOpFields op).returnType then
      (longEntry entry "return_type").map Int64.toInt
    else none
  mapPolicy : added.mapPolicy =
    if (mapOpFields op).mapPolicy then
      (entry.strFind "map_policy").bind zvalToAsPolicyMap
    else none
  key : added.key =
    (mapOpFields op).key.bind (fieldVal rt serializerType entry "key")
  rangeEnd : added.rangeEnd =
    (mapOpFields op).rangeEnd.bind (fieldVal rt serializerType entry "range_end")
  value : added.value =
    match (mapOpFields op).val with
    | none => .absent
    | some kind => .asVal (fieldVal rt serializerType entry "val" kind)

/-- The function returns OK exactly for the complete entries, and adds to the
operations one that carries the fields. -/
def FollowsGrammar (addOk : Bool) (op : OpType) (bin : Option String)
    (entry : HashTable) (s : OpsState) : Prop :=
  let result :=
    (addMapOpToOperations rt serializerType addOk op bin entry).run s
  (result.1 = .ok () ↔ FieldsComplete rt serializerType op entry) ∧
    (FieldsComplete rt serializerType op entry →
      ∃ added, result.2.ops = s.ops ++ [added] ∧
        CarriesFields rt serializerType op bin entry added)

/-- The items of a map are not given as a list. -/
def ItemsKeyed (op : OpType) (entry : HashTable) : Prop :=
  op = .mapPutItems → ∀ entries, entry.strFind "val" = some (.array entries) →
    ¬ HashTable.hashtableIsList entries = true

/-- The return type is one that an `as_map_return_type` can hold. -/
def ReturnTypeFits (op : OpType) (entry : HashTable) : Prop :=
  (mapOpFields op).returnType = true → ∀ n,
    longEntry entry "return_type" = some n → 0 ≤ n.toInt ∧ n.toInt < 2 ^ 32

end

/-! ## The three accounts -/

section

variable {rt : Runtime} {serializerType : SerializerType}

/-- The classifiers ask for the fields of the table. -/
theorem classifiers_eq (op : OpType) :
    mapOpRequiresCount op = (mapOpFields op).count ∧
    mapOpRequiresIndex op = (mapOpFields op).index ∧
    mapOpRequiresRank op = (mapOpFields op).rank ∧
    mapOpRequiresReturnType op = (mapOpFields op).returnType ∧
    mapOpRequiresMapPolicy op = (mapOpFields op).mapPolicy ∧
    mapOpRequiresKey op = (mapOpFields op).key.isSome ∧
    mapOpRequiresRangeEnd op = (mapOpFields op).rangeEnd.isSome ∧
    mapOpRequiresVal op = (mapOpFields op).val.isSome := by
  cases op <;> decide

/-- The switch passes on the fields of the table. -/
theorem mapOperation_fields (op : OpType) (bin : Option String)
    (args : MapOpArgs) :
    mapOperation op bin args =
      { op, bin
        count := if (mapOpFields op).count then args.count else none
        index := if (mapOpFields op).index then args.index else none
        rank := if (mapOpFields op).rank then args.rank else none
        returnType :=
          if (mapOpFields op).returnType then args.returnType else none
        mapPolicy := if (mapOpFields op).mapPolicy then args.mapPolicy else none
        key := if (mapOpFields op).key.isSome then args.key else none
        rangeEnd :=
          if (mapOpFields op).rangeEnd.isSome then args.rangeEnd else none
        value := if (mapOpFields op).val.isSome then .asVal args.val
          else .absent } := by
  cases op <;> rfl

/-- The values that the checks of the switch let through. -/
def ValueKind.Accepts : ValueKind → AsVal → Prop
  | .any, _ => True
  | .list, value => ∃ items, value = .list items
  | .items, value => ∃ entries, value = .map entries

@[simp] theorem accepts_any (value : AsVal) : ValueKind.any.Accepts value :=
  trivial

@[simp] theorem accepts_list (value : AsVal) :
    ValueKind.list.Accepts value ↔ ∃ items, value = .list items := Iff.rfl

@[simp] theorem accepts_items (value : AsVal) :
    ValueKind.items.Accepts value ↔ ∃ entries, value = .map entries := Iff.rfl

theorem mapOpTypeError_eq_none_iff {op : OpType} {args : MapOpArgs}
    (hkey : (mapOpFields op).key.isSome → args.key.isSome)
    (hval : (mapOpFields op).val.isSome → args.val.isSome) :
    mapOpTypeError op args = none ↔
      (∀ kind, (mapOpFields op).key = some kind →
        ∀ value, args.key = some value → kind.Accepts value) ∧
      (∀ kind, (mapOpFields op).val = some kind →
        ∀ value, args.val = some value → kind.Accepts value) := by
  obtain ⟨count, index, rank, returnType, mapPolicy, key, rangeEnd, val⟩ := args
  cases op <;> simp [mapOpTypeError, mapOpFields] at *
  case mapPutItems =>
    obtain ⟨value, rfl⟩ := Option.isSome_iff_exists.mp hval
    cases value <;> simp
  case mapRemoveByKeyList =>
    obtain ⟨value, rfl⟩ := Option.isSome_iff_exists.mp hkey
    cases value <;> simp
  case mapRemoveByValueList =>
    obtain ⟨value, rfl⟩ := Option.isSome_iff_exists.mp hval
    cases value <;> simp

/-! ## Values -/

/-- Only an array is converted to a list or a map. -/
theorem encode_collection {z : Zval} {value : AsVal}
    (hvalue : encode rt serializerType z = some value)
    (hcollection : ValueKind.list.Accepts value ∨ ValueKind.items.Accepts value) :
    ∃ entries, z = .array entries := by
  have hserialized : serializedValue rt serializerType z ≠ some value := by
    unfold serializedValue
    intro hserialized
    split at hserialized
    · split at hserialized
      · obtain rfl := Option.some.inj hserialized
        simp [rawBytes] at hcollection
      · cases hserialized
    · split at hserialized
      · obtain ⟨bytes, -, rfl⟩ := Option.map_eq_some_iff.mp hserialized
        simp [rawBytes] at hcollection
      · cases hserialized
  cases z with
  | array entries => exact ⟨entries, rfl⟩
  | object className properties =>
      rw [encode] at hvalue
      unfold objectValue at hvalue
      split at hvalue
      · split at hvalue
        · obtain rfl := Option.some.inj hvalue
          simp [rawBytes] at hcollection
        · cases hvalue
      · split at hvalue
        · split at hvalue
          · obtain rfl := Option.some.inj hvalue
            simp at hcollection
          · cases hvalue
        · exact absurd hvalue hserialized
  | long n | string s | double d =>
      rw [encode] at hvalue
      obtain rfl := Option.some.inj hvalue
      simp at hcollection
  | undef | null | bool b | resource | reference target =>
      rw [encode] at hvalue
      · exact absurd hvalue hserialized
      all_goals simp

/-- The values that are converted and let through are those that the field may
hold, except for a list in the place of the items of a map. -/
theorem read_iff {kind : ValueKind} {z : Zval} {value : AsVal} :
    encode rt serializerType z = some value ∧ kind.Accepts value ↔
      kind.read rt serializerType z = some value ∧
        (kind = .items → ∀ entries, z = .array entries →
          ¬ HashTable.hashtableIsList entries = true) := by
  cases kind with
  | any => simp [ValueKind.read]
  | list =>
      constructor
      · rintro ⟨hvalue, hlist⟩
        obtain ⟨entries, rfl⟩ := encode_collection hvalue (.inl hlist)
        refine ⟨?_, by simp⟩
        rw [encode] at hvalue
        split at hvalue
        · next hislist => simpa [ValueKind.read, hislist] using hvalue
        · obtain ⟨pairs, -, rfl⟩ := Option.map_eq_some_iff.mp hvalue
          simp at hlist
      · rintro ⟨hread, -⟩
        cases z with
        | array entries =>
            rw [ValueKind.read] at hread
            split at hread
            · next hislist =>
                obtain ⟨items, hitems, rfl⟩ := Option.map_eq_some_iff.mp hread
                refine ⟨?_, items, rfl⟩
                rw [encode, if_pos hislist, hitems]
                rfl
            · cases hread
        | _ => cases hread
  | items =>
      constructor
      · rintro ⟨hvalue, hmap⟩
        obtain ⟨entries, rfl⟩ := encode_collection hvalue (.inr hmap)
        rw [encode] at hvalue
        split at hvalue
        · obtain ⟨items, -, rfl⟩ := Option.map_eq_some_iff.mp hvalue
          simp at hmap
        · next hislist =>
            refine ⟨hvalue, fun _ entries' heq => ?_⟩
            obtain rfl : entries = entries' := by simpa using heq
            exact hislist
      · rintro ⟨hread, hkeyed⟩
        cases z with
        | array entries =>
            rw [ValueKind.read] at hread
            obtain ⟨pairs, hpairs, rfl⟩ := Option.map_eq_some_iff.mp hread
            refine ⟨?_, pairs, rfl⟩
            rw [encode, if_neg (hkeyed rfl entries rfl), hpairs]
            rfl
        | _ => cases hread

/-! ## The operation of an entry -/

theorem required_iff {α : Type} {needed : Bool} {value arg : Option α} :
    required needed value = some arg ↔
      (needed = true → value.isSome) ∧
        arg = if needed then value else none := by
  cases needed <;> cases value <;> simp [required] <;> exact eq_comm

theorem required_value_iff {kinds : Option ValueKind} {found : Option Zval}
    {arg : Option AsVal} :
    required kinds.isSome (found.bind (encode rt serializerType)) = some arg ∧
        (∀ kind, kinds = some kind → ∀ value, arg = some value →
          kind.Accepts value) ↔
      (∀ kind, kinds = some kind →
        (found.bind (kind.read rt serializerType)).isSome ∧
          (kind = .items → ∀ entries, found = some (.array entries) →
            ¬ HashTable.hashtableIsList entries = true)) ∧
        arg = kinds.bind fun kind => found.bind (kind.read rt serializerType) := by
  cases kinds with
  | none =>
      simp [required]
      exact eq_comm
  | some kind =>
      cases found with
      | none => simp [required]
      | some z =>
          have hread := @read_iff rt serializerType kind z
          simp only [required, Option.isSome_some, if_true, Option.map_eq_some_iff,
            Option.bind_some, Option.some.injEq, forall_eq']
          constructor
          · rintro ⟨⟨value, hvalue, rfl⟩, haccepts⟩
            obtain ⟨hval, hkeyed⟩ := hread.mp ⟨hvalue, haccepts value rfl⟩
            exact ⟨⟨by simp [hval], hkeyed⟩, hval.symm⟩
          · rintro ⟨⟨hsome, hkeyed⟩, rfl⟩
            obtain ⟨value, hval⟩ := Option.isSome_iff_exists.mp hsome
            obtain ⟨hvalue, haccepts⟩ := hread.mpr ⟨hval, hkeyed⟩
            refine ⟨⟨value, hvalue, hval.symm⟩, fun value' hvalue' => ?_⟩
            rw [hval] at hvalue'
            obtain rfl := Option.some.inj hvalue'
            exact haccepts

/-- The local variables after the fields of the operation have been read. -/
def fieldArgs (rt : Runtime) (serializerType : SerializerType) (op : OpType)
    (entry : HashTable) : MapOpArgs where
  count := if (mapOpFields op).count then entryCount entry else none
  index := if (mapOpFields op).index then longEntry entry "index" else none
  rank := if (mapOpFields op).rank then longEntry entry "rank" else none
  returnType :=
    if (mapOpFields op).returnType then
      (longEntry entry "return_type").map toUint32
    else none
  mapPolicy :=
    if (mapOpFields op).mapPolicy then
      (entry.strFind "map_policy").bind zvalToAsPolicyMap
    else none
  key := (mapOpFields op).key.bind (fieldVal rt serializerType entry "key")
  rangeEnd :=
    (mapOpFields op).rangeEnd.bind (fieldVal rt serializerType entry "range_end")
  val := (mapOpFields op).val.bind (fieldVal rt serializerType entry "val")

/-- The only field that holds the items of a map is the value of
`OP_MAP_PUT_ITEMS`. -/
theorem kinds_items (op : OpType) :
    (mapOpFields op).key ≠ some .items ∧
      ((mapOpFields op).rangeEnd = none ∨
        (mapOpFields op).rangeEnd = some .any) ∧
      ((mapOpFields op).val = some .items ↔ op = .mapPutItems) := by
  cases op <;> decide

theorem isSome_of_required {α : Type} {needed : Bool} {value arg : Option α}
    (hrequired : required needed value = some arg) (hneeded : needed = true) :
    arg.isSome := by
  obtain ⟨hsome, rfl⟩ := required_iff.mp hrequired
  rw [if_pos hneeded]
  exact hsome hneeded

/-- Reading the fields succeeds, and the checks of the switch after it. -/
theorem entryMapArgs_checked_iff {clean : Bool} {op : OpType}
    (hop : op ∈ mapOpTypes) {entry : HashTable} {args : MapOpArgs} :
    entryMapArgs (asC clean) rt serializerType op entry = some args ∧
        mapOpTypeError op args = none ↔
      FieldsComplete rt serializerType op entry ∧ ItemsKeyed op entry ∧
        args = fieldArgs rt serializerType op entry := by
  obtain ⟨hcount, hindex, hrank, htype, hpolicy, hkey, hend, hval⟩ :=
    classifiers_eq op
  obtain ⟨hkeyKind, hendKind, hvalKind⟩ := kinds_items op
  have hendAny : ∀ kind, (mapOpFields op).rangeEnd = some kind →
      kind = .any := by
    intro kind hkind
    rcases hendKind with hnone | hany
    · rw [hnone] at hkind
      cases hkind
    · rw [hany] at hkind
      exact (Option.some.inj hkind).symm
  rw [entryMapArgs_eq_some, hcount, hindex, hrank, htype, hpolicy, hkey, hend,
    hval]
  simp only [entryAsVal, readVal_asC]
  constructor
  · rintro ⟨⟨h1, h2, h3, h4, h5, h6, h7, h8⟩, hcheck⟩
    obtain ⟨hkeys, hvals⟩ := (mapOpTypeError_eq_none_iff
      (isSome_of_required h6) (isSome_of_required h8)).mp hcheck
    have hends : ∀ kind, (mapOpFields op).rangeEnd = some kind →
        ∀ value, args.rangeEnd = some value → kind.Accepts value := by
      intro kind hkind value _
      rw [hendAny kind hkind]
      trivial
    obtain ⟨hkey, hkeyArg⟩ := required_value_iff.mp ⟨h6, hkeys⟩
    obtain ⟨hend, hendArg⟩ := required_value_iff.mp ⟨h7, hends⟩
    obtain ⟨hval, hvalArg⟩ := required_value_iff.mp ⟨h8, hvals⟩
    refine ⟨⟨hop, (required_iff.mp h1).1, (required_iff.mp h2).1,
      (required_iff.mp h3).1, ?_, (required_iff.mp h5).1,
      fun kind hkind => (hkey kind hkind).1,
      fun kind hkind => (hend kind hkind).1,
      fun kind hkind => (hval kind hkind).1⟩, ?_, ?_⟩
    · simpa using (required_iff.mp h4).1
    · intro hitems
      exact (hval .items (hvalKind.mpr hitems)).2 rfl
    · obtain ⟨count, index, rank, returnType, mapPolicy, key, rangeEnd, val⟩ :=
        args
      simp only [fieldArgs, MapOpArgs.mk.injEq]
      exact ⟨(required_iff.mp h1).2, (required_iff.mp h2).2,
        (required_iff.mp h3).2, (required_iff.mp h4).2, (required_iff.mp h5).2,
        hkeyArg, hendArg, hvalArg⟩
  · rintro ⟨hcomplete, hkeyed, rfl⟩
    have hkey := @required_value_iff rt serializerType (mapOpFields op).key
      (entry.strFind "key") _ |>.mpr ⟨fun kind hkind =>
        ⟨hcomplete.key kind hkind, fun hitems =>
          absurd (hitems ▸ hkind) hkeyKind⟩, rfl⟩
    have hend := @required_value_iff rt serializerType
      (mapOpFields op).rangeEnd (entry.strFind "range_end") _ |>.mpr
        ⟨fun kind hkind => ⟨hcomplete.rangeEnd kind hkind, fun hitems => by
          rw [hendAny kind hkind] at hitems
          cases hitems⟩, rfl⟩
    have hval := @required_value_iff rt serializerType (mapOpFields op).val
      (entry.strFind "val") _ |>.mpr ⟨fun kind hkind =>
        ⟨hcomplete.val kind hkind, fun hitems =>
          hkeyed (hvalKind.mp (hitems ▸ hkind))⟩, rfl⟩
    refine ⟨⟨required_iff.mpr ⟨hcomplete.count, rfl⟩,
      required_iff.mpr ⟨hcomplete.index, rfl⟩,
      required_iff.mpr ⟨hcomplete.rank, rfl⟩,
      required_iff.mpr ⟨by simpa using hcomplete.returnType, rfl⟩,
      required_iff.mpr ⟨hcomplete.mapPolicy, rfl⟩, hkey.1, hend.1, hval.1⟩, ?_⟩
    exact (mapOpTypeError_eq_none_iff (isSome_of_required hkey.1)
      (isSome_of_required hval.1)).mpr ⟨hkey.2, hval.2⟩

theorem mapEntryOp_eq_some_iff {clean : Bool} {op : OpType}
    (hop : op ∈ mapOpTypes) {bin : Option String} {entry : HashTable}
    {added : Operation} :
    mapEntryOp (asC clean) rt serializerType op bin entry = some added ↔
      FieldsComplete rt serializerType op entry ∧ ItemsKeyed op entry ∧
        added = mapOperation op bin (fieldArgs rt serializerType op entry) := by
  unfold mapEntryOp
  constructor
  · intro hadded
    cases hread : entryMapArgs (asC clean) rt serializerType op entry with
    | none => simp [hread] at hadded
    | some args =>
        simp only [hread] at hadded
        split at hadded
        · next hcheck =>
            obtain ⟨hcomplete, hkeyed, rfl⟩ :=
              (entryMapArgs_checked_iff hop).mp ⟨hread, hcheck⟩
            exact ⟨hcomplete, hkeyed, (Option.some.inj hadded).symm⟩
        · cases hadded
  · rintro ⟨hcomplete, hkeyed, rfl⟩
    obtain ⟨hread, hcheck⟩ := (@entryMapArgs_checked_iff rt serializerType clean
      op hop entry _).mpr ⟨hcomplete, hkeyed, rfl⟩
    simp [hread, hcheck]

theorem returnType_fits_iff {op : OpType} {entry : HashTable} :
    (if (mapOpFields op).returnType then
        (longEntry entry "return_type").map toUint32
      else none).map (Nat.cast : ℕ → ℤ) =
      (if (mapOpFields op).returnType then
        (longEntry entry "return_type").map Int64.toInt
      else none) ↔
      ReturnTypeFits op entry := by
  unfold ReturnTypeFits
  cases (mapOpFields op).returnType with
  | false => simp
  | true =>
      cases longEntry entry "return_type" with
      | none => simp
      | some n => simpa using toUint32_eq_iff n

theorem carriesFields_iff {op : OpType} {bin : Option String}
    {entry : HashTable} :
    CarriesFields rt serializerType op bin entry
        (mapOperation op bin (fieldArgs rt serializerType op entry)) ↔
      ReturnTypeFits op entry := by
  rw [← returnType_fits_iff, mapOperation_fields]
  constructor
  · intro hcarries
    have htype := hcarries.returnType
    by_cases hneeded : (mapOpFields op).returnType = true
    · simpa [fieldArgs, hneeded] using htype
    · simp [hneeded]
  · intro htype
    refine ⟨rfl, rfl, ?_, ?_, ?_, ?_, ?_, ?_, ?_, ?_⟩
    · by_cases hneeded : (mapOpFields op).count = true <;>
        simp [fieldArgs, hneeded]
    · by_cases hneeded : (mapOpFields op).index = true <;>
        simp [fieldArgs, hneeded]
    · by_cases hneeded : (mapOpFields op).rank = true <;>
        simp [fieldArgs, hneeded]
    · by_cases hneeded : (mapOpFields op).returnType = true
      · simpa [fieldArgs, hneeded] using htype
      · simp [hneeded]
    · by_cases hneeded : (mapOpFields op).mapPolicy = true <;>
        simp [fieldArgs, hneeded]
    · cases hkind : (mapOpFields op).key <;> simp [fieldArgs, hkind]
    · cases hkind : (mapOpFields op).rangeEnd <;> simp [fieldArgs, hkind]
    · cases hkind : (mapOpFields op).val <;> simp [fieldArgs, hkind]

/-! ## The function -/

/-- `add_map_op_to_operations` follows the grammar unless a complete entry
gives the items of a map as a list or a return type that does not fit, comes
after an error, or is turned down by the C client. -/
theorem followsGrammar_iff {addOk : Bool} {op : OpType} (hop : op ∈ mapOpTypes)
    {bin : Option String} {entry : HashTable} {s : OpsState} :
    FollowsGrammar rt serializerType addOk op bin entry s ↔
      (FieldsComplete rt serializerType op entry →
        ItemsKeyed op entry ∧ ReturnTypeFits op entry ∧ addOk = true ∧
          s.err.code = .ok) := by
  have hrefused : AddOp.Refused
      (addMapOpToOperations rt serializerType addOk op bin entry) s →
      (FollowsGrammar rt serializerType addOk op bin entry s ↔
        ¬ FieldsComplete rt serializerType op entry) := by
    rintro ⟨status, s', hrun, -, -⟩
    simp [FollowsGrammar, hrun]
    tauto
  by_cases hclean : s.err.code = .ok
  · have hadds := @addMapOp_adds rt serializerType s hclean addOk op bin
      entry
    by_cases hcomplete : FieldsComplete rt serializerType op entry ∧
        ItemsKeyed op entry
    · rw [(mapEntryOp_eq_some_iff hop).mpr ⟨hcomplete.1, hcomplete.2, rfl⟩]
        at hadds
      cases addOk with
      | false =>
          rw [hrefused hadds]
          simp [hcomplete.1]
      | true =>
          obtain ⟨err, hrun, -⟩ := hadds
          have hcarries := @carriesFields_iff rt serializerType op bin entry
          constructor
          · rintro ⟨-, hfields⟩ _
            obtain ⟨added, hops, hadded⟩ := hfields hcomplete.1
            rw [hrun] at hops
            have hsame := List.append_inj_right hops rfl
            obtain rfl := List.cons.inj hsame |>.1
            exact ⟨hcomplete.2, hcarries.mp hadded, rfl, hclean⟩
          · intro hcondition
            refine ⟨by simp [hrun, hcomplete.1], fun _ => ⟨_, ?_, hcarries.mpr
              (hcondition hcomplete.1).2.1⟩⟩
            rw [hrun]
    · have hnone : mapEntryOp (readingAt s) rt serializerType op bin entry =
          none := by
        rw [Option.eq_none_iff_forall_ne_some]
        intro added hadded
        obtain ⟨hfields, hkeyed, -⟩ := (mapEntryOp_eq_some_iff hop).mp hadded
        exact hcomplete ⟨hfields, hkeyed⟩
      rw [hnone] at hadds
      rw [hrefused hadds]
      tauto
  · rw [hrefused (addMapOp_refused_of_error hclean addOk op bin entry)]
    tauto

/-- `[1, 'a']` as the items of a map. -/
def itemsAsList : HashTable :=
  [(.str "op", .long 1103), (.str "bin", .string "map"),
    (.str "val", .array (HashTable.ofValues [.long 1, .string "a"])),
    (.str "map_policy", .array [])]

theorem followsGrammar_iff_itemsAsList :
    FollowsGrammar Runtime.plain serializerPhp true .mapPutItems (some "map")
        itemsAsList ⟨.init, [], 0, 0⟩ ↔
      (FieldsComplete Runtime.plain serializerPhp .mapPutItems itemsAsList →
        ItemsKeyed .mapPutItems itemsAsList ∧
          ReturnTypeFits .mapPutItems itemsAsList ∧ true = true ∧
            AsError.init.code = .ok) :=
  followsGrammar_iff (by decide)

theorem itemsAsList_not_followsGrammar :
    ¬ FollowsGrammar Runtime.plain serializerPhp true .mapPutItems (some "map")
      itemsAsList ⟨.init, [], 0, 0⟩ := by
  have hcomplete :
      FieldsComplete Runtime.plain serializerPhp .mapPutItems itemsAsList := by
    refine ⟨by decide, by simp [mapOpFields], by simp [mapOpFields],
      by simp [mapOpFields], by simp [mapOpFields], fun _ => rfl,
      by simp [mapOpFields], by simp [mapOpFields], ?_⟩
    rintro kind ⟨⟩
    rfl
  rintro ⟨hstatus, -⟩
  have hok := hstatus.mpr hcomplete
  cases hok

end

end AerospikePhp
