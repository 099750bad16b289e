import AerospikePhp.OperateBatch
import Mathlib.Tactic

/-!
# Entries that mean the same to PHP and to C

The two readings of an entry give the same operation exactly when the op code
fits an `int`, no text that is read holds a NUL, a count is not negative and
the elements of a list convert.  A touch also needs a `ttl`, without which it
is not added at all.
-/

namespace AerospikePhp

open Procedure AddOp

section

variable {rt : Runtime} {operators : OperatorCodes}
variable {serializerType : SerializerType}

/-! ## Op codes -/

/-- The code of an operation. -/
def opCode (operators : OperatorCodes) : OpType → ℤ
  | .write => operators.write
  | .read => operators.read
  | .incr => operators.incr
  | .prepend => operators.prepend
  | .append => operators.append
  | .touch => operators.touch
  | .delete => operators.delete
  | op =>
      if op ∈ listOpTypes then 1001 + listOpTypes.idxOf op
      else 1101 + mapOpTypes.idxOf op

theorem opCode_of_listOp {op : OpType} {i : ℕ}
    (hop : listOpTypes[i]? = some op) : opCode operators op = 1001 + i := by
  obtain ⟨hi, hget⟩ := List.getElem?_eq_some_iff.mp hop
  have hidx : listOpTypes.idxOf op = i := by
    rw [← hget]
    exact List.Nodup.idxOf_getElem (by decide) i hi
  have hmem : op ∈ listOpTypes := hget ▸ List.getElem_mem hi
  have hcode : opCode operators op = 1001 + listOpTypes.idxOf op := by
    revert hmem
    cases op <;> simp [opCode, listOpTypes]
  rw [hcode, hidx]

theorem opCode_of_mapOp {op : OpType} {i : ℕ}
    (hop : mapOpTypes[i]? = some op) : opCode operators op = 1101 + i := by
  obtain ⟨hi, hget⟩ := List.getElem?_eq_some_iff.mp hop
  have hidx : mapOpTypes.idxOf op = i := by
    rw [← hget]
    exact List.Nodup.idxOf_getElem (by decide) i hi
  have hmem : op ∈ mapOpTypes := hget ▸ List.getElem_mem hi
  have hcode : opCode operators op = 1101 + mapOpTypes.idxOf op := by
    revert hmem
    cases op <;> simp [opCode, listOpTypes, mapOpTypes]
  rw [hcode, hidx]

theorem opTypeOf_eq_some {code : ℤ} {op : OpType}
    (hop : opTypeOf operators code = some op) : code = opCode operators op := by
  unfold opTypeOf at hop
  split_ifs at hop with h1 h2 h3 h4 h5 h6 h7 h8 h9
  iterate 7
    obtain rfl := Option.some.inj hop
    assumption
  · rw [opCode_of_listOp hop]
    omega
  · rw [opCode_of_mapOp hop]
    omega

/-- Two codes of one operation are equal. -/
theorem opTypeOf_injective {a b : ℤ} {op : OpType}
    (ha : opTypeOf operators a = some op)
    (hb : opTypeOf operators b = some op) : a = b :=
  (opTypeOf_eq_some ha).trans (opTypeOf_eq_some hb).symm

/-! ## Texts -/

/-- The entries read as text by an operation. -/
def textFields (op : OpType) : List String :=
  (if opRequiresBin (some op) then ["bin"] else []) ++
  (if op ∈ mapOpTypes then
    (if mapOpRequiresKey op then ["key"] else []) ++
    (if mapOpRequiresRangeEnd op then ["range_end"] else []) ++
    (if mapOpRequiresVal op then ["val"] else [])
  else if opRequiresAsVal (some op) ∨ op = .prepend ∨ op = .append then ["val"]
  else [])

/-- The text under this name, if there is one, holds no NUL. -/
def TextWhole (entry : HashTable) (name : String) : Prop :=
  ∀ s, entry.strFind name = some (.string s) → NulFree s

theorem entryBin_exact {op : OpType} {entry : HashTable}
    {bin : Option String} (hbin : entryBin (asC true) op entry = some bin) :
    entryBin asPhp op entry = some bin ↔
      (opRequiresBin (some op) = true → TextWhole entry "bin") := by
  unfold entryBin required at hbin ⊢
  unfold TextWhole
  cases hreq : opRequiresBin (some op) with
  | false =>
      rw [hreq] at hbin
      simpa using hbin
  | true =>
      rw [hreq] at hbin
      simp only [if_true] at hbin ⊢
      cases hfind : entry.strFind "bin" with
      | none => simp [hfind] at hbin
      | some z =>
          cases z with
          | string s =>
              by_cases hlen : strlen s > asBinNameMaxLen
              · simp [hfind, hlen] at hbin
              · simp only [hfind, hlen, if_false, Option.map_some,
                  Option.some.injEq, asC] at hbin
                simp only [hlen, if_false, Option.map_some, Option.some.injEq,
                  ← hbin, asPhp, id_eq, Zval.string.injEq, forall_const]
                constructor
                · rintro heq s rfl
                  exact (cString_eq_self_iff s).mp heq.symm
                · exact fun h => ((cString_eq_self_iff s).mpr (h s rfl)).symm
          | undef | null | bool _ | long _ | double _ | array _ | object _ _
          | resource | reference _ => simp [hfind] at hbin

theorem entryAsVal_exact {entry : HashTable} {name : String} {v : AsVal}
    (hval : entryAsVal (asC true) rt serializerType entry name = some v) :
    entryAsVal asPhp rt serializerType entry name = some v ↔
      TextWhole entry name := by
  unfold entryAsVal at hval ⊢
  unfold TextWhole
  cases hfind : entry.strFind name with
  | none => simp [hfind] at hval
  | some z =>
      rw [hfind, Option.bind_some] at hval
      rw [Option.bind_some]
      cases z with
      | string s =>
          simp only [readVal, asC, Option.some.injEq] at hval
          simp only [readVal, asPhp, id_eq, ← hval, Option.some.injEq,
            AsVal.string.injEq, Zval.string.injEq]
          constructor
          · rintro heq s rfl
            exact (cString_eq_self_iff s).mp heq.symm
          · exact fun h => ((cString_eq_self_iff s).mpr (h s rfl)).symm
      | undef | null | bool _ | long _ | double _ | array _ | object _ _
      | resource | reference _ =>
          simp only [readVal] at hval ⊢
          simp [hval]

theorem required_exact {α : Type} {needed : Bool} {value value' : Option α}
    {result : Option α} (hvalue : required needed value = some result)
    {P : Prop} (hexact : ∀ v, value = some v → (value' = some v ↔ P)) :
    required needed value' = some result ↔ (needed = true → P) := by
  unfold required at hvalue ⊢
  cases needed with
  | false => simpa using hvalue
  | true =>
      cases hv : value with
      | none => simp [hv] at hvalue
      | some v =>
          simp only [hv, if_true, Option.map_some, Option.some.injEq] at hvalue
          subst hvalue
          simpa using hexact v hv

/-! ## Scalar and list operations -/

/-- The value and count arguments of a scalar or list operation. -/
def entryArgument (reading : Reading) (rt : Runtime)
    (serializerType : SerializerType) (op : OpType) (entry : HashTable) :
    Option (OpValue × Option ℤ) :=
  (valueEntryOp reading rt serializerType op none none entry).map fun added =>
    (added.value, added.count)

theorem valueEntryOp_eq (reading : Reading) (op : OpType) (bin : Option String)
    (index : Option Int64) (entry : HashTable) :
    valueEntryOp reading rt serializerType op bin index entry =
      (entryArgument reading rt serializerType op entry).map fun arg =>
        { op, bin, index, value := arg.1, count := arg.2 } := by
  unfold entryArgument
  cases op <;> simp only [valueEntryOp, Option.map_map, Option.map_none,
    Option.map_some] <;> try rfl
  all_goals
    split
    · try split
      all_goals simp [Function.comp_def]
    · simp

/-- The conditions on the `val` entry of a scalar or list operation. -/
structure ValExact (rt : Runtime) (serializerType : SerializerType)
    (op : OpType) (entry : HashTable) : Prop where
  text : opRequiresAsVal (some op) = true ∨ op = .prepend ∨ op = .append →
    TextWhole entry "val"
  count : opRequiresLongVal (some op) = true → ∀ n,
    entry.strFind "val" = some (.long n) → 0 ≤ n.toInt
  items : opRequiresListVal (some op) = true → ∀ entries,
    entry.strFind "val" = some (.array entries) →
      (encodeItems rt serializerType entries).isSome

theorem valExact_of_text {op : OpType} {entry : HashTable}
    (hop : opRequiresAsVal (some op) = true ∨ op = .prepend ∨ op = .append)
    (hlong : opRequiresLongVal (some op) = false)
    (hlist : opRequiresListVal (some op) = false) :
    ValExact rt serializerType op entry ↔ TextWhole entry "val" :=
  ⟨fun h => h.text hop, fun h =>
    ⟨fun _ => h, by simp [hlong], by simp [hlist]⟩⟩

theorem entryArgument_asVal {reading : Reading} {op : OpType}
    {entry : HashTable} (hop : opRequiresAsVal (some op) = true) :
    entryArgument reading rt serializerType op entry =
      (entryAsVal reading rt serializerType entry "val").map fun v =>
        (.asVal (some v), none) := by
  unfold entryArgument entryAsVal
  revert hop
  cases op <;>
    simp [opRequiresAsVal, valueEntryOp, Function.comp_def, Option.map_bind]

theorem entryArgument_text {reading : Reading} {op : OpType}
    {entry : HashTable} (hop : op = .prepend ∨ op = .append) :
    entryArgument reading rt serializerType op entry =
      match entry.strFind "val" with
      | some (.string s) => some (.string (reading.text s), none)
      | _ => none := by
  unfold entryArgument
  rcases hop with rfl | rfl
  all_goals
    simp only [valueEntryOp]
    cases entry.strFind "val" with
    | none => rfl
    | some z => cases z <;> rfl

theorem entryArgument_items {reading : Reading} {op : OpType}
    {entry : HashTable} (hop : opRequiresListVal (some op) = true) :
    entryArgument reading rt serializerType op entry =
      match entry.strFind "val" with
      | some (.array entries) =>
          if HashTable.hashtableIsList entries then
            (reading.items (encodeItems rt serializerType entries)).map
              fun items => (.list items, none)
          else none
      | _ => none := by
  unfold entryArgument
  revert hop
  cases op <;> simp only [opRequiresListVal, valueEntryOp] <;>
    intro hop <;> try simp at hop
  all_goals
    cases entry.strFind "val" with
    | none => rfl
    | some z =>
        cases z with
        | array entries =>
            by_cases hkeys : HashTable.hashtableIsList entries
            · simp [hkeys, Function.comp_def]
            · simp [hkeys]
        | undef | null | bool _ | long _ | double _ | string _ | object _ _
        | resource | reference _ => rfl

theorem entryArgument_range {reading : Reading} {op : OpType}
    {entry : HashTable} (hop : opRequiresLongVal (some op) = true) :
    entryArgument reading rt serializerType op entry =
      match entry.strFind "val" with
      | some (.long n) => some (.absent, some (reading.count n))
      | _ => none := by
  unfold entryArgument
  revert hop
  cases op <;> simp only [opRequiresLongVal, valueEntryOp] <;>
    intro hop <;> try simp at hop
  all_goals
    cases entry.strFind "val" with
    | none => rfl
    | some z => cases z <;> rfl

theorem entryArgument_exact_text {op : OpType} {entry : HashTable}
    {arg : OpValue × Option ℤ} (hop : op = .prepend ∨ op = .append)
    (harg : entryArgument (asC true) rt serializerType op entry = some arg) :
    entryArgument asPhp rt serializerType op entry = some arg ↔
      TextWhole entry "val" := by
  rw [entryArgument_text hop] at harg ⊢
  unfold TextWhole
  split at harg
  · next s hfind =>
      obtain rfl := Option.some.inj harg
      simp only [hfind, asC, asPhp, id_eq, Option.some.injEq, Prod.mk.injEq,
        OpValue.string.injEq, and_true, Zval.string.injEq]
      constructor
      · rintro heq s rfl
        exact (cString_eq_self_iff s).mp heq.symm
      · exact fun h => ((cString_eq_self_iff s).mpr (h s rfl)).symm
  · simp at harg

theorem entryArgument_exact_items {op : OpType} {entry : HashTable}
    {arg : OpValue × Option ℤ} (hop : opRequiresListVal (some op) = true)
    (harg : entryArgument (asC true) rt serializerType op entry = some arg) :
    entryArgument asPhp rt serializerType op entry = some arg ↔
      ∀ entries, entry.strFind "val" = some (.array entries) →
        (encodeItems rt serializerType entries).isSome := by
  rw [entryArgument_items hop] at harg ⊢
  split at harg
  · next entries hfind =>
      by_cases hkeys : HashTable.hashtableIsList entries
      · simp only [hkeys, if_true, asC, Option.map_some,
          Option.some.injEq] at harg
        subst harg
        simp only [hfind, hkeys, if_true, asPhp, Option.map_map,
          Option.some.injEq, Zval.array.injEq, forall_eq']
        cases encodeItems rt serializerType entries <;> simp
      · simp [hkeys] at harg
  · simp at harg

theorem entryArgument_exact_range {op : OpType} {entry : HashTable}
    {arg : OpValue × Option ℤ} (hop : opRequiresLongVal (some op) = true)
    (harg : entryArgument (asC true) rt serializerType op entry = some arg) :
    entryArgument asPhp rt serializerType op entry = some arg ↔
      ∀ n, entry.strFind "val" = some (.long n) → 0 ≤ n.toInt := by
  rw [entryArgument_range hop] at harg ⊢
  split at harg
  · next n hfind =>
      obtain rfl := Option.some.inj harg
      simp only [hfind, asC, asPhp, Option.some.injEq, Prod.mk.injEq, true_and,
        Zval.long.injEq, forall_eq']
      rw [eq_comm]
      exact toUint64_eq_iff n
  · simp at harg

/-- An argument means the same in both readings exactly when the `val` entry
meets its conditions. -/
theorem entryArgument_exact {op : OpType} {entry : HashTable}
    {arg : OpValue × Option ℤ}
    (harg : entryArgument (asC true) rt serializerType op entry = some arg) :
    entryArgument asPhp rt serializerType op entry = some arg ↔
      ValExact rt serializerType op entry := by
  by_cases hasVal : opRequiresAsVal (some op) = true
  · have hlong : opRequiresLongVal (some op) = false := by
      revert hasVal
      cases op <;> decide
    have hlist : opRequiresListVal (some op) = false := by
      revert hasVal
      cases op <;> decide
    rw [valExact_of_text (Or.inl hasVal) hlong hlist]
    rw [entryArgument_asVal hasVal] at harg ⊢
    obtain ⟨v, hv, rfl⟩ := Option.map_eq_some_iff.mp harg
    rw [← entryAsVal_exact hv, Option.map_eq_some_iff]
    simp
  · by_cases htext : op = .prepend ∨ op = .append
    · have hexact := @valExact_of_text rt serializerType _ entry (Or.inr htext)
          (by rcases htext with rfl | rfl <;> rfl)
          (by rcases htext with rfl | rfl <;> rfl)
      rw [hexact]
      exact entryArgument_exact_text htext harg
    · have hnotext : ¬ (opRequiresAsVal (some op) = true ∨ op = .prepend ∨
          op = .append) := not_or.mpr ⟨hasVal, htext⟩
      by_cases hlist : opRequiresListVal (some op) = true
      · have hlong : opRequiresLongVal (some op) = false := by
          revert hlist
          cases op <;> decide
        rw [entryArgument_exact_items hlist harg]
        exact ⟨fun h => ⟨fun ht => absurd ht hnotext, by simp [hlong],
          fun _ => h⟩, fun h => h.items hlist⟩
      · by_cases hlong : opRequiresLongVal (some op) = true
        · rw [entryArgument_exact_range hlong harg]
          exact ⟨fun h => ⟨fun ht => absurd ht hnotext, fun _ => h,
            fun hl => absurd hl hlist⟩, fun h => h.count hlong⟩
        · have hsame : entryArgument asPhp rt serializerType op entry =
              entryArgument (asC true) rt serializerType op entry := by
            unfold entryArgument
            revert hasVal htext hlist hlong
            cases op <;>
              simp [opRequiresAsVal, opRequiresListVal, opRequiresLongVal,
                valueEntryOp]
          rw [hsame]
          exact ⟨fun _ => ⟨fun ht => absurd ht hnotext,
            fun hl => absurd hl hlong, fun hl => absurd hl hlist⟩,
            fun _ => harg⟩

/-! ## Map operations -/

theorem entryMapArgs_eq_some {reading : Reading} {op : OpType}
    {entry : HashTable} {args : MapOpArgs} :
    entryMapArgs reading rt serializerType op entry = some args ↔
      required (mapOpRequiresCount op) (entryCount entry) = some args.count ∧
      required (mapOpRequiresIndex op) (longEntry entry "index") =
        some args.index ∧
      required (mapOpRequiresRank op) (longEntry entry "rank") =
        some args.rank ∧
      required (mapOpRequiresReturnType op)
        ((longEntry entry "return_type").map toUint32) =
        some args.returnType ∧
      required (mapOpRequiresMapPolicy op)
        ((entry.strFind "map_policy").bind zvalToAsPolicyMap) =
        some args.mapPolicy ∧
      required (mapOpRequiresKey op)
        (entryAsVal reading rt serializerType entry "key") = some args.key ∧
      required (mapOpRequiresRangeEnd op)
        (entryAsVal reading rt serializerType entry "range_end") =
        some args.rangeEnd ∧
      required (mapOpRequiresVal op)
        (entryAsVal reading rt serializerType entry "val") = some args.val := by
  obtain ⟨count, index, rank, returnType, mapPolicy, key, rangeEnd, val⟩ := args
  unfold entryMapArgs
  simp only [bind, pure, Option.bind_eq_some_iff, Option.some.injEq,
    MapOpArgs.mk.injEq]
  constructor
  · rintro ⟨_, h1, _, h2, _, h3, _, h4, _, h5, _, h6, _, h7, _, h8,
      rfl, rfl, rfl, rfl, rfl, rfl, rfl, rfl⟩
    exact ⟨h1, h2, h3, h4, h5, h6, h7, h8⟩
  · rintro ⟨h1, h2, h3, h4, h5, h6, h7, h8⟩
    exact ⟨_, h1, _, h2, _, h3, _, h4, _, h5, _, h6, _, h7, _, h8,
      rfl, rfl, rfl, rfl, rfl, rfl, rfl, rfl⟩

/-- A map operation shows its bin and the values that it requires. -/
theorem mapOperation_injective {op : OpType} (hop : op ∈ mapOpTypes)
    {bin bin' : Option String} {args args' : MapOpArgs}
    (hsame : mapOperation op bin args = mapOperation op bin' args') :
    bin = bin' ∧ (mapOpRequiresKey op = true → args.key = args'.key) ∧
      (mapOpRequiresRangeEnd op = true → args.rangeEnd = args'.rangeEnd) ∧
      (mapOpRequiresVal op = true → args.val = args'.val) := by
  revert hop hsame
  cases op <;>
    simp +contextual [mapOperation, mapOpTypes, mapOpRequiresKey,
      mapOpRequiresRangeEnd, mapOpRequiresVal]

/-- The conditions on the values of a map operation. -/
structure MapValuesExact (op : OpType) (entry : HashTable) : Prop where
  key : mapOpRequiresKey op = true → TextWhole entry "key"
  rangeEnd : mapOpRequiresRangeEnd op = true → TextWhole entry "range_end"
  val : mapOpRequiresVal op = true → TextWhole entry "val"

theorem required_eq_of {α : Type} {needed : Bool} {value value' : Option α}
    {result result' : Option α} (hvalue : required needed value = some result)
    (hvalue' : required needed value' = some result')
    (hsame : needed = true → result = result') :
    required needed value' = some result := by
  cases needed with
  | false =>
      rw [required_eq_none hvalue]
      rw [required_eq_none hvalue'] at hvalue'
      exact hvalue'
  | true =>
      rw [hsame rfl]
      exact hvalue'

theorem mapEntryOp_exact {op : OpType} (hop : op ∈ mapOpTypes)
    {bin bin' : Option String} {entry : HashTable} {added : Operation}
    (hadded : mapEntryOp (asC true) rt serializerType op bin entry =
      some added) :
    mapEntryOp asPhp rt serializerType op bin' entry = some added ↔
      bin' = bin ∧ MapValuesExact op entry := by
  unfold mapEntryOp at hadded ⊢
  cases hargs : entryMapArgs (asC true) rt serializerType op entry with
  | none => simp [hargs] at hadded
  | some args =>
      simp only [hargs] at hadded
      split at hadded
      case isFalse => simp at hadded
      case isTrue hcheck =>
      obtain rfl := Option.some.inj hadded
      obtain ⟨h1, h2, h3, h4, h5, hkey, hend, hval⟩ :=
        entryMapArgs_eq_some.mp hargs
      have hkeyExact := required_exact hkey fun v => entryAsVal_exact (v := v)
      have hendExact := required_exact hend fun v => entryAsVal_exact (v := v)
      have hvalExact := required_exact hval fun v => entryAsVal_exact (v := v)
      constructor
      · cases hphp : entryMapArgs asPhp rt serializerType op entry with
        | none => simp
        | some args' =>
            simp only
            split
            case isFalse => simp
            case isTrue =>
            intro hsame
            obtain ⟨hbin, hkeys, hends, hvals⟩ :=
              mapOperation_injective hop (Option.some.inj hsame)
            obtain ⟨-, -, -, -, -, hkey', hend', hval'⟩ :=
              entryMapArgs_eq_some.mp hphp
            exact ⟨hbin,
              hkeyExact.mp (required_eq_of hkey hkey' fun h => (hkeys h).symm),
              hendExact.mp (required_eq_of hend hend' fun h => (hends h).symm),
              hvalExact.mp (required_eq_of hval hval' fun h => (hvals h).symm)⟩
      · rintro ⟨rfl, hexact⟩
        have hphp : entryMapArgs asPhp rt serializerType op entry = some args :=
          entryMapArgs_eq_some.mpr ⟨h1, h2, h3, h4, h5,
            hkeyExact.mpr hexact.key, hendExact.mpr hexact.rangeEnd,
            hvalExact.mpr hexact.val⟩
        simp [hphp, hcheck]

/-! ## An entry -/

/-- The conditions on the entries that an operation reads. -/
structure FieldsExact (rt : Runtime) (serializerType : SerializerType)
    (op : OpType) (entry : HashTable) : Prop where
  text : ∀ name ∈ textFields op, TextWhole entry name
  count : opRequiresLongVal (some op) = true → ∀ n,
    entry.strFind "val" = some (.long n) → 0 ≤ n.toInt
  items : opRequiresListVal (some op) = true → ∀ entries,
    entry.strFind "val" = some (.array entries) →
      (encodeItems rt serializerType entries).isSome

/-- The conditions under which an entry means the same to PHP and to C, and is
added. -/
structure EntryExact (rt : Runtime) (serializerType : SerializerType)
    (addOk : Bool) (code : Int64) (op : OpType) (entry : HashTable) : Prop where
  code : toInt32 code = code.toInt
  fields : op ≠ .touch → FieldsExact rt serializerType op entry
  touch : op = .touch → addOk = true ∧ (longEntry entry "ttl").isSome

theorem fieldsExact_map {op : OpType} (hop : op ∈ mapOpTypes)
    {entry : HashTable} :
    FieldsExact rt serializerType op entry ↔
      (opRequiresBin (some op) = true → TextWhole entry "bin") ∧
        MapValuesExact op entry := by
  have hlong : opRequiresLongVal (some op) = false := by
    revert hop
    cases op <;> decide
  have hlist : opRequiresListVal (some op) = false := by
    revert hop
    cases op <;> decide
  constructor
  · intro h
    refine ⟨fun hreq => h.text _ (by simp [textFields, hreq]), ?_, ?_, ?_⟩
    all_goals exact fun hreq => h.text _ (by simp [textFields, hop, hreq])
  · rintro ⟨hbin, hvals⟩
    refine ⟨fun name hname => ?_, by simp [hlong], by simp [hlist]⟩
    simp only [textFields, hop, if_true, List.mem_append] at hname
    rcases hname with hname | (hname | hname) | hname
    all_goals
      split at hname
      case isFalse => simp at hname
      case isTrue hreq =>
        obtain rfl := List.mem_singleton.mp hname
        first
          | exact hbin hreq | exact hvals.key hreq
          | exact hvals.rangeEnd hreq | exact hvals.val hreq

theorem fieldsExact_value {op : OpType} (hop : op ∉ mapOpTypes)
    {entry : HashTable} :
    FieldsExact rt serializerType op entry ↔
      (opRequiresBin (some op) = true → TextWhole entry "bin") ∧
        ValExact rt serializerType op entry := by
  constructor
  · intro h
    exact ⟨fun hreq => h.text _ (by simp [textFields, hreq]),
      fun htext => h.text _ (by simp [textFields, hop, htext]), h.count,
      h.items⟩
  · rintro ⟨hbin, hval⟩
    refine ⟨fun name hname => ?_, hval.count, hval.items⟩
    simp only [textFields, hop, if_false, List.mem_append] at hname
    rcases hname with hname | hname
    · split at hname
      · next hreq =>
          obtain rfl := List.mem_singleton.mp hname
          exact hbin hreq
      · simp at hname
    · split at hname
      · next htext =>
          obtain rfl := List.mem_singleton.mp hname
          exact hval.text htext
      · simp at hname

/-- An entry, once its op code is known not to be a touch. -/
def fieldsOp (reading : Reading) (rt : Runtime)
    (serializerType : SerializerType) (op : OpType) (entry : HashTable) :
    Option Operation :=
  (entryBin reading op entry).bind fun bin =>
    (entryIndex op entry).bind fun index =>
      if op ∈ mapOpTypes then mapEntryOp reading rt serializerType op bin entry
      else valueEntryOp reading rt serializerType op bin index entry

theorem entryOp_of_code {reading : Reading} {entry : HashTable} {code : Int64}
    (hcode : longEntry entry "op" = some code) :
    entryOp reading rt operators serializerType entry =
      (opTypeOf operators (reading.code code)).bind fun op =>
        if op = .touch then touchEntryOp entry
        else fieldsOp reading rt serializerType op entry := by
  unfold entryOp
  rw [hcode]
  rfl

theorem mapOperation_op (op : OpType) (bin : Option String)
    (args : MapOpArgs) : (mapOperation op bin args).op = op := by
  unfold mapOperation
  split <;> rfl

theorem fieldsOp_op {reading : Reading} {op : OpType} {entry : HashTable}
    {added : Operation}
    (hadded : fieldsOp reading rt serializerType op entry = some added) :
    added.op = op := by
  obtain ⟨bin, -, hadded⟩ := Option.bind_eq_some_iff.mp hadded
  obtain ⟨index, -, hadded⟩ := Option.bind_eq_some_iff.mp hadded
  split at hadded
  · unfold mapEntryOp at hadded
    split at hadded
    · simp at hadded
    · split at hadded
      · obtain rfl := Option.some.inj hadded
        exact mapOperation_op ..
      · simp at hadded
  · rw [valueEntryOp_eq] at hadded
    obtain ⟨arg, -, rfl⟩ := Option.map_eq_some_iff.mp hadded
    rfl

theorem touchEntryOp_op {entry : HashTable} {added : Operation}
    (hadded : touchEntryOp entry = some added) : added.op = .touch := by
  unfold touchEntryOp at hadded
  split at hadded
  · obtain rfl := Option.some.inj hadded
    rfl
  · obtain rfl := Option.some.inj hadded
    rfl
  · simp at hadded

theorem fieldsOp_exact {op : OpType} {entry : HashTable} {added : Operation}
    (hadded : fieldsOp (asC true) rt serializerType op entry = some added) :
    fieldsOp asPhp rt serializerType op entry = some added ↔
      FieldsExact rt serializerType op entry := by
  obtain ⟨bin, hbin, hadded⟩ := Option.bind_eq_some_iff.mp hadded
  obtain ⟨index, hindex, hadded⟩ := Option.bind_eq_some_iff.mp hadded
  unfold fieldsOp
  rw [hindex]
  by_cases hmap : op ∈ mapOpTypes
  · rw [if_pos hmap] at hadded
    simp only [Option.bind_some, if_pos hmap]
    rw [fieldsExact_map hmap, ← entryBin_exact hbin,
      Option.bind_eq_some_iff]
    constructor
    · rintro ⟨bin', hbin', hphp⟩
      obtain ⟨rfl, hvals⟩ := (mapEntryOp_exact hmap hadded).mp hphp
      exact ⟨hbin', hvals⟩
    · rintro ⟨hbin', hvals⟩
      exact ⟨bin, hbin', (mapEntryOp_exact hmap hadded).mpr ⟨rfl, hvals⟩⟩
  · rw [if_neg hmap, valueEntryOp_eq] at hadded
    obtain ⟨arg, harg, rfl⟩ := Option.map_eq_some_iff.mp hadded
    simp only [Option.bind_some, if_neg hmap, valueEntryOp_eq]
    rw [fieldsExact_value hmap, ← entryBin_exact hbin,
      ← entryArgument_exact harg, Option.bind_eq_some_iff]
    constructor
    · rintro ⟨bin', hbin', hphp⟩
      obtain ⟨arg', harg', hsame⟩ := Option.map_eq_some_iff.mp hphp
      injection hsame with _ hbins hvalue _ hcount
      subst hbins
      exact ⟨hbin', harg'.trans (congrArg some (Prod.ext hvalue hcount))⟩
    · rintro ⟨hbin', harg'⟩
      exact ⟨bin, hbin', Option.map_eq_some_iff.mpr ⟨arg, harg', rfl⟩⟩

/-- An operation that is added is the one the program asked for exactly when
the entry is exact. -/
theorem entryOp_exact {entry : HashTable} {code : Int64} {op : OpType}
    (hcode : longEntry entry "op" = some code)
    (hop : opTypeOf operators (toInt32 code) = some op) {added : Operation}
    (hadded : entryOp (asC true) rt operators serializerType entry =
      some added) :
    entryOp asPhp rt operators serializerType entry = some added ↔
      toInt32 code = code.toInt ∧
        (op ≠ .touch → FieldsExact rt serializerType op entry) := by
  rw [entryOp_of_code hcode] at hadded ⊢
  rw [show (asC true).code code = toInt32 code from rfl, hop,
    Option.bind_some] at hadded
  have hkind : added.op = op := by
    split at hadded
    · next htouch => rw [touchEntryOp_op hadded, htouch]
    · exact fieldsOp_op hadded
  have hsame : toInt32 code = code.toInt → ((opTypeOf operators
      (asPhp.code code)).bind fun op =>
        if op = .touch then touchEntryOp entry
        else fieldsOp asPhp rt serializerType op entry) =
      if op = .touch then touchEntryOp entry
      else fieldsOp asPhp rt serializerType op entry := by
    intro hexact
    rw [show asPhp.code code = code.toInt from rfl, ← hexact, hop,
      Option.bind_some]
  constructor
  · intro hphp
    have hexact : toInt32 code = code.toInt := by
      obtain ⟨op', hop', hrest⟩ := Option.bind_eq_some_iff.mp hphp
      have hkind' : added.op = op' := by
        split at hrest
        · next htouch => rw [touchEntryOp_op hrest, htouch]
        · exact fieldsOp_op hrest
      obtain rfl : op = op' := hkind.symm.trans hkind'
      exact opTypeOf_injective hop hop'
    refine ⟨hexact, fun htouch => ?_⟩
    rw [hsame hexact, if_neg htouch] at hphp
    rw [if_neg htouch] at hadded
    exact (fieldsOp_exact hadded).mp hphp
  · rintro ⟨hexact, hfields⟩
    rw [hsame hexact]
    split
    · next htouch => rwa [if_pos htouch] at hadded
    · next htouch =>
        rw [if_neg htouch] at hadded
        exact (fieldsOp_exact hadded).mpr (hfields htouch)

theorem touchEntryOp_eq_some {entry : HashTable} {added : Operation}
    (hadded : touchEntryOp entry = some added) : added = { op := .touch } := by
  unfold touchEntryOp at hadded
  split at hadded
  · exact (Option.some.inj hadded).symm
  · exact (Option.some.inj hadded).symm
  · simp at hadded

theorem contribution_touch {clean addOk : Bool} {entry : HashTable}
    (hop : entryOpType operators entry = some .touch) :
    contribution rt operators serializerType clean addOk entry =
      if addOk = true ∧ (longEntry entry "ttl").isSome then [{ op := .touch }]
      else [] := by
  unfold contribution longEntry
  rw [if_pos hop]
  cases entry.strFind "ttl" with
  | none => simp
  | some z => cases z <;> simp

/-- What an accepted entry adds is the operation it asks for exactly when the
entry is exact. -/
theorem contribution_exact {addOk : Bool} {entry : HashTable} {code : Int64}
    {op : OpType} (hcode : longEntry entry "op" = some code)
    (hop : opTypeOf operators (toInt32 code) = some op)
    (hnot : ¬ EntryRefused rt operators serializerType true addOk entry) :
    (∃ added, contribution rt operators serializerType true addOk entry =
        [added] ∧
      entryOp asPhp rt operators serializerType entry = some added) ↔
      EntryExact rt serializerType addOk code op entry := by
  have htype : entryOpType operators entry = some op := by
    simp [entryOpType, hcode, hop]
  have hentry := @entryOp_of_code rt operators serializerType (asC true) _ _
    hcode
  rw [show (asC true).code code = toInt32 code from rfl, hop,
    Option.bind_some] at hentry
  have hexact := @entryOp_exact rt operators serializerType entry code op
    hcode hop
  by_cases htouch : op = .touch
  · subst htouch
    simp only [EntryRefused, htype] at hnot
    obtain ⟨added, hadded⟩ := Option.ne_none_iff_exists'.mp hnot
    obtain rfl := touchEntryOp_eq_some hadded
    rw [if_pos rfl, hadded] at hentry
    rw [contribution_touch htype]
    constructor
    · rintro ⟨added, hone, hphp⟩
      split at hone
      · next hadd =>
          obtain rfl := List.singleton_inj.mp hone
          exact ⟨((hexact hentry).mp hphp).1, fun h => absurd rfl h,
            fun _ => hadd⟩
      · simp at hone
    · intro h
      rw [if_pos (h.touch rfl)]
      exact ⟨_, rfl, (hexact hentry).mpr ⟨h.code, h.fields⟩⟩
  · rw [contribution, if_neg (by simpa [htype] using htouch)]
    have hsome : entryOp (asC true) rt operators serializerType entry ≠ none := by
      intro hnone
      apply hnot
      unfold EntryRefused
      rw [htype]
      cases op <;> simp_all
    obtain ⟨added, hadded⟩ := Option.ne_none_iff_exists'.mp hsome
    rw [hadded]
    constructor
    · rintro ⟨_, hone, hphp⟩
      obtain rfl := List.singleton_inj.mp hone
      have hboth := (hexact hadded).mp hphp
      exact ⟨hboth.1, hboth.2, fun h => absurd h htouch⟩
    · intro h
      exact ⟨added, rfl, (hexact hadded).mpr ⟨h.code, h.fields⟩⟩

/-! ## The batch -/

/-- The operation that an element of the operations array asks for. -/
def askedOperation (rt : Runtime) (operators : OperatorCodes)
    (serializerType : SerializerType) (z : Zval) : Option Operation :=
  match z with
  | .array entry => entryOp asPhp rt operators serializerType entry
  | _ => none

/-- One operation for each element, in order, and the one it asks for. -/
def BatchFaithful (rt : Runtime) (operators : OperatorCodes)
    (serializerType : SerializerType) (elements : List Zval)
    (ops : List Operation) : Prop :=
  List.Forall₂
    (fun z op => askedOperation rt operators serializerType z = some op)
    elements ops

/-- Every entry of the batch is exact. -/
def BatchExact (rt : Runtime) (operators : OperatorCodes)
    (serializerType : SerializerType) (batch : Batch) : Prop :=
  ∀ element ∈ batch, ∀ entry code op, element.1.2 = .array entry →
    longEntry entry "op" = some code →
    opTypeOf operators (toInt32 code) = some op →
    EntryExact rt serializerType element.2 code op entry

theorem forall₂_flatten {α β : Type} {R : α → β → Prop} {elements : List α}
    {blocks : List (List β)} (hlength : blocks.length = elements.length)
    (hshort : ∀ block ∈ blocks, block.length ≤ 1) :
    List.Forall₂ R elements blocks.flatten ↔
      List.Forall₂ (fun x block => ∃ y, block = [y] ∧ R x y) elements
        blocks := by
  induction blocks generalizing elements with
  | nil =>
      obtain rfl := List.length_eq_zero_iff.mp hlength.symm
      simp
  | cons block blocks ih =>
      obtain ⟨x, elements, rfl⟩ := List.exists_cons_of_length_eq_add_one
        hlength.symm
      have hlength' : blocks.length = elements.length := by
        simpa using hlength
      have hshort' : ∀ block ∈ blocks, block.length ≤ 1 :=
        fun b hb => hshort b (List.mem_cons_of_mem _ hb)
      match block, hshort block List.mem_cons_self with
      | [], _ =>
          -- the blocks that are left are too short for the elements
          have htotal : blocks.flatten.length ≤ blocks.length := by
            rw [List.length_flatten]
            simpa using List.sum_le_card_nsmul (blocks.map List.length) 1
              (by simpa using hshort')
          constructor
          · intro hall
            have heq := hall.length_eq
            simp only [List.flatten_cons, List.nil_append,
              List.length_cons] at heq
            omega
          · simp
      | [y], _ => simp [ih hlength' hshort']

theorem length_contributions (clean : Bool) (batch : Batch) :
    (contributions rt operators serializerType clean batch).length =
      batch.length := by
  induction batch generalizing clean with
  | nil => rfl
  | cons head rest ih =>
      obtain ⟨⟨key, z⟩, addOk⟩ := head
      cases z <;> simp [contributions, ih]

theorem contribution_short (clean addOk : Bool) (entry : HashTable) :
    (contribution rt operators serializerType clean addOk entry).length ≤ 1 := by
  unfold contribution
  split
  · split
    · split <;> simp
    · simp
  · cases entryOp (asC clean) rt operators serializerType entry <;> simp

theorem contributions_short (clean : Bool) (batch : Batch) :
    ∀ block ∈ contributions rt operators serializerType clean batch,
      block.length ≤ 1 := by
  induction batch generalizing clean with
  | nil => simp [contributions]
  | cons head rest ih =>
      obtain ⟨⟨key, z⟩, addOk⟩ := head
      cases z with
      | array entry =>
          rw [contributions, List.forall_mem_cons]
          exact ⟨contribution_short clean addOk entry, ih _⟩
      | undef | null | bool _ | long _ | double _ | string _ | object _ _
      | resource | reference _ =>
          rw [contributions, List.forall_mem_cons]
          · exact ⟨by simp, ih _⟩
          · simp

theorem entryArgument_asPhp_list {op : OpType} {entry : HashTable}
    {arg : OpValue × Option ℤ}
    (harg : entryArgument asPhp rt serializerType op entry = some arg) :
    arg.1 ≠ .list none := by
  unfold entryArgument at harg
  obtain ⟨added, hadded, rfl⟩ := Option.map_eq_some_iff.mp harg
  cases op with
  | listMerge | listInsertItems =>
      simp only [valueEntryOp] at hadded
      split at hadded
      case h_2 => simp at hadded
      case h_1 entries _ =>
      split at hadded
      case isFalse => simp at hadded
      case isTrue =>
      obtain ⟨items, hitems, rfl⟩ := Option.map_eq_some_iff.mp hadded
      obtain ⟨_, -, rfl⟩ := Option.map_eq_some_iff.mp hitems
      simp
  | incr =>
      obtain ⟨value, hvalue, rfl⟩ := Option.map_eq_some_iff.mp hadded
      have hlist := incrValue_not_list _ value hvalue .incr none none
      rintro hnull
      simp only at hnull
      rw [hnull] at hlist
      simp [Operation.nullList] at hlist
  | write | listAppend | listInsert | listSet =>
      obtain ⟨value, -, rfl⟩ := Option.map_eq_some_iff.mp hadded
      simp
  | prepend | append | listPopRange | listRemoveRange | listGetRange
  | listTrim =>
      simp only [valueEntryOp] at hadded
      split at hadded
      · obtain rfl := Option.some.inj hadded
        simp
      · simp at hadded
  | read | delete | listClear | listSize | listPop | listRemove | listGet =>
      obtain rfl := Option.some.inj hadded
      simp
  | touch | mapSetPolicy | mapPut | mapPutItems | mapIncrement | mapDecrement
  | mapSize | mapClear | mapRemoveByKey | mapRemoveByKeyList
  | mapRemoveByKeyRange | mapRemoveByValue | mapRemoveByValueList
  | mapRemoveByValueRange | mapRemoveByIndex | mapRemoveByIndexRange
  | mapRemoveByRank | mapRemoveByRankRange | mapGetByKey | mapGetByKeyRange
  | mapGetByValue | mapGetByValueRange | mapGetByIndex | mapGetByIndexRange
  | mapGetByRank | mapGetByRankRange => simp [valueEntryOp] at hadded

/-- An operation that the program asked for has no NULL list. -/
theorem entryOp_asPhp_nullList {entry : HashTable} {added : Operation}
    (hadded : entryOp asPhp rt operators serializerType entry = some added) :
    added.nullList = false := by
  cases hcode : longEntry entry "op" with
  | none => simp [entryOp, hcode] at hadded
  | some code =>
      rw [entryOp_of_code hcode] at hadded
      obtain ⟨op, -, hadded⟩ := Option.bind_eq_some_iff.mp hadded
      split at hadded
      · obtain rfl := touchEntryOp_eq_some hadded
        rfl
      · obtain ⟨bin, -, hadded⟩ := Option.bind_eq_some_iff.mp hadded
        obtain ⟨index, -, hadded⟩ := Option.bind_eq_some_iff.mp hadded
        split at hadded
        · unfold mapEntryOp at hadded
          split at hadded
          · simp at hadded
          · split at hadded
            · obtain rfl := Option.some.inj hadded
              exact mapOperation_nullList ..
            · simp at hadded
        · rw [valueEntryOp_eq] at hadded
          obtain ⟨arg, harg, rfl⟩ := Option.map_eq_some_iff.mp hadded
          have hlist := entryArgument_asPhp_list harg
          unfold Operation.nullList
          split
          · next hnull => exact absurd hnull hlist
          · rfl

/-- A batch that is not refused adds one operation for each entry, the one
asked for, exactly when every entry is exact. -/
theorem batchFaithful_iff {ordered : Bool} {batch : Batch}
    (hnot : ¬ BatchRefused rt operators serializerType ordered true batch) :
    BatchFaithful rt operators serializerType (batch.map fun e => e.1.2)
        (contributions rt operators serializerType true batch).flatten ↔
      BatchExact rt operators serializerType batch := by
  unfold BatchFaithful
  rw [forall₂_flatten (by simp [length_contributions])
    (contributions_short true batch)]
  induction batch with
  | nil => simp [contributions, BatchExact]
  | cons head rest ih =>
      obtain ⟨⟨key, z⟩, addOk⟩ := head
      cases hkey : keyRefused ordered key with
      | true => exact absurd (Or.inl hkey) hnot
      | false =>
      cases z with
      | undef | null | bool _ | long _ | double _ | string _ | object _ _
      | resource | reference _ => exact absurd (Or.inr trivial) hnot
      | array entry =>
      rw [batchRefused_array hkey, not_or] at hnot
      obtain ⟨hentry, hrest⟩ := hnot
      obtain ⟨op, htype⟩ : ∃ op, entryOpType operators entry = some op := by
        rw [← Option.ne_none_iff_exists']
        intro hnone
        simp [EntryRefused, hnone] at hentry
      obtain ⟨code, hcode, hop⟩ := Option.bind_eq_some_iff.mp htype
      have hhead := contribution_exact hcode hop hentry
      have hexact : BatchExact rt operators serializerType
          (((key, .array entry), addOk) :: rest) ↔
          EntryExact rt serializerType addOk code op entry ∧
            BatchExact rt operators serializerType rest := by
        unfold BatchExact
        rw [List.forall_mem_cons]
        refine and_congr_left fun _ => ⟨fun h => h _ _ _ rfl hcode hop, ?_⟩
        rintro h entry' code' op' ⟨⟩ hcode' hop'
        obtain rfl := Option.some.inj (hcode.symm.trans hcode')
        obtain rfl := Option.some.inj (hop.symm.trans hop')
        exact h
      rw [hexact, contributions, List.map_cons, List.forall₂_cons, ← hhead]
      refine and_congr_right ?_
      rintro ⟨added, hone, hphp⟩
      have hkept : (true && !losesList (contribution rt operators
          serializerType true addOk entry)) = true := by
        rw [hone]
        simp [losesList, entryOp_asPhp_nullList hphp]
      rw [hkept] at hrest ⊢
      exact ih hrest

end

end AerospikePhp
