import AerospikePhp.RoundTrips
import Mathlib.Tactic

/-!
# All or nothing

When the conversion of a client value gives either the whole PHP value or
nothing.  It gives less in two ways: a nil or a boolean becomes a hole in a
value that is reported as converted, and a list that fails leaves behind the
elements it had converted.
-/

namespace AerospikePhp

open AssociationList List

section

variable (rt : Runtime)

/-! ## The PHP value that corresponds to a client value -/

/-- The key that an entry of a map has in PHP. -/
def phpKeyOf : AsVal → Option ZKey
  | .string s => some (assocKey (cString s))
  | .integer n => some (.idx n)
  | .bytes type value => (decodeBytes rt type value).bind mapKeyOfZval
  | .geojson value => (rt.geojsonFromJson value).bind mapKeyOfZval
  | .nil | .boolean _ | .double _ | .list _ | .map _ => none

mutual

/-- Nothing corresponds to a nil or a boolean, for which the extension has no
PHP value. -/
def Corresponds : AsVal → Zval → Prop
  | .string s, z => z = .string (cString s)
  | .integer n, z => z = .long n
  | .double d, z => z = .double d
  | .bytes type value, z => decodeBytes rt type value = some z ∧ z ≠ .undef
  | .geojson value, z => rt.geojsonFromJson value = some z ∧ z ≠ .undef
  | .list items, z =>
      ∃ zs, z = .array (HashTable.ofValues zs) ∧ CorrespondItems items zs
  | .map entries, z =>
      ∃ table, z = .array table ∧ CorrespondEntries entries table
  | .nil, _ | .boolean _, _ => False

def CorrespondItems : List AsVal → List Zval → Prop
  | [], zs => zs = []
  | item :: items, zs =>
      ∃ z rest, zs = z :: rest ∧ Corresponds item z ∧ CorrespondItems items rest

/-- Each entry of the map is one entry of the array. -/
def CorrespondEntries : List (AsVal × AsVal) → HashTable → Prop
  | [], table => table = []
  | (key, value) :: entries, table =>
      ∃ zKey z rest, table = (zKey, z) :: rest ∧ phpKeyOf rt key = some zKey ∧
        Corresponds value z ∧ CorrespondEntries entries rest

end

/-- The array of the bins of a record. -/
def CorrespondBins (bins : List (String × AsVal)) (z : Zval) : Prop :=
  ∃ table, z = .array table ∧
    Forall₂ (fun bin entry => entry.1 = assocKey bin.1 ∧
      Corresponds rt bin.2 entry.2) bins table

/-! ## Conditions on the client value -/

mutual

/-- Every part of the value can be converted. -/
def Decodable : AsVal → Prop
  | .bytes type value => (decodeBytes rt type value).isSome
  | .geojson value => (rt.geojsonFromJson value).isSome
  | .list items => DecodableItems items
  | .map entries => DecodableEntries entries
  | .nil | .boolean _ | .integer _ | .double _ | .string _ => True

def DecodableItems : List AsVal → Prop
  | [] => True
  | item :: items => Decodable item ∧ DecodableItems items

def DecodableEntries : List (AsVal × AsVal) → Prop
  | [] => True
  | (key, value) :: entries =>
      (phpKeyOf rt key).isSome ∧ Decodable value ∧ DecodableEntries entries

end

mutual

/-- No value is a nil or a boolean, or is given an undefined zval by a
callback, and no two keys of a map are one in PHP. -/
def Definite : AsVal → Prop
  | .nil | .boolean _ => False
  | .integer _ | .double _ | .string _ => True
  | .bytes type value => decodeBytes rt type value ≠ some .undef
  | .geojson value => rt.geojsonFromJson value ≠ some .undef
  | .list items => DefiniteItems items
  | .map entries =>
      (entries.map fun entry => phpKeyOf rt entry.1).Nodup ∧
        DefiniteEntries entries

def DefiniteItems : List AsVal → Prop
  | [] => True
  | item :: items => Definite item ∧ DefiniteItems items

def DefiniteEntries : List (AsVal × AsVal) → Prop
  | [] => True
  | (_, value) :: entries => Definite value ∧ DefiniteEntries entries

end

/-- What a failed conversion leaves in the caller's zval: the array of a list,
or what the PHP unserializer built. -/
def LeavesRest : AsVal → Prop
  | .list _ => True
  | .bytes .php value => (rt.phpVarUnserializeRest value).isSome
  | _ => False

/-- The condition for a value to be converted whole or not at all. -/
def ConvertsWhole (value : AsVal) : Prop :=
  (Decodable rt value → Definite rt value) ∧
    (¬ Decodable rt value → ¬ LeavesRest rt value)

def DecodableBins (bins : List (String × AsVal)) : Prop :=
  ∀ bin ∈ bins, Decodable rt bin.2

def DefiniteBins (bins : List (String × AsVal)) : Prop :=
  (bins.map fun bin => assocKey bin.1).Nodup ∧
    ∀ bin ∈ bins, Definite rt bin.2

end

section

variable {rt : Runtime}

/-! ## Keys -/

@[simp] theorem cString_cString (s : String) : cString (cString s) = cString s :=
  (cString_eq_self_iff (cString s)).mpr (nulFree_cString s)

theorem decode_bind_mapKeyOfZval (key : AsVal) :
    (decode rt key).bind mapKeyOfZval = phpKeyOf rt key := by
  cases key with
  | string s => simp [decode, phpKeyOf, mapKeyOfZval]
  | list items =>
      rw [decode, phpKeyOf]
      cases decodeItems rt items [] <;> rfl
  | map entries =>
      rw [decode, phpKeyOf]
      cases decodeEntries rt entries [] <;> rfl
  | nil | boolean _ | integer _ | double _ | bytes _ _ | geojson _ =>
      simp [decode, phpKeyOf, mapKeyOfZval]

/-! ## When a value can be converted -/

theorem decodesTo_iff {key value : AsVal} {zKey : ZKey} {z : Zval} :
    DecodesTo rt (key, value) (zKey, z) ↔
      phpKeyOf rt key = some zKey ∧ decode rt value = some z := by
  unfold DecodesTo
  rw [decode_bind_mapKeyOfZval]

/-- The conversion of a list succeeds when it does for each element. -/
theorem decodeItems_isSome_cons (item : AsVal) (items : List AsVal)
    (table : HashTable) :
    (decodeItems rt (item :: items) table).isSome ↔
      ∃ z, decode rt item = some z ∧
        (decodeItems rt items (table.push z)).isSome := by
  rw [decodeItems]
  cases decode rt item <;> simp

theorem decodeEntries_isSome_cons (key value : AsVal)
    (entries : List (AsVal × AsVal)) (table : HashTable) :
    (decodeEntries rt ((key, value) :: entries) table).isSome ↔
      ∃ zKey z, phpKeyOf rt key = some zKey ∧ decode rt value = some z ∧
        (decodeEntries rt entries (table.update zKey z)).isSome := by
  rw [decodeEntries, ← decode_bind_mapKeyOfZval]
  cases decode rt key with
  | none => simp
  | some zKey =>
      simp only [Option.bind_some]
      cases mapKeyOfZval zKey with
      | none => simp
      | some zKey => cases decode rt value <;> simp

mutual

theorem decode_isSome_iff :
    ∀ value : AsVal, (decode rt value).isSome ↔ Decodable rt value
  | .string _ | .integer _ | .double _ | .nil | .boolean _ => by
      simp [decode, Decodable]
  | .bytes _ _ | .geojson _ => by simp [decode, Decodable]
  | .list items => by
      rw [decode, Decodable, Option.isSome_map]
      exact decodeItems_isSome_iff items []
  | .map entries => by
      rw [decode, Decodable, Option.isSome_map]
      exact decodeEntries_isSome_iff entries []

theorem decodeItems_isSome_iff :
    ∀ (items : List AsVal) (table : HashTable),
      (decodeItems rt items table).isSome ↔ DecodableItems rt items
  | [], table => by simp [decodeItems, DecodableItems]
  | item :: items, table => by
      have hitem := decode_isSome_iff item
      rw [decodeItems_isSome_cons, DecodableItems, ← hitem]
      cases decode rt item with
      | none => simp
      | some z =>
          have hitems := decodeItems_isSome_iff items (table.push z)
          simp [hitems]

theorem decodeEntries_isSome_iff :
    ∀ (entries : List (AsVal × AsVal)) (table : HashTable),
      (decodeEntries rt entries table).isSome ↔ DecodableEntries rt entries
  | [], table => by simp [decodeEntries, DecodableEntries]
  | (key, value) :: entries, table => by
      have hvalue := decode_isSome_iff value
      rw [decodeEntries_isSome_cons, DecodableEntries, ← hvalue]
      cases phpKeyOf rt key with
      | none => simp
      | some zKey =>
          cases decode rt value with
          | none => simp
          | some z =>
              have hentries := decodeEntries_isSome_iff entries
                (table.update zKey z)
              simp [hentries]

end

/-! ## When the value that is given corresponds -/

theorem forall₂_of_decodeItems {items : List AsVal} {before table : HashTable}
    (htable : decodeItems rt items before = some table) :
    ∃ zs, Forall₂ (fun item z => decode rt item = some z) items zs ∧
      table = zs.foldl HashTable.push before := by
  induction items generalizing before with
  | nil =>
      rw [decodeItems] at htable
      exact ⟨[], .nil, (Option.some.inj htable).symm⟩
  | cons item items ih =>
      rw [decodeItems] at htable
      cases hitem : decode rt item with
      | none => simp [hitem] at htable
      | some z =>
          simp only [hitem] at htable
          obtain ⟨zs, hzs, hfold⟩ := ih htable
          exact ⟨z :: zs, .cons hitem hzs, hfold⟩

theorem forall₂_of_decodeEntries {entries : List (AsVal × AsVal)}
    {before table : HashTable}
    (htable : decodeEntries rt entries before = some table) :
    ∃ pairs, Forall₂ (DecodesTo rt) entries pairs ∧
      table = setAll sameZKey before pairs := by
  induction entries generalizing before with
  | nil =>
      rw [decodeEntries] at htable
      exact ⟨[], .nil, (Option.some.inj htable).symm⟩
  | cons entry entries ih =>
      obtain ⟨key, value⟩ := entry
      have hsome : (decodeEntries rt ((key, value) :: entries) before).isSome := by
        simp [htable]
      rw [decodeEntries_isSome_cons] at hsome
      obtain ⟨zKey, z, hkey, hvalue, -⟩ := hsome
      have hentry : DecodesTo rt (key, value) (zKey, z) :=
        decodesTo_iff.mpr ⟨hkey, hvalue⟩
      have hrest : decodeEntries rt entries (before.update zKey z) =
          some table := by
        obtain ⟨zKey', hzKey', hmapKey⟩ := Option.bind_eq_some_iff.mp hentry.1
        rw [decodeEntries] at htable
        simpa only [hzKey', hmapKey, hvalue] using htable
      obtain ⟨pairs, hpairs, hset⟩ := ih hrest
      refine ⟨(zKey, z) :: pairs, .cons hentry hpairs, ?_⟩
      rw [hset, update_eq_set, setAll_cons]

theorem correspondEntries_keys :
    ∀ {entries : List (AsVal × AsVal)} {table : HashTable},
      CorrespondEntries rt entries table →
      (table.map Prod.fst).map some =
        entries.map fun entry => phpKeyOf rt entry.1
  | [], table, hcorrespond => by
      rw [CorrespondEntries] at hcorrespond
      rw [hcorrespond]
      rfl
  | (key, value) :: entries, table, hcorrespond => by
      rw [CorrespondEntries] at hcorrespond
      obtain ⟨zKey, z, rest, rfl, hkey, -, hrest⟩ := hcorrespond
      have hkeys := correspondEntries_keys hrest
      simp only [List.map_cons, hkey, hkeys]

theorem decodesTo_phpKeys {entries : List (AsVal × AsVal)} {pairs : HashTable}
    (hpairs : Forall₂ (DecodesTo rt) entries pairs) :
    (pairs.map Prod.fst).map some =
      entries.map fun entry => phpKeyOf rt entry.1 := by
  induction hpairs with
  | nil => rfl
  | cons hentry _ ih =>
      have hkey := (decodesTo_iff.mp hentry).1
      simp only [List.map_cons, hkey, ih]

theorem nodup_of_distinct {table : HashTable}
    (hdistinct : Distinct sameZKey table) : (table.map Prod.fst).Nodup := by
  unfold List.Nodup
  rw [List.pairwise_map]
  refine hdistinct.imp ?_
  intro entry entry' hne
  simpa [sameZKey] using hne

/-- An array has each key once, so entries whose keys are one in PHP do not all
come through. -/
theorem nodup_of_setAll_keys {pairs : HashTable}
    (hkeys : (setAll sameZKey [] pairs).map Prod.fst = pairs.map Prod.fst) :
    (pairs.map Prod.fst).Nodup := by
  have hempty : Distinct sameZKey ([] : HashTable) := List.Pairwise.nil
  rw [← hkeys]
  exact nodup_of_distinct hempty.setAll

theorem ofValues_eq_foldl_push (zs : List Zval) :
    zs.foldl HashTable.push [] = HashTable.ofValues zs := by
  rw [foldl_push_eq, HashTable.ofValues]
  simp

theorem ofValues_injective : Function.Injective HashTable.ofValues := by
  intro zs zs' heq
  have hvalues : HashTable.values (HashTable.ofValues zs) =
      HashTable.values (HashTable.ofValues zs') := by rw [heq]
  unfold HashTable.ofValues at hvalues
  rwa [values_mapIdx, values_mapIdx] at hvalues

mutual

theorem corresponds_iff :
    ∀ (value : AsVal) {z : Zval}, decode rt value = some z →
      (Corresponds rt value z ↔ Definite rt value)
  | .string _, z, hz | .integer _, z, hz | .double _, z, hz => by
      rw [decode] at hz
      simp [Corresponds, Definite, ← Option.some.inj hz]
  | .nil, _, _ | .boolean _, _, _ => by simp [Corresponds, Definite]
  | .bytes _ _, z, hz | .geojson _, z, hz => by
      rw [decode] at hz
      simp [Corresponds, Definite, hz]
  | .list items, z, hz => by
      rw [decode] at hz
      obtain ⟨table, htable, rfl⟩ := Option.map_eq_some_iff.mp hz
      obtain ⟨zs, hzs, rfl⟩ := forall₂_of_decodeItems htable
      have hitems := correspondItems_iff items hzs
      rw [Definite, ← hitems, ofValues_eq_foldl_push, Corresponds]
      constructor
      · intro hcorrespond
        obtain ⟨zs', harray, hzs'⟩ := hcorrespond
        have heq : zs = zs' := ofValues_injective (Zval.array.inj harray)
        rw [heq]
        exact hzs'
      · intro hcorrespond
        exact ⟨zs, rfl, hcorrespond⟩
  | .map entries, z, hz => by
      rw [decode] at hz
      obtain ⟨table, htable, rfl⟩ := Option.map_eq_some_iff.mp hz
      obtain ⟨pairs, hpairs, rfl⟩ := forall₂_of_decodeEntries htable
      have hentries := correspondEntries_iff entries hpairs
      have hphpKeys := decodesTo_phpKeys hpairs
      have hnodup : (entries.map fun entry => phpKeyOf rt entry.1).Nodup ↔
          (pairs.map Prod.fst).Nodup := by
        rw [← hphpKeys]
        exact List.nodup_map_iff (Option.some_injective ZKey)
      rw [Definite, ← hentries, hnodup, Corresponds]
      constructor
      · intro hcorrespond
        obtain ⟨table, harray, htable⟩ := hcorrespond
        obtain rfl := Zval.array.inj harray
        have hkeys : (setAll sameZKey [] pairs).map Prod.fst =
            pairs.map Prod.fst := by
          have hsome := (correspondEntries_keys htable).trans hphpKeys.symm
          exact (Option.some_injective ZKey).list_map hsome
        have hpairsNodup := nodup_of_setAll_keys hkeys
        rw [setAll_nil_of_distinct (distinct_of_nodup hpairsNodup)] at htable
        exact ⟨hpairsNodup, htable⟩
      · intro hdefinite
        obtain ⟨hpairsNodup, hcorrespond⟩ := hdefinite
        rw [setAll_nil_of_distinct (distinct_of_nodup hpairsNodup)]
        exact ⟨pairs, rfl, hcorrespond⟩

theorem correspondItems_iff :
    ∀ (items : List AsVal) {zs : List Zval},
      Forall₂ (fun item z => decode rt item = some z) items zs →
      (CorrespondItems rt items zs ↔ DefiniteItems rt items)
  | [], _, .nil => by simp [CorrespondItems, DefiniteItems]
  | item :: items, _, .cons hitem hitems => by
      have hhead := corresponds_iff item hitem
      have htail := correspondItems_iff items hitems
      rw [DefiniteItems, ← hhead, ← htail, CorrespondItems]
      simp

theorem correspondEntries_iff :
    ∀ (entries : List (AsVal × AsVal)) {pairs : HashTable},
      Forall₂ (DecodesTo rt) entries pairs →
      (CorrespondEntries rt entries pairs ↔ DefiniteEntries rt entries)
  | [], _, .nil => by simp [CorrespondEntries, DefiniteEntries]
  | (key, value) :: entries, _, @Forall₂.cons _ _ _ _ (zKey, z) _ _ hentry
      hentries => by
      obtain ⟨hkey, hvalue⟩ := decodesTo_iff.mp hentry
      have hhead := corresponds_iff value hvalue
      have htail := correspondEntries_iff entries hentries
      rw [DefiniteEntries, ← hhead, ← htail, CorrespondEntries]
      simp [hkey]

end

/-! ## All or nothing -/

/-- An output that shows nothing of a conversion. -/
def Blank (val : Option Zval) : Prop :=
  val = none ∨ val = some .null ∨ val = some Zval.undef

/-- Success with a whole value, or failure with nothing. -/
def Converted.AllOrNothing (converted : Converted Zval) (whole : Zval → Prop) :
    Prop :=
  (converted.status = .ok ∧ ∃ z, converted.val = some z ∧ whole z) ∨
    (converted.status ≠ .ok ∧ Blank converted.val)

theorem allOrNothing_of_some {converted : Converted Zval} {err : AsError}
    {z : Zval} {whole : Zval → Prop} (hdecodes : converted.Decodes err (some z)) :
    converted.AllOrNothing whole ↔ whole z := by
  have hconverted : converted = ⟨.ok, some z, err⟩ := hdecodes
  simp [Converted.AllOrNothing, hconverted]

theorem allOrNothing_of_none {converted : Converted Zval} {err : AsError}
    {whole : Zval → Prop} (hdecodes : converted.Decodes err none) :
    converted.AllOrNothing whole ↔ Blank converted.val := by
  have hstatus : converted.status ≠ .ok := hdecodes.1
  simp [Converted.AllOrNothing, hstatus]

theorem asListToZval_val (items : List AsVal) (table : HashTable)
    (err : AsError) :
    ∃ table', (asListToZval rt items table err).val = some (.array table') := by
  induction items generalizing table err with
  | nil =>
      rw [asListToZval]
      exact ⟨table, rfl⟩
  | cons item items ih =>
      rw [asListToZval]
      by_cases hcode : (asValToZval rt item err).err.code = .ok
      · simp only [hcode, ne_eq, not_true, if_false]
        exact ih _ _
      · simp only [ne_eq, hcode, not_false_eq_true, if_true]
        exact ⟨table, rfl⟩

theorem asMapToZval_val_of_failed (entries : List (AsVal × AsVal))
    (table : HashTable) (err : AsError)
    (hfailed : (asMapToZval rt entries table err).status ≠ .ok) :
    (asMapToZval rt entries table err).val = some .undef := by
  induction entries generalizing table err with
  | nil =>
      rw [asMapToZval] at hfailed ⊢
      split at hfailed
      · next hcode => rw [if_pos hcode]
      · next hcode => simp_all
  | cons entry entries ih =>
      obtain ⟨key, value⟩ := entry
      rw [asMapToZval] at hfailed ⊢
      simp only at hfailed ⊢
      split at hfailed
      · rfl
      · split at hfailed
        · next hcode => rw [if_pos hcode]
        · next hcode =>
            rw [if_neg hcode]
            exact ih _ _ hfailed

theorem asBinsLoop_val_of_failed (bins : List (String × AsVal))
    (table : HashTable) (err : AsError)
    (hfailed : (asBinsLoop rt bins table err).status ≠ .ok) :
    (asBinsLoop rt bins table err).val = some .null := by
  induction bins generalizing table err with
  | nil =>
      rw [asBinsLoop] at hfailed ⊢
      split at hfailed
      · next hcode => rw [if_pos hcode]
      · next hcode => simp_all
  | cons bin bins ih =>
      obtain ⟨name, value⟩ := bin
      rw [asBinsLoop] at hfailed ⊢
      split at hfailed
      · next hstatus => rw [if_pos hstatus]
      · next hstatus =>
          rw [if_neg hstatus]
          exact ih _ _ hfailed

theorem Zval.ne_of_isContainer {z : Zval} (hz : z.isContainer) :
    z ≠ .null ∧ z ≠ .undef := by
  cases z <;> simp_all [Zval.isContainer]

/-- The output after a failure shows nothing, unless the value is one whose
conversion leaves a rest. -/
theorem asValToZval_blank_iff {value : AsVal} {err : AsError}
    (herr : err.code = .ok) (hdecode : decode rt value = none) :
    Blank (asValToZval rt value err).val ↔ ¬ LeavesRest rt value := by
  cases value with
  | string _ | integer _ | double _ | nil | boolean _ => simp [decode] at hdecode
  | list items =>
      obtain ⟨table, hval⟩ := @asListToZval_val rt items [] err
      rw [asValToZval, hval]
      simp [Blank, LeavesRest]
  | map entries =>
      have hdecodes := @asValToZval_decodes rt (.map entries) err herr
      rw [hdecode, asValToZval] at hdecodes
      have hval := asMapToZval_val_of_failed entries [] err hdecodes.1
      rw [asValToZval, hval]
      simp [Blank, LeavesRest]
  | geojson value =>
      rw [decode] at hdecode
      simp [asValToZval, asGeojsonToZval, hdecode, Blank, LeavesRest]
  | bytes type value =>
      rw [decode] at hdecode
      cases type with
      | other code =>
          simp [asValToZval, unserializeAsBytes, Blank, LeavesRest]
      | blob =>
          rw [decodeBytes] at hdecode
          cases hdeserializer : rt.userDeserializer with
          | none =>
              simp only [hdeserializer] at hdecode
              simp [asValToZval, unserializeAsBytes, hdeserializer, hdecode,
                Blank, LeavesRest]
          | some deserializer =>
              simp only [hdeserializer] at hdecode
              simp [asValToZval, unserializeAsBytes, hdeserializer, hdecode,
                Blank, LeavesRest]
      | php =>
          have hunserialize : rt.phpVarUnserialize value = none := hdecode
          simp only [asValToZval, unserializeAsBytes, hunserialize]
          cases hrest : rt.phpVarUnserializeRest value with
          | none => simp [Blank, LeavesRest, hrest]
          | some rest =>
              have hne := Zval.ne_of_isContainer rest.2
              simp [Blank, LeavesRest, hrest, hne]

theorem not_decodable_of_none {value : AsVal} (hdecode : decode rt value = none) :
    ¬ Decodable rt value := by
  rw [← decode_isSome_iff, hdecode]
  simp

theorem decodable_of_some {value : AsVal} {z : Zval}
    (hdecode : decode rt value = some z) : Decodable rt value := by
  rw [← decode_isSome_iff, hdecode]
  rfl

theorem asValToZval_allOrNothing_iff (value : AsVal) {err : AsError}
    (herr : err.code = .ok) :
    (asValToZval rt value err).AllOrNothing (Corresponds rt value) ↔
      ConvertsWhole rt value := by
  have hdecodes := @asValToZval_decodes rt value err herr
  unfold ConvertsWhole
  cases hdecode : decode rt value with
  | some z =>
      rw [hdecode] at hdecodes
      have hdecodable := decodable_of_some hdecode
      rw [allOrNothing_of_some hdecodes, corresponds_iff value hdecode]
      simp [hdecodable]
  | none =>
      rw [hdecode] at hdecodes
      have hnot := not_decodable_of_none hdecode
      rw [allOrNothing_of_none hdecodes, asValToZval_blank_iff herr hdecode]
      simp [hnot]

/-! ## Records -/

theorem decodeBins_isSome_iff (bins : List (String × AsVal))
    (table : HashTable) :
    (decodeBins rt bins table).isSome ↔ DecodableBins rt bins := by
  induction bins generalizing table with
  | nil => simp [decodeBins, DecodableBins]
  | cons bin bins ih =>
      obtain ⟨name, value⟩ := bin
      have hvalue := @decode_isSome_iff rt value
      have hcons : DecodableBins rt ((name, value) :: bins) ↔
          Decodable rt value ∧ DecodableBins rt bins := List.forall_mem_cons
      rw [decodeBins, hcons, ← hvalue]
      cases decode rt value with
      | none => simp
      | some z => simp [ih]

/-- The array that a record becomes, bin by bin. -/
def BinDecodesTo (rt : Runtime) (bin : String × AsVal) (entry : ZKey × Zval) :
    Prop :=
  entry.1 = assocKey bin.1 ∧ decode rt bin.2 = some entry.2

theorem forall₂_of_decodeBins {bins : List (String × AsVal)}
    {before table : HashTable}
    (htable : decodeBins rt bins before = some table) :
    ∃ pairs, Forall₂ (BinDecodesTo rt) bins pairs ∧
      table = setAll sameZKey before pairs := by
  induction bins generalizing before with
  | nil =>
      rw [decodeBins] at htable
      exact ⟨[], .nil, (Option.some.inj htable).symm⟩
  | cons bin bins ih =>
      obtain ⟨name, value⟩ := bin
      rw [decodeBins] at htable
      cases hvalue : decode rt value with
      | none => simp [hvalue] at htable
      | some z =>
          simp only [hvalue] at htable
          obtain ⟨pairs, hpairs, hset⟩ := ih htable
          refine ⟨(assocKey name, z) :: pairs, .cons ⟨rfl, hvalue⟩ hpairs, ?_⟩
          rw [hset, update_eq_set, setAll_cons]

theorem forall₂_keys {R : AsVal → Zval → Prop} {bins : List (String × AsVal)}
    {table : HashTable}
    (htable : Forall₂ (fun bin entry => entry.1 = assocKey bin.1 ∧
      R bin.2 entry.2) bins table) :
    table.map Prod.fst = bins.map fun bin => assocKey bin.1 := by
  induction htable with
  | nil => rfl
  | cons hentry _ ih => simp only [List.map_cons, hentry.1, ih]

theorem binsCorrespond_iff {bins : List (String × AsVal)} {pairs : HashTable}
    (hpairs : Forall₂ (BinDecodesTo rt) bins pairs) :
    Forall₂ (fun bin entry => entry.1 = assocKey bin.1 ∧
        Corresponds rt bin.2 entry.2) bins pairs ↔
      ∀ bin ∈ bins, Definite rt bin.2 := by
  induction hpairs with
  | nil => simp
  | cons hentry _ ih =>
      have hvalue := corresponds_iff _ hentry.2
      simp [hentry.1, hvalue, ih]

theorem correspondBins_iff {bins : List (String × AsVal)} {table : HashTable}
    (htable : decodeBins rt bins [] = some table) :
    CorrespondBins rt bins (.array table) ↔ DefiniteBins rt bins := by
  obtain ⟨pairs, hpairs, rfl⟩ := forall₂_of_decodeBins htable
  have hkeys : pairs.map Prod.fst = bins.map fun bin => assocKey bin.1 :=
    @forall₂_keys (fun value z => decode rt value = some z) _ _ hpairs
  have hvalues := binsCorrespond_iff hpairs
  unfold CorrespondBins DefiniteBins
  rw [← hkeys, ← hvalues]
  constructor
  · intro hcorrespond
    obtain ⟨table, harray, htable⟩ := hcorrespond
    obtain rfl := Zval.array.inj harray
    have hsame := (forall₂_keys htable).trans hkeys.symm
    have hnodup := nodup_of_setAll_keys hsame
    rw [setAll_nil_of_distinct (distinct_of_nodup hnodup)] at htable
    exact ⟨hnodup, htable⟩
  · intro hdefinite
    obtain ⟨hnodup, hcorrespond⟩ := hdefinite
    rw [setAll_nil_of_distinct (distinct_of_nodup hnodup)]
    exact ⟨pairs, rfl, hcorrespond⟩

theorem asBinsToZval_allOrNothing_iff (record : AsRecord) {err : AsError}
    (herr : err.code = .ok) :
    (asBinsToZval rt record err).AllOrNothing (CorrespondBins rt record.bins) ↔
      (DecodableBins rt record.bins → DefiniteBins rt record.bins) := by
  have hdecodes := @asBinsLoop_decodes rt record.bins [] err herr
  have hdecodable := @decodeBins_isSome_iff rt record.bins []
  unfold asBinsToZval
  cases hdecode : decodeBins rt record.bins [] with
  | some table =>
      rw [hdecode, Option.map_some] at hdecodes
      rw [hdecode] at hdecodable
      rw [allOrNothing_of_some hdecodes, correspondBins_iff hdecode,
        ← hdecodable]
      simp
  | none =>
      rw [hdecode, Option.map_none] at hdecodes
      rw [hdecode] at hdecodable
      have hval := asBinsLoop_val_of_failed record.bins [] err hdecodes.1
      rw [allOrNothing_of_none hdecodes, ← hdecodable]
      simp [Blank, hval]

/-- The array that a record becomes. -/
def CorrespondRecord (rt : Runtime) (record : AsRecord) (z : Zval) : Prop :=
  ∃ zKey zBins,
    z = .array [(.str "key", .array zKey),
      (.str "metadata", asRecordToZMetadata record), (.str "bins", zBins)] ∧
    CorrespondBins rt record.bins zBins

theorem asKeyToZval_of_ns {key : AsKey} (showPk : Bool) (err : AsError)
    (hns : strlen key.ns ≠ 0) :
    ∃ table, asKeyToZval key showPk err = ⟨.ok, some (.array table), err⟩ := by
  unfold asKeyToZval
  rw [if_neg hns]
  exact ⟨_, rfl⟩

theorem asRecordToZval_allOrNothing_iff (record : AsRecord) (key : AsKey)
    (showPk : Bool) {err : AsError} (herr : err.code = .ok) :
    (asRecordToZval rt record key showPk err).AllOrNothing
        (CorrespondRecord rt record) ↔
      (DecodableBins rt record.bins → strlen key.ns ≠ 0 →
        DefiniteBins rt record.bins) := by
  have hdecodes := @asBinsLoop_decodes rt record.bins [] err herr
  have hdecodable := @decodeBins_isSome_iff rt record.bins []
  unfold asRecordToZval asBinsToZval
  cases hdecode : decodeBins rt record.bins [] with
  | none =>
      rw [hdecode, Option.map_none] at hdecodes
      rw [hdecode] at hdecodable
      rw [← hdecodable]
      simp [hdecodes.1, hdecodes.2.1, Converted.AllOrNothing, Blank]
  | some table =>
      rw [hdecode, Option.map_some] at hdecodes
      rw [hdecode] at hdecodable
      have hbins : asBinsLoop rt record.bins [] err =
          ⟨.ok, some (.array table), err⟩ := hdecodes
      rw [← hdecodable, ← correspondBins_iff hdecode]
      by_cases hns : strlen key.ns = 0
      · simp [hbins, asKeyToZval, hns, Converted.AllOrNothing, Blank]
      · obtain ⟨zKey, hkey⟩ := asKeyToZval_of_ns showPk err hns
        simp [hbins, hkey, herr, hns, Converted.AllOrNothing, CorrespondRecord]

end

end AerospikePhp
