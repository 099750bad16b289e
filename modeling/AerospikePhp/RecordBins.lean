import AerospikePhp.WriteBacks
import AerospikePhp.Decoding
import Mathlib.Tactic

/-!
# The bins of a record

Which bins `z_hashtable_to_as_record` makes of an array, and whether the array
that a record becomes can be written again.  A bin name is cut at its first NUL
on the way in, and a name of digits becomes an integer key on the way out.
-/

namespace AerospikePhp

open List AssociationList

/-- A value that `add_zval_to_record` can store. -/
def AsVal.IsBinValue : AsVal → Prop
  | .nil | .boolean _ => False
  | _ => True

def sameName (name name' : String) : Bool := name = name'

theorem eq_of_sameName (name name' : String)
    (hsame : sameName name' name = true) : name' = name := by
  simpa [sameName] using hsame

theorem distinct_of_names {bins : List (String × AsVal)}
    (hnodup : (bins.map Prod.fst).Nodup) : Distinct sameName bins := by
  unfold List.Nodup at hnodup
  rw [List.pairwise_map] at hnodup
  refine hnodup.imp ?_
  intro bin bin' hne
  simpa [sameName] using hne

theorem names_of_distinct {bins : List (String × AsVal)}
    (hdistinct : Distinct sameName bins) : (bins.map Prod.fst).Nodup := by
  unfold List.Nodup
  rw [List.pairwise_map]
  refine hdistinct.imp ?_
  intro bin bin' hne
  simpa [sameName] using hne

theorem setBin_eq_set (bins : List (String × AsVal)) (name : String)
    (value : AsVal) :
    setBin bins name value = set sameName bins name value := by
  induction bins with
  | nil => rfl
  | cons bin rest ih =>
      rw [setBin, AssociationList.set, ih]
      simp [sameName]

theorem asRecordSet_eq_setWithin (capacity : ℕ) (bins : List (String × AsVal))
    (name : String) (value : AsVal) :
    asRecordSet capacity bins name value =
      setWithin sameName capacity bins name value := by
  rw [asRecordSet, setWithin, setBin_eq_set]
  rfl

/-- The room that is made is enough only for fewer than 2¹⁶. -/
theorem le_binCapacity_iff (count : ℕ) :
    count ≤ binCapacity count ↔ count < 2 ^ 16 := by
  unfold binCapacity
  omega

section

variable {rt : Runtime} {serializerType : SerializerType} {capacity : ℕ}

/-! ## The bins of an array -/

/-- The bin that an entry of the array asks for. -/
def BinOf (rt : Runtime) (serializerType : SerializerType)
    (entry : ZKey × Zval) (bin : String × AsVal) : Prop :=
  entry.1 = .str bin.1 ∧ bin.1.length ≤ asBinNameMaxLen ∧
    encode rt serializerType entry.2 = some bin.2

theorem isBinValue_of_serializedValue {z : Zval} {value : AsVal}
    (hvalue : serializedValue rt serializerType z = some value) :
    value.IsBinValue := by
  unfold serializedValue at hvalue
  split at hvalue
  · split at hvalue
    · obtain rfl := Option.some.inj hvalue
      trivial
    · cases hvalue
  · split at hvalue
    · obtain ⟨text, -, rfl⟩ := Option.map_eq_some_iff.mp hvalue
      trivial
    · cases hvalue

theorem isBinValue_of_objectValue {className : String}
    {properties : List (String × Zval)} {value : AsVal}
    (hvalue : objectValue rt serializerType className properties = some value) :
    value.IsBinValue := by
  unfold objectValue at hvalue
  split at hvalue
  · split at hvalue
    · obtain rfl := Option.some.inj hvalue
      trivial
    · cases hvalue
  · split at hvalue
    · split at hvalue
      · obtain rfl := Option.some.inj hvalue
        trivial
      · cases hvalue
    · exact isBinValue_of_serializedValue hvalue

/-- No PHP value becomes a nil or a boolean. -/
theorem isBinValue_of_encode {z : Zval} {value : AsVal}
    (hvalue : encode rt serializerType z = some value) : value.IsBinValue := by
  cases z with
  | long n | double d | string s =>
      rw [encode] at hvalue
      obtain rfl := Option.some.inj hvalue
      trivial
  | array entries =>
      rw [encode] at hvalue
      split at hvalue
      · obtain ⟨items, -, rfl⟩ := Option.map_eq_some_iff.mp hvalue
        trivial
      · obtain ⟨pairs, -, rfl⟩ := Option.map_eq_some_iff.mp hvalue
        trivial
  | object className properties =>
      rw [encode] at hvalue
      exact isBinValue_of_objectValue hvalue
  | undef | null | bool _ | resource | reference _ =>
      exact isBinValue_of_serializedValue (by simpa [encode] using hvalue)

theorem addZvalToRecord_of_value {z : Zval} {value : AsVal}
    (record : AsRecord) (name : String) {err : AsError} (herr : err.code = .ok)
    (hencode : encode rt serializerType z = some value) :
    addZvalToRecord rt serializerType capacity z record name err =
      ({ record with bins := asRecordSet capacity record.bins name value }, err) := by
  have hrefines := zvalToAsVal_refines rt serializerType z herr
  have hvalue := isBinValue_of_encode hencode
  rw [hencode] at hrefines
  have hconverted : zvalToAsVal rt serializerType z err =
      ⟨.ok, some value, err⟩ := hrefines
  unfold addZvalToRecord
  rw [hconverted]
  cases value with
  | nil => exact hvalue.elim
  | boolean b => exact hvalue.elim
  | _ => rfl

theorem addZvalToRecord_of_no_value {z : Zval} (record : AsRecord)
    (name : String) {err : AsError} (herr : err.code = .ok)
    (hnone : encode rt serializerType z = none) :
    (addZvalToRecord rt serializerType capacity z record name err).2.code ≠ .ok := by
  have hrefines := zvalToAsVal_refines rt serializerType z herr
  rw [hnone] at hrefines
  unfold addZvalToRecord
  simpa [hrefines.1] using hrefines.2.2

theorem addZvalToRecord_sticky (z : Zval) (record : AsRecord) (name : String)
    {err : AsError} (herr : err.code ≠ .ok) :
    (addZvalToRecord rt serializerType capacity z record name err).2.code ≠ .ok := by
  have hsticky := zvalToAsVal_sticky rt serializerType z herr
  unfold addZvalToRecord
  simp only
  split
  · exact hsticky
  · split
    · simp [AsError.update]
    · simp [AsError.update]
    · simp [AsError.update]
    · exact hsticky

theorem asRecordLoop_sticky (table : HashTable) (record : AsRecord)
    {err : AsError} (herr : err.code ≠ .ok) :
    (asRecordLoop rt serializerType capacity table record err).status ≠ .ok := by
  induction table generalizing record err with
  | nil => exact herr
  | cons entry table ih =>
      obtain ⟨key, z⟩ := entry
      cases key with
      | idx index => simp [asRecordLoop]
      | str name =>
          have hadded := @addZvalToRecord_sticky rt serializerType capacity z record
            (cString name) err herr
          rw [asRecordLoop]
          split
          · simp
          · simp only [if_pos hadded]
            exact hadded

/-- The loop adds a bin for each entry, under the name up to its first NUL. -/
theorem asRecordLoop_of_bins {table : HashTable}
    {bins : List (String × AsVal)} (record : AsRecord) {err : AsError}
    (herr : err.code = .ok)
    (hbins : Forall₂ (BinOf rt serializerType) table bins) :
    asRecordLoop rt serializerType capacity table record err =
      ⟨.ok, some { record with
        bins := setAllWithin sameName capacity record.bins
          (bins.map fun bin => (cString bin.1, bin.2)) }, err⟩ := by
  induction hbins generalizing record with
  | nil =>
      rw [asRecordLoop, herr]
      rfl
  | @cons entry bin table bins hentry hbins ih =>
      obtain ⟨key, z⟩ := entry
      obtain ⟨name, value⟩ := bin
      obtain ⟨hkey, hlength, hencode⟩ := hentry
      obtain rfl : key = .str name := hkey
      rw [asRecordLoop, if_neg (not_lt.mpr hlength)]
      simp only [addZvalToRecord_of_value record (cString name) herr hencode,
        herr, ne_eq, not_true, if_false, ih, List.map_cons, setAllWithin_cons,
        asRecordSet_eq_setWithin]

theorem asRecordLoop_of_no_bins {table : HashTable} (record : AsRecord)
    {err : AsError} (herr : err.code = .ok)
    (hnone : ¬∃ bins, Forall₂ (BinOf rt serializerType) table bins) :
    (asRecordLoop rt serializerType capacity table record err).status ≠ .ok := by
  induction table generalizing record with
  | nil => exact absurd ⟨[], .nil⟩ hnone
  | cons entry table ih =>
      obtain ⟨key, z⟩ := entry
      cases key with
      | idx index => simp [asRecordLoop]
      | str name =>
          rw [asRecordLoop]
          by_cases hlong : name.length > asBinNameMaxLen
          · simp [hlong]
          · simp only [if_neg hlong]
            cases hencode : encode rt serializerType z with
            | none =>
                have hcode := @addZvalToRecord_of_no_value rt serializerType
                  capacity z record (cString name) err herr hencode
                simp only [if_pos hcode]
                exact hcode
            | some value =>
                rw [addZvalToRecord_of_value record (cString name) herr hencode]
                simp only [herr, ne_eq, not_true, if_false]
                refine ih _ fun hbins => hnone ?_
                obtain ⟨bins, hbins⟩ := hbins
                exact ⟨(name, value) :: bins,
                  .cons ⟨rfl, not_lt.mp hlong, hencode⟩ hbins⟩

/-- Every entry has a name of at most 15 bytes and a value that converts. -/
def BinsConvert (rt : Runtime) (serializerType : SerializerType)
    (table : HashTable) : Prop :=
  ∀ entry ∈ table,
    (∃ name, entry.1 = .str name ∧ name.length ≤ asBinNameMaxLen) ∧
      ∀ leaf ∈ entry.2.leaves, LeafConverts rt serializerType leaf

theorem exists_bins_iff (table : HashTable) :
    (∃ bins, Forall₂ (BinOf rt serializerType) table bins) ↔
      BinsConvert rt serializerType table := by
  unfold BinsConvert
  induction table with
  | nil => simp
  | cons entry table ih =>
      rw [List.forall_mem_cons, ← ih, ← encode_isSome_iff]
      constructor
      · intro hbins
        obtain ⟨_, hbins⟩ := hbins
        cases hbins with
        | @cons _ bin _ bins hentry hrest =>
            obtain ⟨hkey, hlength, hencode⟩ := hentry
            exact ⟨⟨⟨bin.1, hkey, hlength⟩, by simp [hencode]⟩, bins, hrest⟩
      · intro hconvert
        obtain ⟨⟨⟨name, hkey, hlength⟩, hvalue⟩, bins, hrest⟩ := hconvert
        obtain ⟨value, hencode⟩ := Option.isSome_iff_exists.mp hvalue
        exact ⟨(name, value) :: bins, .cons ⟨hkey, hlength, hencode⟩ hrest⟩

/-! ## Names -/

/-- The names of the bins as `char *` carries them. -/
def cutNames (bins : List (String × AsVal)) : List (String × AsVal) :=
  bins.map fun bin => (cString bin.1, bin.2)

theorem cutNames_eq_self {bins : List (String × AsVal)}
    (hfree : ∀ name ∈ bins.map Prod.fst, NulFree name) : cutNames bins = bins := by
  unfold cutNames
  refine (List.map_congr_left ?_).trans (List.map_id' bins)
  intro bin hmem
  have hname := (cString_eq_self_iff bin.1).mpr
    (hfree bin.1 (List.mem_map_of_mem hmem))
  rw [hname]

theorem nulFree_of_stored {bins : List (String × AsVal)} {name : String}
    (hmem : name ∈ (setAll sameName [] (cutNames bins)).map Prod.fst) :
    NulFree name := by
  obtain ⟨bin, hbin, rfl⟩ := List.mem_map.mp hmem
  rcases of_mem_setAll eq_of_sameName hbin with hold | hadded
  · cases hold
  · obtain ⟨bin', -, rfl⟩ := List.mem_map.mp hadded
    exact nulFree_cString bin'.1

@[simp] theorem length_cutNames (bins : List (String × AsVal)) :
    (cutNames bins).length = bins.length := List.length_map _

/-- The bins that the record takes of those it was made for. -/
def storedBins (bins : List (String × AsVal)) : List (String × AsVal) :=
  setAllWithin sameName (binCapacity bins.length) [] (cutNames bins)

theorem storedBins_of_few {bins : List (String × AsVal)}
    (hfew : bins.length < 2 ^ 16) :
    storedBins bins = setAll sameName [] (cutNames bins) := by
  apply setAllWithin_of_room
  rw [length_cutNames, List.length_nil, Nat.zero_add]
  exact (le_binCapacity_iff _).mpr hfew

theorem storedBins_eq_self {bins : List (String × AsVal)}
    (hfew : bins.length < 2 ^ 16) (hnodup : (bins.map Prod.fst).Nodup)
    (hfree : ∀ name ∈ bins.map Prod.fst, NulFree name) :
    storedBins bins = bins := by
  rw [storedBins_of_few hfew, cutNames_eq_self hfree,
    setAll_nil_of_distinct (distinct_of_names hnodup)]

/-- All of them can only be there when they are fewer than 2¹⁶. -/
theorem few_of_length_storedBins {bins : List (String × AsVal)}
    (hall : bins.length ≤ (storedBins bins).length) : bins.length < 2 ^ 16 := by
  have hroom : (storedBins bins).length ≤ binCapacity bins.length :=
    length_setAllWithin_le _ (Nat.zero_le _)
  exact (le_binCapacity_iff _).mp (hall.trans hroom)

/-- The entry has become the bin, whole. -/
def StoredAs (rt : Runtime) (serializerType : SerializerType)
    (entry : ZKey × Zval) (bin : String × AsVal) : Prop :=
  entry.1 = .str bin.1 ∧ encode rt serializerType entry.2 = some bin.2

theorem storedAs_keys {table : HashTable} {bins : List (String × AsVal)}
    (hbins : Forall₂ (StoredAs rt serializerType) table bins) :
    table.map Prod.fst = (bins.map Prod.fst).map ZKey.str := by
  induction hbins with
  | nil => rfl
  | cons hentry _ ih => simp only [List.map_cons, hentry.1, ih]

theorem storedAs_of_binOf {table : HashTable} {bins : List (String × AsVal)}
    (hbins : Forall₂ (BinOf rt serializerType) table bins) :
    Forall₂ (StoredAs rt serializerType) table bins :=
  hbins.imp fun _ _ hentry => ⟨hentry.1, hentry.2.2⟩

theorem mem_names_iff {keys : List ZKey} {names : List String} {name : String}
    (hkeys : keys = names.map ZKey.str) : .str name ∈ keys ↔ name ∈ names := by
  rw [hkeys, List.mem_map_of_injective fun _ _ => ZKey.str.inj]

/-! ## One bin for each entry -/

/-- An error, or exactly one bin for each entry of the array, with its name and
the conversion of its value. -/
def KeepsBins (rt : Runtime) (serializerType : SerializerType)
    (table : HashTable) (converted : Converted AsRecord) : Prop :=
  converted.status ≠ .ok ∨
    ∃ record, converted.val = some record ∧
      Forall₂ (StoredAs rt serializerType) table record.bins

def NulFreeNames (table : HashTable) : Prop :=
  ∀ name, .str name ∈ table.map Prod.fst → NulFree name

theorem zHashtableToAsRecord_of_bins {table : HashTable}
    {bins : List (String × AsVal)} {err : AsError} (herr : err.code = .ok)
    (hbins : Forall₂ (BinOf rt serializerType) table bins) :
    zHashtableToAsRecord rt serializerType table err =
      ⟨.ok, some ⟨0, 0, storedBins bins⟩, err⟩ := by
  rw [storedBins, ← hbins.length_eq]
  exact asRecordLoop_of_bins asRecordNew herr hbins

theorem zHashtableToAsRecord_ok_iff {table : HashTable} {err : AsError} :
    (zHashtableToAsRecord rt serializerType table err).status = .ok ↔
      err.code = .ok ∧ BinsConvert rt serializerType table := by
  rw [← exists_bins_iff]
  by_cases herr : err.code = .ok
  · by_cases hbins : ∃ bins, Forall₂ (BinOf rt serializerType) table bins
    · obtain ⟨bins, hbins⟩ := hbins
      rw [zHashtableToAsRecord_of_bins herr hbins]
      simp only [herr, true_and, true_iff]
      exact ⟨bins, hbins⟩
    · have hfailed := @asRecordLoop_of_no_bins rt serializerType
        (binCapacity table.numElements) table asRecordNew err herr hbins
      exact iff_of_false hfailed fun h => hbins h.2
  · have hfailed := @asRecordLoop_sticky rt serializerType
      (binCapacity table.numElements) table asRecordNew err herr
    exact iff_of_false hfailed fun h => herr h.1

theorem keepsBins_iff {table : HashTable} {err : AsError}
    (hkeys : (table.map Prod.fst).Nodup) :
    KeepsBins rt serializerType table
        (zHashtableToAsRecord rt serializerType table err) ↔
      (err.code = .ok → BinsConvert rt serializerType table →
        NulFreeNames table ∧ table.length < 2 ^ 16) := by
  unfold KeepsBins
  by_cases hok : err.code = .ok ∧ BinsConvert rt serializerType table
  · obtain ⟨herr, hconvert⟩ := hok
    obtain ⟨bins, hbins⟩ := (exists_bins_iff table).mpr hconvert
    have hstoredAs := storedAs_of_binOf hbins
    have hnames := storedAs_keys hstoredAs
    have hnodup : (bins.map Prod.fst).Nodup := by
      rw [hnames] at hkeys
      exact hkeys.of_map _
    rw [zHashtableToAsRecord_of_bins herr hbins]
    simp only [ne_eq, not_true, false_or, Option.some.injEq, exists_eq_left',
      herr, hconvert, true_imp_iff]
    have hlength := hbins.length_eq
    constructor
    · intro hstored
      have hfew : bins.length < 2 ^ 16 :=
        few_of_length_storedBins (hlength ▸ hstored.length_eq.le)
      rw [storedBins_of_few hfew] at hstored
      refine ⟨fun name hmem => ?_, hlength ▸ hfew⟩
      have hkeys' := storedAs_keys hstored
      exact nulFree_of_stored ((mem_names_iff hkeys').mp hmem)
    · rintro ⟨hfree, hfew⟩
      rw [storedBins_eq_self (hlength ▸ hfew) hnodup]
      · exact hstoredAs
      · intro name hmem
        exact hfree name ((mem_names_iff hnames).mpr hmem)
  · have hfailed : (zHashtableToAsRecord rt serializerType table err).status ≠
        .ok := fun h => hok (zHashtableToAsRecord_ok_iff.mp h)
    refine iff_of_true (.inl hfailed) ?_
    intro herr hconvert
    exact absurd ⟨herr, hconvert⟩ hok

/-! ## A record that is written again -/

/-- Names that the server can hold: distinct, free of NULs, at most 15
bytes. -/
structure ValidNames (bins : List (String × AsVal)) : Prop where
  nodup : (bins.map Prod.fst).Nodup
  nulFree : ∀ name ∈ bins.map Prod.fst, NulFree name
  short : ∀ name ∈ bins.map Prod.fst, name.length ≤ asBinNameMaxLen

/-- Each array that the record becomes is accepted and gives a record with the
same bin names. -/
def RecordWritesBack (rt : Runtime) (serializerType : SerializerType)
    (record : AsRecord) (err : AsError) : Prop :=
  ∀ table, (asBinsToZval rt record err).status = .ok →
    (asBinsToZval rt record err).val = some (.array table) →
    ∃ record',
      (zHashtableToAsRecord rt serializerType table err).status = .ok ∧
      (zHashtableToAsRecord rt serializerType table err).val = some record' ∧
      record'.bins.map Prod.fst = record.bins.map Prod.fst

/-- The bin has a name that stays a name, and its value becomes one that can
be stored. -/
def BinComesBack (rt : Runtime) (serializerType : SerializerType)
    (bin : String × AsVal) : Prop :=
  numericKey bin.1 = none ∧
    ∀ z, decode rt bin.2 = some z →
      ∀ leaf ∈ z.leaves, LeafConverts rt serializerType leaf

theorem eq_of_sameZKey (key key' : ZKey) (hsame : sameZKey key' key = true) :
    key' = key := by
  simpa [sameZKey] using hsame

theorem binDecodesTo_keys {bins : List (String × AsVal)} {table : HashTable}
    (htable : Forall₂ (BinDecodesTo rt) bins table) :
    table.map Prod.fst = bins.map fun bin => assocKey bin.1 :=
  @forall₂_keys (fun value z => decode rt value = some z) _ _ htable

theorem assocKey_of_not_numeric {name : String} (hnot : numericKey name = none) :
    assocKey name = .str name := by
  rw [assocKey, hnot]

theorem assocKey_ne_str {name : String} (hnumeric : numericKey name ≠ none)
    (name' : String) : assocKey name ≠ .str name' := by
  rw [assocKey]
  cases hindex : numericKey name with
  | none => exact absurd hindex hnumeric
  | some index => simp

/-- One integer key is enough for the array to be refused. -/
theorem not_binsConvert_of_numeric {bins : List (String × AsVal)}
    {table : HashTable} (htable : Forall₂ (BinDecodesTo rt) bins table)
    (hnumeric : ∃ bin ∈ bins, numericKey bin.1 ≠ none) :
    ¬BinsConvert rt serializerType (setAll sameZKey [] table) := by
  intro hconvert
  obtain ⟨bin, hbin, hname⟩ := hnumeric
  have hkey : assocKey bin.1 ∈ table.map Prod.fst := by
    rw [binDecodesTo_keys htable]
    exact List.mem_map_of_mem hbin
  have hset : assocKey bin.1 ∈ (setAll sameZKey [] table).map Prod.fst :=
    fst_mem_setAll eq_of_sameZKey (.inr hkey)
  obtain ⟨entry, hentry, hfst⟩ := List.mem_map.mp hset
  obtain ⟨⟨name, hstr, -⟩, -⟩ := hconvert entry hentry
  exact assocKey_ne_str hname name (hfst.symm.trans hstr)

theorem binsConvert_iff {bins : List (String × AsVal)} {table : HashTable}
    (hshort : ∀ name ∈ bins.map Prod.fst, name.length ≤ asBinNameMaxLen)
    (hkept : ∀ bin ∈ bins, numericKey bin.1 = none)
    (htable : Forall₂ (BinDecodesTo rt) bins table) :
    BinsConvert rt serializerType table ↔
      ∀ bin ∈ bins, BinComesBack rt serializerType bin := by
  induction htable with
  | nil => simp [BinsConvert]
  | @cons bin entry bins table hentry htable ih =>
      rw [List.map_cons, List.forall_mem_cons] at hshort
      rw [List.forall_mem_cons] at hkept
      have hname : entry.1 = .str bin.1 :=
        hentry.1.trans (assocKey_of_not_numeric hkept.1)
      have hrest := ih hshort.2 hkept.2
      unfold BinsConvert at hrest ⊢
      rw [List.forall_mem_cons, List.forall_mem_cons, hrest, BinComesBack,
        hentry.2]
      simp [hname, hshort.1, hkept.1]

theorem nodup_of_kept {bins : List (String × AsVal)} {table : HashTable}
    (hnodup : (bins.map Prod.fst).Nodup)
    (hkept : ∀ bin ∈ bins, numericKey bin.1 = none)
    (htable : Forall₂ (BinDecodesTo rt) bins table) :
    table.map Prod.fst = (bins.map Prod.fst).map ZKey.str ∧
      (table.map Prod.fst).Nodup := by
  have hkeys : table.map Prod.fst = (bins.map Prod.fst).map ZKey.str := by
    rw [binDecodesTo_keys htable, List.map_map]
    refine List.map_congr_left ?_
    intro bin hmem
    exact assocKey_of_not_numeric (hkept bin hmem)
  rw [hkeys]
  exact ⟨rfl, hnodup.map fun _ _ => ZKey.str.inj⟩

theorem recordWritesBack_of_table {record : AsRecord} {err : AsError}
    {table : HashTable} (herr : err.code = .ok)
    (htable : decodeBins rt record.bins [] = some table) :
    RecordWritesBack rt serializerType record err ↔
      ∃ record',
        (zHashtableToAsRecord rt serializerType table err).status = .ok ∧
        (zHashtableToAsRecord rt serializerType table err).val =
          some record' ∧
        record'.bins.map Prod.fst = record.bins.map Prod.fst := by
  have hdecodes := @asBinsLoop_decodes rt record.bins [] err herr
  rw [htable, Option.map_some] at hdecodes
  have hbins : asBinsToZval rt record err = ⟨.ok, some (.array table), err⟩ :=
    hdecodes
  unfold RecordWritesBack
  rw [hbins]
  simp

theorem recordWritesBack_iff {record : AsRecord} {err : AsError}
    (hnames : ValidNames record.bins) (herr : err.code = .ok) :
    RecordWritesBack rt serializerType record err ↔
      (DecodableBins rt record.bins → record.bins.length < 2 ^ 16 ∧
        ∀ bin ∈ record.bins, BinComesBack rt serializerType bin) := by
  have hdecodable := @decodeBins_isSome_iff rt record.bins []
  cases hdecode : decodeBins rt record.bins [] with
  | none =>
      have hdecodes := @asBinsLoop_decodes rt record.bins [] err herr
      rw [hdecode] at hdecodable hdecodes
      refine iff_of_true ?_ fun h => by simpa using hdecodable.mpr h
      intro table hok
      exact absurd hok hdecodes.1
  | some table =>
      rw [hdecode] at hdecodable
      rw [recordWritesBack_of_table herr hdecode, ← hdecodable]
      simp only [Option.isSome_some, true_imp_iff]
      obtain ⟨pairs, hpairs, rfl⟩ := forall₂_of_decodeBins hdecode
      by_cases hkept : ∀ bin ∈ record.bins, numericKey bin.1 = none
      · obtain ⟨hkeys, hnodup⟩ := nodup_of_kept hnames.nodup hkept hpairs
        rw [setAll_nil_of_distinct (distinct_of_nodup hnodup),
          ← binsConvert_iff hnames.short hkept hpairs]
        have hbinsOf : ∀ {bins}, Forall₂ (BinOf rt serializerType) pairs bins →
            bins.map Prod.fst = record.bins.map Prod.fst := by
          intro bins hbins
          have hkeys' := storedAs_keys (storedAs_of_binOf hbins)
          exact List.map_injective_iff.mpr (fun _ _ => ZKey.str.inj)
            (hkeys'.symm.trans hkeys)
        constructor
        · rintro ⟨record', hok, hval, hnames'⟩
          have hconvert := (zHashtableToAsRecord_ok_iff.mp hok).2
          obtain ⟨bins, hbins⟩ := (exists_bins_iff pairs).mpr hconvert
          have hlength : bins.length = record.bins.length := by
            simpa using congrArg List.length (hbinsOf hbins)
          have hlength' : record'.bins.length = record.bins.length := by
            simpa using congrArg List.length hnames'
          rw [zHashtableToAsRecord_of_bins herr hbins] at hval
          obtain rfl := Option.some.inj hval
          refine ⟨hlength ▸ few_of_length_storedBins ?_, hconvert⟩
          rw [hlength, hlength']
        · rintro ⟨hfew, hconvert⟩
          obtain ⟨bins, hbins⟩ := (exists_bins_iff pairs).mpr hconvert
          have hsame := hbinsOf hbins
          have hlength : bins.length = record.bins.length := by
            simpa using congrArg List.length hsame
          rw [zHashtableToAsRecord_of_bins herr hbins,
            storedBins_eq_self (hlength ▸ hfew) (hsame ▸ hnames.nodup)
              (hsame ▸ hnames.nulFree)]
          exact ⟨_, rfl, rfl, hsame⟩
      · have hnumeric : ∃ bin ∈ record.bins, numericKey bin.1 ≠ none := by
          simpa using hkept
        refine iff_of_false ?_ fun h => hkept fun bin hmem => (h.2 bin hmem).1
        intro haccepted
        obtain ⟨record', hok, -⟩ := haccepted
        exact not_binsConvert_of_numeric hpairs hnumeric
          (zHashtableToAsRecord_ok_iff.mp hok).2

/-! ## Plain values -/

theorem mem_leavesOf_iff {table : HashTable} {leaf : Zval} :
    leaf ∈ leavesOf table ↔ ∃ entry ∈ table, leaf ∈ entry.2.leaves := by
  induction table with
  | nil => simp [leavesOf]
  | cons entry table ih =>
      obtain ⟨key, z⟩ := entry
      rw [leavesOf, List.mem_append, ih]
      simp

mutual

theorem plain_leavesConvert :
    ∀ (value : AsVal) (z : Zval), PlainTree value → decode rt value = some z →
      ∀ leaf ∈ z.leaves, LeafConverts rt serializerType leaf
  | .integer _, z, _, hz | .double _, z, _, hz | .string _, z, _, hz => by
      rw [decode] at hz
      obtain rfl := Option.some.inj hz
      simp [Zval.leaves, LeafConverts]
  | .list items, z, hplain, hz => by
      rw [PlainTree] at hplain
      rw [decode] at hz
      obtain ⟨table, htable, rfl⟩ := Option.map_eq_some_iff.mp hz
      obtain ⟨zs, hzs, rfl⟩ := forall₂_of_decodeItems htable
      intro leaf hleaf
      rw [Zval.leaves, mem_leavesOf_iff, foldl_push_eq, List.nil_append] at hleaf
      obtain ⟨entry, hentry, hleaf⟩ := hleaf
      have hvalue : entry.2 ∈ zs := by
        rw [List.mem_mapIdx] at hentry
        obtain ⟨i, hi, rfl⟩ := hentry
        exact List.getElem_mem hi
      exact plainItems_leavesConvert items zs hplain.2 hzs entry.2 hvalue leaf
        hleaf
  | .map entries, z, hplain, hz => by
      rw [PlainTree] at hplain
      rw [decode] at hz
      obtain ⟨table, htable, rfl⟩ := Option.map_eq_some_iff.mp hz
      obtain ⟨pairs, hpairs, rfl⟩ := forall₂_of_decodeEntries htable
      intro leaf hleaf
      rw [Zval.leaves, mem_leavesOf_iff] at hleaf
      obtain ⟨entry, hentry, hleaf⟩ := hleaf
      have hpair : entry ∈ pairs := by
        rcases of_mem_setAll eq_of_sameZKey hentry with hold | hpair
        · cases hold
        · exact hpair
      exact plainEntries_leavesConvert entries pairs hplain.2.2 hpairs entry
        hpair leaf hleaf
  | .nil, _, hplain, _ | .boolean _, _, hplain, _ | .bytes _ _, _, hplain, _
  | .geojson _, _, hplain, _ => by simp [PlainTree] at hplain

theorem plainItems_leavesConvert :
    ∀ (items : List AsVal) (zs : List Zval), PlainItems items →
      Forall₂ (fun item z => decode rt item = some z) items zs →
      ∀ z ∈ zs, ∀ leaf ∈ z.leaves, LeafConverts rt serializerType leaf
  | [], _, _, .nil => by simp
  | item :: items, _, hplain, .cons hitem hitems => by
      rw [PlainItems] at hplain
      rw [List.forall_mem_cons]
      exact ⟨plain_leavesConvert item _ hplain.1 hitem,
        plainItems_leavesConvert items _ hplain.2 hitems⟩

theorem plainEntries_leavesConvert :
    ∀ (entries : List (AsVal × AsVal)) (pairs : HashTable),
      PlainEntries entries → Forall₂ (DecodesTo rt) entries pairs →
      ∀ entry ∈ pairs, ∀ leaf ∈ entry.2.leaves,
        LeafConverts rt serializerType leaf
  | [], _, _, .nil => by simp
  | (key, value) :: entries, _, hplain, .cons hentry hentries => by
      rw [PlainEntries] at hplain
      rw [List.forall_mem_cons]
      exact ⟨plain_leavesConvert value _ hplain.1 hentry.2,
        plainEntries_leavesConvert entries _ hplain.2 hentries⟩

end

/-- For a plain value only the name of the bin matters. -/
theorem plain_binComesBack_iff {bin : String × AsVal}
    (hplain : PlainTree bin.2) :
    BinComesBack rt serializerType bin ↔ numericKey bin.1 = none := by
  unfold BinComesBack
  rw [and_iff_left]
  intro z hz
  exact plain_leavesConvert bin.2 z hplain hz

end

/-! ## Both ways -/

/-- What is stored keeps every bin exactly when no name holds a NUL, and what
was read can be stored again exactly when no name is an integer to PHP and each
value becomes one that converts; and only fewer than 2¹⁶ bins are. -/
theorem recordBins_kept_iff (rt : Runtime) (serializerType : SerializerType)
    (table : HashTable) (record : AsRecord) (err : AsError)
    (hkeys : (table.map Prod.fst).Nodup) (hnames : ValidNames record.bins)
    (herr : err.code = .ok) :
    (KeepsBins rt serializerType table
        (zHashtableToAsRecord rt serializerType table err) ↔
      (BinsConvert rt serializerType table →
        NulFreeNames table ∧ table.length < 2 ^ 16)) ∧
    (RecordWritesBack rt serializerType record err ↔
      (DecodableBins rt record.bins → record.bins.length < 2 ^ 16 ∧
        ∀ bin ∈ record.bins, BinComesBack rt serializerType bin)) := by
  refine ⟨?_, recordWritesBack_iff hnames herr⟩
  rw [keepsBins_iff hkeys]
  simp [herr]

/-- Two names that are one up to the first NUL. -/
def nulNames : HashTable :=
  [(.str "a\x00b", .long 1), (.str "a\x00c", .long 2)]

/-- A bin whose name is a number. -/
def digitBin : AsRecord := ⟨1, 0, [("1", .integer 5)]⟩

theorem validNames_digitBin : ValidNames digitBin.bins where
  nodup := by decide
  nulFree := by decide
  short := by decide

theorem recordBins_kept_iff_digitBin :
    (KeepsBins Runtime.plain serializerNone nulNames
        (zHashtableToAsRecord Runtime.plain serializerNone nulNames .init) ↔
      (BinsConvert Runtime.plain serializerNone nulNames →
        NulFreeNames nulNames ∧ nulNames.length < 2 ^ 16)) ∧
    (RecordWritesBack Runtime.plain serializerNone digitBin .init ↔
      (DecodableBins Runtime.plain digitBin.bins →
        digitBin.bins.length < 2 ^ 16 ∧ ∀ bin ∈ digitBin.bins,
          BinComesBack Runtime.plain serializerNone bin)) :=
  recordBins_kept_iff _ _ nulNames digitBin .init (by decide)
    validNames_digitBin rfl

theorem nulNames_digitBin_lost :
    ¬KeepsBins Runtime.plain serializerNone nulNames
        (zHashtableToAsRecord Runtime.plain serializerNone nulNames .init) ∧
      ¬RecordWritesBack Runtime.plain serializerNone digitBin .init := by
  constructor
  · rw [keepsBins_iff (by decide)]
    intro hkept
    have hconvert : BinsConvert Runtime.plain serializerNone nulNames := by
      simp only [BinsConvert, nulNames, List.forall_mem_cons, Zval.leaves,
        LeafConverts, ZKey.str.injEq, exists_eq_left']
      simp
      decide
    have hfree := (hkept rfl hconvert).1 "a\x00b" (by decide)
    exact absurd hfree (by decide)
  · rw [recordWritesBack_iff validNames_digitBin rfl]
    intro hback
    have hdecodable : DecodableBins Runtime.plain digitBin.bins := by
      simp [DecodableBins, digitBin, Decodable]
    have hname := ((hback hdecodable).2 ("1", .integer 5) (by simp [digitBin])).1
    exact absurd hname (by decide)

end AerospikePhp
