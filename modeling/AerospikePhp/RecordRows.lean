import AerospikePhp.RecordServer
import AerospikePhp.KeyRequests
import AerospikePhp.RecordBins
import Mathlib.Tactic

/-!
# Records and rows

When a record of the cluster stands for a row of the shelf, that a put and a
choice of bins keep this, and that such a record is shown as its row.
-/

namespace AerospikePhp

open AssociationList List

/-! ## Values -/

/-- The stored value reads as the PHP value, up to the order of maps. -/
def ReadsAs (rt : Runtime) (value : AsVal) (z : Zval) : Prop :=
  ∃ z', decode rt value = some z' ∧ z.Same z'

/-- The bin of this name is shown under this key. -/
def ShownAs (name : String) (key : ZKey) : Prop :=
  key = .str name ∧ numericKey name = none

/-- The bins stand for the entries of the array, one by one. -/
abbrev BinsRead (rt : Runtime) : List (String × AsVal) → HashTable → Prop :=
  Forall₂ (EntryRel ShownAs (ReadsAs rt))

section

variable {rt : Runtime} {serializerType : SerializerType}

theorem sameName_of_shown (name : String) (key : ZKey) (name' : String)
    (key' : ZKey) (hkey : ShownAs name key) (hkey' : ShownAs name' key') :
    sameName name name' = sameZKey key key' := by
  simp [sameName, sameZKey, hkey.1, hkey'.1]

theorem readsAs_of_stored (hrt : Faithful rt) {z : Zval} {value : AsVal}
    (hwhole : StoredWhole rt serializerType z)
    (hencode : encode rt serializerType z = some value) : ReadsAs rt value z := by
  obtain ⟨stored, hstored, hback⟩ := hwhole.readsBack hrt
  obtain rfl := Option.some.inj (hencode.symm.trans hstored)
  exact hback value value.same_refl

/-- The bins that a storable array asks for read as its entries. -/
theorem binsRead_of_storable (hrt : Faithful rt) {table : HashTable}
    {bins : List (String × AsVal)}
    (hbins : Forall₂ (BinOf rt serializerType) table bins)
    (hkeys : ∀ entry ∈ table, PhpKey entry.1)
    (hstorable : StorableEntries rt serializerType table)
    (hshort : ∀ leaf ∈ leavesOf table, leaf.ShortBytes) :
    BinsRead rt bins table := by
  induction hbins with
  | nil => exact .nil
  | @cons entry bin table bins hentry _ ih =>
      rw [List.forall_mem_cons] at hkeys
      rw [StorableEntries] at hstorable
      rw [leavesOf, List.forall_mem_append] at hshort
      have hkey := hkeys.1
      rw [hentry.1] at hkey
      exact .cons ⟨⟨hentry.1, hkey.2⟩,
          readsAs_of_stored hrt ⟨hstorable.1, hshort.1⟩ hentry.2.2⟩
        (ih hkeys.2 hstorable.2 hshort.2)

theorem decodeBins_of_forall₂ {bins : List (String × AsVal)} {table : HashTable}
    (before : HashTable) (htable : Forall₂ (BinDecodesTo rt) bins table) :
    decodeBins rt bins before = some (setAll sameZKey before table) := by
  induction htable generalizing before with
  | nil => simp [decodeBins]
  | @cons bin entry _ _ hentry _ ih =>
      obtain ⟨name, value⟩ := bin
      obtain ⟨hkey, hvalue⟩ := hentry
      simp only at hkey hvalue
      rw [decodeBins]
      simp only [hvalue]
      rw [update_eq_set, ih, setAll_cons, hkey]

/-- The arrays of the values, in the order of the bins. -/
theorem exists_decoded_of_binsRead {bins : List (String × AsVal)}
    {table : HashTable} (hbins : BinsRead rt bins table) :
    ∃ decoded, Forall₂ (BinDecodesTo rt) bins decoded ∧
      SameTable table decoded ∧ ∀ bin ∈ bins, numericKey bin.1 = none := by
  induction hbins with
  | nil => exact ⟨[], .nil, by rw [SameTable], by simp⟩
  | @cons bin entry bins table hentry _ ih =>
      obtain ⟨decoded, hdecoded, hsame, hnames⟩ := ih
      obtain ⟨⟨hkey, hnumeric⟩, z, hz, hsameValue⟩ := hentry
      refine ⟨(entry.1, z) :: decoded, .cons ⟨?_, hz⟩ hdecoded, ?_,
        List.forall_mem_cons.mpr ⟨hnumeric, hnames⟩⟩
      · rw [assocKey_of_not_numeric hnumeric]
        exact hkey
      · rw [SameTable]
        exact ⟨z, decoded, rfl, hsameValue, hsame⟩

/-! ## Rows -/

structure HoldsRow (rt : Runtime) (record : AsRecord) (row : Row) : Prop where
  gen : record.gen = row.gen
  bins : BinsRead rt record.bins row.bins
  distinct : Distinct sameName record.bins

theorem holdsRow_merge {record : Option AsRecord} {row : Option Row}
    {new : AsRecord} {bins : HashTable}
    (hold : Option.Rel (HoldsRow rt) record row)
    (hbins : BinsRead rt new.bins bins) (hdistinct : Distinct sameName new.bins) :
    HoldsRow rt (mergeRecord record new) (mergeRow row bins) := by
  cases hold with
  | none => exact ⟨rfl, hbins, hdistinct⟩
  | @some record row hold =>
      have hrecord : (mergeRecord (some record) new).bins =
          setAll sameName record.bins new.bins := by
        simp only [mergeRecord, setAll, setBin_eq_set]
      have hrow : (mergeRow (some row) bins).bins =
          setAll sameZKey row.bins bins := by
        simp only [mergeRow, setAll, update_eq_set]
      refine ⟨?_, ?_, ?_⟩
      · simp only [mergeRecord, mergeRow, hold.gen]
      · rw [hrecord, hrow]
        exact forall₂_setAll sameName_of_shown hold.bins hbins
      · rw [hrecord]
        exact hold.distinct.setAll

theorem holdsRow_select {record : AsRecord} {row : Row}
    (hold : HoldsRow rt record row) (names : Option (List String)) :
    HoldsRow rt (readBins names record) (row.select names) := by
  cases names with
  | none => exact hold
  | some names =>
      refine ⟨hold.gen, ?_, hold.distinct.filter _⟩
      refine rel_filter ?_ hold.bins
      rintro bin entry ⟨⟨hkey, -⟩, -⟩
      simp only [hkey, decide_eq_true_eq, ZKey.str.injEq, exists_eq_right']

/-- The bins of the record are shown as the row has them. -/
theorem HoldsRow.decodes {record : AsRecord} {row : Row}
    (hold : HoldsRow rt record row) :
    ∃ table, decodeBins rt record.bins [] = some table ∧
      SameTable row.bins table := by
  obtain ⟨decoded, hdecoded, hsame, hnames⟩ :=
    exists_decoded_of_binsRead hold.bins
  have hnodup := (nodup_of_kept (names_of_distinct hold.distinct) hnames
    hdecoded).2
  refine ⟨decoded, ?_, hsame⟩
  rw [decodeBins_of_forall₂ [] hdecoded,
    setAll_nil_of_distinct (distinct_of_nodup hnodup)]

/-! ## A put -/

section

variable {engine : Engine} {client : Client} {policies : Policies}

theorem recordOf_bins {table : HashTable} {record : AsRecord}
    (hrecord : recordOf engine serializerType table = .ok record) :
    ∃ bins, Forall₂ (BinOf engine.rt serializerType) table bins ∧
      record.bins = storedBins bins := by
  unfold recordOf at hrecord
  simp only at hrecord
  split at hrecord
  · next hstatus =>
      have hconvert := (zHashtableToAsRecord_ok_iff.mp hstatus).2
      obtain ⟨bins, hbins⟩ := (exists_bins_iff table).mpr hconvert
      rw [zHashtableToAsRecord_of_bins rfl hbins] at hrecord
      obtain rfl := Except.ok.inj hrecord
      exact ⟨bins, hbins, rfl⟩
  · cases hrecord

theorem recordWithGeneration_bins {zPolicy : Option Zval}
    {record record' : AsRecord}
    (hrecord : recordWithGeneration zPolicy record = .ok record') :
    record'.bins = record.bins := by
  unfold recordWithGeneration at hrecord
  split at hrecord
  · obtain rfl := Except.ok.inj hrecord
    rfl
  · cases hrecord

/-- The record that a put sends holds the bins that its array asks for. -/
theorem putVerdict_bins {args : PutArgs} {policy : Option PolicyWrite}
    {key : AsKey} {record : AsRecord}
    (hverdict : putVerdict engine client policies args =
      .ok (.keyPut policy key record)) :
    ∃ table bins, storeBins args.store = some table ∧
      Forall₂ (BinOf engine.rt (callSerializer engine args.policy)) table bins ∧
      record.bins = storedBins bins := by
  unfold putVerdict at hverdict
  simp only [verdict_bind_eq_ok, present_eq_ok] at hverdict
  obtain ⟨_, -, ttl, -, table, htable, _, -, _, -, _, -, serializer, hserializer,
    unaged, hunaged, aged, haged, hrequest⟩ := hverdict
  obtain ⟨-, -, rfl⟩ := Request.keyPut.inj (Except.ok.inj hrequest)
  have hcall : serializer = callSerializer engine args.policy := by
    unfold serializerOf at hserializer
    split at hserializer
    · exact (Except.ok.inj hserializer).symm
    · cases hserializer
  subst hcall
  obtain ⟨bins, hbins, hset⟩ := recordOf_bins hunaged
  refine ⟨table, bins, htable, hbins, ?_⟩
  rw [recordWithGeneration_bins haged, ← hset]
  cases ttl <;> rfl

/-- A put of a storable array with room for its entries sends bins that read as
they do. -/
theorem putVerdict_binsRead (hrt : Faithful engine.rt) {args : PutArgs}
    {policy : Option PolicyWrite} {key : AsKey} {record : AsRecord}
    {table : HashTable}
    (hverdict : putVerdict engine client policies args =
      .ok (.keyPut policy key record))
    (hstore : args.store = .array table)
    (hwhole : StoredWhole engine.rt (callSerializer engine args.policy)
      (.array table)) (hfew : table.length < 2 ^ 16) :
    BinsRead engine.rt record.bins table ∧ Distinct sameName record.bins := by
  obtain ⟨table', bins, htable', hbins, hrecord⟩ := putVerdict_bins hverdict
  rw [hstore] at htable'
  obtain rfl := Option.some.inj htable'
  obtain ⟨hstorable, hshort⟩ := hwhole
  rw [Storable] at hstorable
  rw [Zval.leaves] at hshort
  obtain ⟨hnodup, hkeys, hentries⟩ := hstorable
  have hnames := storedAs_keys (storedAs_of_binOf hbins)
  have hdistinct : (bins.map Prod.fst).Nodup := by
    rw [hnames] at hnodup
    exact hnodup.of_map _
  have hfree : ∀ name ∈ bins.map Prod.fst, NulFree name := by
    intro name hmem
    obtain ⟨entry, hentry, hkey⟩ := List.mem_map.mp ((mem_names_iff hnames).mpr hmem)
    have hphp := hkeys entry hentry
    rw [hkey] at hphp
    exact hphp.1
  rw [hrecord, storedBins_eq_self (hbins.length_eq ▸ hfew) hdistinct hfree]
  exact ⟨binsRead_of_storable hrt hbins hkeys hentries hshort,
    distinct_of_names hdistinct⟩

end

end

end AerospikePhp
