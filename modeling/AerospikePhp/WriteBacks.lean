import AerospikePhp.Dispatch
import AerospikePhp.RoundTrips
import Mathlib.Tactic

/-!
# Read and written back

A client value that is read into PHP and written back.  A PHP array says only
by its keys whether it is a list or a map, and has integers where a map has
numeric texts, so not every map comes back.
-/

namespace AerospikePhp

open AssociationList List

/-! ## The values and the condition -/

def PlainKey : AsVal → Prop
  | .integer _ => True
  | .string s => NulFree s
  | _ => False

mutual

/-- Trees of integers, doubles, texts without a NUL, lists (whose length is a
`uint32_t`) and maps with distinct integers and texts as keys. -/
def PlainTree : AsVal → Prop
  | .integer _ | .double _ => True
  | .string s => NulFree s
  | .list items => items.length < 2 ^ 32 ∧ PlainItems items
  | .map entries =>
      (entries.map Prod.fst).Nodup ∧ (∀ entry ∈ entries, PlainKey entry.1) ∧
        PlainEntries entries
  | .nil | .boolean _ | .bytes _ _ | .geojson _ => False

def PlainItems : List AsVal → Prop
  | [] => True
  | item :: items => PlainTree item ∧ PlainItems items

def PlainEntries : List (AsVal × AsVal) → Prop
  | [] => True
  | (_, value) :: entries => PlainTree value ∧ PlainEntries entries

end

/-- A text that PHP does not turn into an integer key. -/
def KeptKey : AsVal → Prop
  | .string s => numericKey s = none
  | _ => True

/-- The map delivers the keys `0, 1, …, n - 1` in this order; an empty map
does. -/
def CountsUp (entries : List (AsVal × AsVal)) : Prop :=
  ∀ i : Fin entries.length, ∃ n : Int64,
    (entries.get i).1 = .integer n ∧ n.toInt = i

mutual

/-- No map of the tree looks like a list once it is a PHP array, and none has a
numeric text as a key. -/
def KindsKept : AsVal → Prop
  | .list items => KindsKeptItems items
  | .map entries =>
      (∀ entry ∈ entries, KeptKey entry.1) ∧ ¬ CountsUp entries ∧
        KindsKeptEntries entries
  | _ => True

def KindsKeptItems : List AsVal → Prop
  | [] => True
  | item :: items => KindsKept item ∧ KindsKeptItems items

def KindsKeptEntries : List (AsVal × AsVal) → Prop
  | [] => True
  | (_, value) :: entries => KindsKept value ∧ KindsKeptEntries entries

end

/-- What is written back is the value that was read. -/
def ComesBack (rt : Runtime) (serializerType : SerializerType) (value : AsVal)
    (z : Zval) : Prop :=
  ∃ value', encode rt serializerType z = some value' ∧ value.Same value'

section

variable {rt : Runtime} {serializerType : SerializerType}

/-! ## Keys -/

/-- The PHP key of a map key. -/
def phpKey : AsVal → ZKey
  | .integer n => .idx n
  | .string s => assocKey s
  | _ => .idx 0

theorem decode_plainKey {key : AsVal} (hkey : PlainKey key) :
    (decode rt key).bind mapKeyOfZval = some (phpKey key) := by
  cases key with
  | integer n => rfl
  | string s =>
      have hs := (cString_eq_self_iff s).mpr hkey
      rw [decode, Option.bind_some, mapKeyOfZval, hs, hs]
      rfl
  | nil | boolean _ | double _ | bytes _ _ | geojson _ | list _ | map _ =>
      exact hkey.elim

theorem zkeyToAsVal_phpKey {key : AsVal} (hkey : PlainKey key)
    (hkept : KeptKey key) : zkeyToAsVal (phpKey key) = key := by
  cases key with
  | integer n => rfl
  | string s =>
      have hs := (cString_eq_self_iff s).mpr hkey
      have hnot : numericKey s = none := hkept
      rw [phpKey, assocKey, hnot]
      simp only [zkeyToAsVal]
      rw [hs]
  | nil | boolean _ | double _ | bytes _ _ | geojson _ | list _ | map _ =>
      exact hkey.elim

/-- A text that is the key of an array is never a numeric one. -/
theorem keptKey_of_phpKey {key : AsVal} (hkey : PlainKey key) :
    KeptKey (zkeyToAsVal (phpKey key)) := by
  cases key with
  | integer n => trivial
  | string s =>
      have hs := (cString_eq_self_iff s).mpr hkey
      rw [phpKey, assocKey]
      cases hnumeric : numericKey s with
      | some index => trivial
      | none =>
          simp only [zkeyToAsVal]
          rw [hs]
          exact hnumeric
  | nil | boolean _ | double _ | bytes _ _ | geojson _ | list _ | map _ =>
      exact hkey.elim

/-! ## Reading -/

/-- The entries are read one by one, each under its PHP key. -/
def ReadsTo (rt : Runtime) (pair : AsVal × AsVal) (entry : ZKey × Zval) : Prop :=
  entry.1 = phpKey pair.1 ∧ decode rt pair.2 = some entry.2

theorem decodesTo_of_readsTo {entries : List (AsVal × AsVal)}
    {table : HashTable} (hkeys : ∀ entry ∈ entries, PlainKey entry.1)
    (htable : Forall₂ (ReadsTo rt) entries table) :
    Forall₂ (DecodesTo rt) entries table := by
  induction htable with
  | nil => exact .nil
  | @cons pair entry _ _ hentry _ ih =>
      have hkey : PlainKey pair.1 := hkeys pair (by simp)
      refine .cons ⟨?_, hentry.2⟩
        (ih fun pair' hmem => hkeys pair' (List.mem_cons_of_mem _ hmem))
      rw [decode_plainKey hkey, hentry.1]

mutual

theorem plain_decodes :
    ∀ value : AsVal, PlainTree value → ∃ z, decode rt value = some z
  | .integer n, _ => ⟨.long n, by rw [decode]⟩
  | .double d, _ => ⟨.double d, by rw [decode]⟩
  | .string s, _ => ⟨.string (cString s), by rw [decode]⟩
  | .list items, hplain => by
      rw [PlainTree] at hplain
      obtain ⟨zs, hzs⟩ := plainItems_decode items hplain.2
      rw [decode, decodeItems_of_forall₂ [] hzs]
      exact ⟨_, rfl⟩
  | .map entries, hplain => by
      rw [PlainTree] at hplain
      obtain ⟨table, htable⟩ := plainEntries_read entries hplain.2.2
      rw [decode, decodeEntries_of_forall₂ []
        (decodesTo_of_readsTo hplain.2.1 htable)]
      exact ⟨_, rfl⟩
  | .nil, hplain | .boolean _, hplain | .bytes _ _, hplain
  | .geojson _, hplain => by simp [PlainTree] at hplain

theorem plainItems_decode :
    ∀ items : List AsVal, PlainItems items →
      ∃ zs, Forall₂ (fun item z => decode rt item = some z) items zs
  | [], _ => ⟨[], .nil⟩
  | item :: items, hplain => by
      rw [PlainItems] at hplain
      obtain ⟨z, hz⟩ := plain_decodes item hplain.1
      obtain ⟨zs, hzs⟩ := plainItems_decode items hplain.2
      exact ⟨z :: zs, .cons hz hzs⟩

theorem plainEntries_read :
    ∀ entries : List (AsVal × AsVal), PlainEntries entries →
      ∃ table, Forall₂ (ReadsTo rt) entries table
  | [], _ => ⟨[], .nil⟩
  | (key, value) :: entries, hplain => by
      rw [PlainEntries] at hplain
      obtain ⟨z, hz⟩ := plain_decodes value hplain.1
      obtain ⟨table, htable⟩ := plainEntries_read entries hplain.2
      exact ⟨(phpKey key, z) :: table, .cons ⟨rfl, hz⟩ htable⟩

end

theorem readsTo_keys {entries : List (AsVal × AsVal)} {table : HashTable}
    (htable : Forall₂ (ReadsTo rt) entries table) :
    table.map Prod.fst = entries.map fun pair => phpKey pair.1 := by
  induction htable with
  | nil => rfl
  | cons hentry _ ih => simp [hentry.1, ih]

/-- Keys that are kept stay distinct. -/
theorem nodup_of_readsTo {entries : List (AsVal × AsVal)} {table : HashTable}
    (hplain : ∀ entry ∈ entries, PlainKey entry.1)
    (hkept : ∀ entry ∈ entries, KeptKey entry.1)
    (hnodup : (entries.map Prod.fst).Nodup)
    (htable : Forall₂ (ReadsTo rt) entries table) :
    (table.map Prod.fst).Nodup := by
  rw [readsTo_keys htable]
  unfold List.Nodup at hnodup ⊢
  rw [List.pairwise_map] at hnodup ⊢
  refine hnodup.imp_of_mem ?_
  intro pair pair' hmem hmem' hne heq
  have hback := zkeyToAsVal_phpKey (hplain pair hmem) (hkept pair hmem)
  have hback' := zkeyToAsVal_phpKey (hplain pair' hmem') (hkept pair' hmem')
  rw [← hback, heq, hback'] at hne
  exact hne rfl

theorem isListFrom_mapIdx (zs : List Zval) (i : ℕ) (hlength : i + zs.length < 2 ^ 63) :
    HashTable.isListFrom i (zs.mapIdx fun j z =>
      (ZKey.idx (Int64.ofNat (i + j)), z)) = true := by
  induction zs generalizing i with
  | nil => rfl
  | cons z zs ih =>
      rw [List.length_cons] at hlength
      have hindex : (Int64.ofNat (i + 0)).toInt = i := by
        rw [Nat.add_zero]
        exact Int64.toInt_ofNat_of_lt (by omega)
      have hkeys : (fun j z => (ZKey.idx (Int64.ofNat (i + (j + 1))), z)) =
          fun (j : ℕ) (z : Zval) => (ZKey.idx (Int64.ofNat (i + 1 + j)), z) := by
        funext j z
        rw [show i + (j + 1) = i + 1 + j by omega]
      rw [List.mapIdx_cons, HashTable.isListFrom, if_pos hindex, hkeys]
      exact ih (i + 1) (by omega)

/-! ## Writing back -/

/-- The elements of a list come back exactly when each of them does. -/
theorem items_comeBack_iff {items : List AsVal} {zs : List Zval}
    (hitems : Forall₂ (fun item z => ComesBack rt serializerType item z ↔
      KindsKept item) items zs) :
    (∃ items', zs.mapM (encode rt serializerType) = some items' ∧
      SameItems items items') ↔ KindsKeptItems items := by
  induction hitems with
  | nil => simp [SameItems, KindsKeptItems]
  | @cons item z items zs hitem _ ih =>
      rw [KindsKeptItems, ← ih, ← hitem, List.mapM_cons]
      constructor
      · rintro ⟨items', hencode, hsame⟩
        obtain ⟨item', hitem', hrest⟩ := Option.bind_eq_some_iff.mp hencode
        obtain ⟨rest, hrest', heq⟩ := Option.bind_eq_some_iff.mp hrest
        obtain rfl : item' :: rest = items' := Option.some.inj heq
        rw [SameItems] at hsame
        obtain ⟨item'', rest', heq', hhead, htail⟩ := hsame
        obtain ⟨rfl, rfl⟩ := List.cons.inj heq'
        exact ⟨⟨item', hitem', hhead⟩, rest, hrest', htail⟩
      · rintro ⟨⟨item', hitem', hhead⟩, rest, hrest, htail⟩
        refine ⟨item' :: rest, ?_, ?_⟩
        · simp [hitem', hrest]
        · rw [SameItems]
          exact ⟨item', rest, rfl, hhead, htail⟩

/-- So do the values of a map whose keys are kept. -/
theorem entries_comeBack_iff {entries : List (AsVal × AsVal)}
    {table : HashTable} (hplain : ∀ entry ∈ entries, PlainKey entry.1)
    (hkept : ∀ entry ∈ entries, KeptKey entry.1)
    (hentries : Forall₂ (fun pair entry => entry.1 = phpKey pair.1 ∧
      (ComesBack rt serializerType pair.2 entry.2 ↔ KindsKept pair.2))
      entries table) :
    (∃ pairs, Forall₂ (EncodesTo rt serializerType) table pairs ∧
      SameEntries entries pairs) ↔ KindsKeptEntries entries := by
  induction hentries with
  | nil => simp [SameEntries, KindsKeptEntries]
  | @cons pair entry entries table hentry _ ih =>
      obtain ⟨key, value⟩ := pair
      obtain ⟨zKey, z⟩ := entry
      obtain ⟨rfl, hvalue⟩ := hentry
      have hback : zkeyToAsVal (phpKey key) = key :=
        zkeyToAsVal_phpKey (hplain (key, value) (by simp))
          (hkept (key, value) (by simp))
      have hrest := ih (fun entry hmem => hplain entry (by simp [hmem]))
        (fun entry hmem => hkept entry (by simp [hmem]))
      rw [KindsKeptEntries, ← hrest, ← hvalue]
      constructor
      · rintro ⟨pairs, hpairs, hsame⟩
        rw [SameEntries] at hsame
        obtain ⟨value', rest, rfl, hhead, htail⟩ := hsame
        cases hpairs with
        | cons hpair hpairs =>
            exact ⟨⟨value', hpair.2, hhead⟩, rest, hpairs, htail⟩
      · rintro ⟨⟨value', hvalue', hhead⟩, rest, hpairs, htail⟩
        refine ⟨(key, value') :: rest, .cons ⟨hback.symm, hvalue'⟩ hpairs, ?_⟩
        rw [SameEntries]
        exact ⟨value', rest, rfl, hhead, htail⟩

theorem isIndex_phpKey_iff {key : AsVal} (hplain : PlainKey key)
    (hkept : KeptKey key) (i : ℕ) :
    (phpKey key).isIndex i = true ↔
      ∃ n : Int64, key = .integer n ∧ n.toInt = i := by
  cases key with
  | integer n => simp [phpKey, ZKey.isIndex]
  | string s =>
      have hnot : numericKey s = none := hkept
      simp [phpKey, assocKey, hnot, ZKey.isIndex]
  | nil | boolean _ | double _ | bytes _ _ | geojson _ | list _ | map _ =>
      exact hplain.elim

theorem isListFrom_readsTo_iff {entries : List (AsVal × AsVal)}
    {table : HashTable} (hplain : ∀ entry ∈ entries, PlainKey entry.1)
    (hkept : ∀ entry ∈ entries, KeptKey entry.1)
    (htable : Forall₂ (ReadsTo rt) entries table) :
    HashTable.hashtableIsList table = true ↔ CountsUp entries := by
  have hlength : entries.length = table.length := htable.length_eq
  have hget : ∀ (i : ℕ) (hi : i < entries.length) (hi' : i < table.length),
      (table.get ⟨i, hi'⟩).1 = phpKey (entries.get ⟨i, hi⟩).1 := by
    intro i hi hi'
    exact (htable.get hi hi').1
  rw [hashtableIsList_iff]
  unfold KeysCountUp CountsUp
  constructor
  · intro hcount i
    have hi' : i.val < table.length := hlength ▸ i.isLt
    have hindex := hcount ⟨i, hi'⟩
    rw [hget i i.isLt hi'] at hindex
    exact (isIndex_phpKey_iff (hplain _ (List.get_mem _ _))
      (hkept _ (List.get_mem _ _)) i).mp hindex
  · intro hcount i
    have hi : i.val < entries.length := by
      rw [hlength]
      exact i.isLt
    rw [hget i hi i.isLt]
    exact (isIndex_phpKey_iff (hplain _ (List.get_mem _ _))
      (hkept _ (List.get_mem _ _)) i).mpr (hcount ⟨i, hi⟩)

theorem writtenKeys_eq {entries : List (AsVal × AsVal)} {table : HashTable}
    (hplain : ∀ entry ∈ entries, PlainKey entry.1)
    (hkept : ∀ entry ∈ entries, KeptKey entry.1)
    (htable : Forall₂ (ReadsTo rt) entries table) :
    (table.map fun entry => zkeyToAsVal entry.1) = entries.map Prod.fst := by
  induction htable with
  | nil => rfl
  | @cons pair entry _ _ hentry _ ih =>
      have hback : zkeyToAsVal entry.1 = pair.1 := by
        rw [hentry.1]
        exact zkeyToAsVal_phpKey (hplain pair (by simp))
          (hkept pair (by simp))
      have hrest := ih (fun pair' hmem => hplain pair' (by simp [hmem]))
        (fun pair' hmem => hkept pair' (by simp [hmem]))
      rw [List.map_cons, List.map_cons, hback, hrest]

/-- A map with a numeric text among its keys does not come back. -/
theorem numericKey_lost {entries : List (AsVal × AsVal)} {table : HashTable}
    (hplain : ∀ entry ∈ entries, PlainKey entry.1)
    (hlost : ∃ entry ∈ entries, ¬ KeptKey entry.1)
    (htable : Forall₂ (ReadsTo rt) entries table) :
    ¬ ComesBack rt serializerType (.map entries)
      (.array (setAll sameZKey [] table)) := by
  rintro ⟨value', hencode, hsame⟩
  rw [AsVal.Same] at hsame
  obtain ⟨middle, pairs, rfl, hmiddle, hperm⟩ := hsame
  rw [encode] at hencode
  split at hencode
  · simp at hencode
  · obtain ⟨pairs', hpairs', heq⟩ := Option.map_eq_some_iff.mp hencode
    obtain rfl : pairs' = pairs := AsVal.map.inj heq
    obtain ⟨added, hadded, rfl⟩ := forall₂_of_encodePairs hpairs'
    obtain ⟨entry, hentry, hnot⟩ := hlost
    -- the key is still there in what was written
    have hkey : entry.1 ∈ middle.map Prod.fst := by
      rw [sameEntries_keys hmiddle]
      exact List.mem_map_of_mem hentry
    obtain ⟨written, hwritten, hfst⟩ := List.mem_map.mp hkey
    have hmem := of_mem_setAll (fun _ _ => eq_of_sameKey)
      (hperm.subset hwritten)
    have hmem' : written.1 ∈ added.map Prod.fst :=
      List.mem_map_of_mem (by simpa using hmem)
    rw [encodesTo_keys hadded] at hmem'
    obtain ⟨stored, hstored, hzkey⟩ := List.mem_map.mp hmem'
    have hread : stored ∈ table := by
      have hsame : ∀ key key', sameZKey key' key = true → key' = key := by
        intro key key' h
        simpa [sameZKey] using h
      have hset : stored ∈ ([] : HashTable) ∨ stored ∈ table :=
        of_mem_setAll hsame hstored
      simpa using hset
    have hphp : stored.1 ∈ table.map Prod.fst := List.mem_map_of_mem hread
    rw [readsTo_keys htable] at hphp
    obtain ⟨source, hsource, hphpKey⟩ := List.mem_map.mp hphp
    have hkept := keptKey_of_phpKey (hplain source hsource)
    rw [hphpKey, hzkey, hfst] at hkept
    exact hnot hkept

theorem map_comesBack_iff {entries : List (AsVal × AsVal)} {table : HashTable}
    (hnodup : (entries.map Prod.fst).Nodup)
    (hplain : ∀ entry ∈ entries, PlainKey entry.1)
    (htable : Forall₂ (ReadsTo rt) entries table)
    (hentries : Forall₂ (fun pair entry => entry.1 = phpKey pair.1 ∧
      (ComesBack rt serializerType pair.2 entry.2 ↔ KindsKept pair.2))
      entries table) :
    ComesBack rt serializerType (.map entries)
        (.array (setAll sameZKey [] table)) ↔ KindsKept (.map entries) := by
  rw [KindsKept]
  by_cases hkept : ∀ entry ∈ entries, KeptKey entry.1
  · have hnodup' := nodup_of_readsTo hplain hkept hnodup htable
    have hlist := isListFrom_readsTo_iff hplain hkept htable
    have hrest := entries_comeBack_iff hplain hkept hentries
    rw [setAll_nil_of_distinct (distinct_of_nodup hnodup')]
    rw [and_iff_right hkept]
    by_cases hcount : CountsUp entries
    · refine iff_of_false ?_ (by simp [hcount])
      rintro ⟨value', hencode, hsame⟩
      rw [encode, if_pos (hlist.mpr hcount)] at hencode
      obtain ⟨items, -, rfl⟩ := Option.map_eq_some_iff.mp hencode
      simp [AsVal.Same] at hsame
    · have hmap : ¬ HashTable.hashtableIsList table = true :=
        fun h => hcount (hlist.mp h)
      simp only [hcount, not_false_eq_true, true_and]
      rw [← hrest]
      have hkeys : ∀ {pairs : List (AsVal × AsVal)},
          Forall₂ (EncodesTo rt serializerType) table pairs →
          pairs.map Prod.fst = entries.map Prod.fst := by
        intro pairs hpairs
        rw [encodesTo_keys hpairs]
        exact writtenKeys_eq hplain hkept htable
      have hset : ∀ {pairs : List (AsVal × AsVal)},
          Forall₂ (EncodesTo rt serializerType) table pairs →
          setAll AsVal.sameKey [] pairs = pairs := by
        intro pairs hpairs
        refine setAll_nil_of_distinct (distinct_of_keys ?_)
        rw [hkeys hpairs]
        exact hnodup
      constructor
      · rintro ⟨value', hencode, hsame⟩
        rw [encode, if_neg hmap] at hencode
        obtain ⟨pairs, hpairs, rfl⟩ := Option.map_eq_some_iff.mp hencode
        obtain ⟨added, hadded, rfl⟩ := forall₂_of_encodePairs hpairs
        rw [AsVal.Same, hset hadded] at hsame
        obtain ⟨middle, pairs', heq, hmiddle, hperm⟩ := hsame
        obtain rfl : added = pairs' := AsVal.map.inj heq
        have hsameKeys : middle.map Prod.fst = added.map Prod.fst := by
          rw [sameEntries_keys hmiddle, hkeys hadded]
        have hmiddleNodup : (middle.map Prod.fst).Nodup := by
          rw [sameEntries_keys hmiddle]
          exact hnodup
        have hmiddleEq := eq_of_perm_of_keys hperm hsameKeys hmiddleNodup
        exact ⟨added, hadded, hmiddleEq ▸ hmiddle⟩
      · rintro ⟨pairs, hpairs, hsame⟩
        refine ⟨.map pairs, ?_, ?_⟩
        · rw [encode, if_neg hmap, encodePairs_of_forall₂ [] hpairs,
            hset hpairs]
          rfl
        · rw [AsVal.Same]
          exact ⟨pairs, pairs, rfl, hsame, .refl _⟩
  · have hlost : ∃ entry ∈ entries, ¬ KeptKey entry.1 := by
      simpa using hkept
    exact iff_of_false (numericKey_lost hplain hlost htable)
      fun h => hkept h.1

/-! ## The condition -/

mutual

theorem comesBack_iff :
    ∀ (value : AsVal) (z : Zval), PlainTree value → decode rt value = some z →
      (ComesBack rt serializerType value z ↔ KindsKept value)
  | .integer n, z, _, hz => by
      rw [decode] at hz
      obtain rfl := Option.some.inj hz
      refine iff_of_true ⟨.integer n, by rw [encode], ?_⟩ (by simp [KindsKept])
      simp [AsVal.Same]
  | .double d, z, _, hz => by
      rw [decode] at hz
      obtain rfl := Option.some.inj hz
      refine iff_of_true ⟨.double d, by rw [encode], ?_⟩ (by simp [KindsKept])
      simp [AsVal.Same]
  | .string s, z, hplain, hz => by
      rw [PlainTree] at hplain
      have hs := (cString_eq_self_iff s).mpr hplain
      rw [decode, hs] at hz
      obtain rfl := Option.some.inj hz
      refine iff_of_true ⟨.string s, by rw [encode, hs], ?_⟩
        (by simp [KindsKept])
      simp [AsVal.Same]
  | .list items, z, hplain, hz => by
      rw [PlainTree] at hplain
      obtain ⟨zs, hzs⟩ : ∃ zs,
          Forall₂ (fun item z => decode rt item = some z) items zs :=
        plainItems_decode items hplain.2
      have hlength : items.length = zs.length := hzs.length_eq
      rw [decode, decodeItems_of_forall₂ [] hzs, foldl_push_eq] at hz
      simp only [Option.map_some, Option.some.injEq, List.nil_append,
        List.length_nil, Nat.zero_add] at hz
      subst hz
      have hlist : HashTable.hashtableIsList (zs.mapIdx fun i z =>
          (ZKey.idx (Int64.ofNat i), z)) = true := by
        have hfrom := isListFrom_mapIdx zs 0 (by omega)
        simpa [HashTable.hashtableIsList] using hfrom
      have hitems : (∃ items', zs.mapM (encode rt serializerType) =
          some items' ∧ SameItems items items') ↔ _ := items_comeBack_iff
        (plainItems_comeBack items zs hplain.2 hzs)
      rw [KindsKept, ← hitems]
      unfold ComesBack
      rw [encode, if_pos hlist, encodeItems_eq_mapM, values_mapIdx]
      constructor
      · rintro ⟨value', hencode, hsame⟩
        obtain ⟨items', hitems', rfl⟩ := Option.map_eq_some_iff.mp hencode
        rw [AsVal.Same] at hsame
        obtain ⟨items'', heq, hsame⟩ := hsame
        obtain rfl : items' = items'' := AsVal.list.inj heq
        exact ⟨items', hitems', hsame⟩
      · rintro ⟨items', hitems', hsame⟩
        refine ⟨.list items', by rw [hitems']; rfl, ?_⟩
        rw [AsVal.Same]
        exact ⟨items', rfl, hsame⟩
  | .map entries, z, hplain, hz => by
      rw [PlainTree] at hplain
      obtain ⟨table, htable⟩ : ∃ table, Forall₂ (ReadsTo rt) entries table :=
        plainEntries_read entries hplain.2.2
      rw [decode, decodeEntries_of_forall₂ []
        (decodesTo_of_readsTo hplain.2.1 htable)] at hz
      obtain rfl := Option.some.inj hz
      exact map_comesBack_iff hplain.1 hplain.2.1 htable
        (plainEntries_comeBack entries table hplain.2.2 htable)
  | .nil, _, hplain, _ | .boolean _, _, hplain, _ | .bytes _ _, _, hplain, _
  | .geojson _, _, hplain, _ => by simp [PlainTree] at hplain

theorem plainItems_comeBack :
    ∀ (items : List AsVal) (zs : List Zval), PlainItems items →
      Forall₂ (fun item z => decode rt item = some z) items zs →
      Forall₂ (fun item z => ComesBack rt serializerType item z ↔
        KindsKept item) items zs
  | [], _, _, .nil => .nil
  | item :: items, _, hplain, .cons hitem hitems => by
      rw [PlainItems] at hplain
      exact .cons (comesBack_iff item _ hplain.1 hitem)
        (plainItems_comeBack items _ hplain.2 hitems)

theorem plainEntries_comeBack :
    ∀ (entries : List (AsVal × AsVal)) (table : HashTable),
      PlainEntries entries → Forall₂ (ReadsTo rt) entries table →
      Forall₂ (fun pair entry => entry.1 = phpKey pair.1 ∧
        (ComesBack rt serializerType pair.2 entry.2 ↔ KindsKept pair.2))
        entries table
  | [], _, _, .nil => .nil
  | (key, value) :: entries, _, hplain, .cons hentry hentries => by
      rw [PlainEntries] at hplain
      exact .cons ⟨hentry.1, comesBack_iff value _ hplain.1 hentry.2⟩
        (plainEntries_comeBack entries _ hplain.2 hentries)

end

end

/-- Whatever PHP value is read, writing it back gives the value that was
there. -/
def WritesBack (rt : Runtime) (serializerType : SerializerType)
    (value : AsVal) : Prop :=
  ∀ (err : AsError) z, err.code = .ok →
    asValToZval rt value err = ⟨.ok, some z, err⟩ →
    ∀ err' : AsError, err'.code = .ok →
      ∃ value', zvalToAsVal rt serializerType z err' =
          ⟨.ok, some value', err'⟩ ∧ value.Same value'

/-- What is read comes back exactly when no map of the tree looks like a list
to PHP and none has a numeric text as a key. -/
theorem writesBack_iff (rt : Runtime) (serializerType : SerializerType)
    (value : AsVal) (hplain : PlainTree value) :
    WritesBack rt serializerType value ↔ KindsKept value := by
  obtain ⟨z, hz⟩ : ∃ z, decode rt value = some z := plain_decodes value hplain
  have hread : ∀ err : AsError, err.code = .ok →
      asValToZval rt value err = ⟨.ok, some z, err⟩ := by
    intro err herr
    have hdecodes := @asValToZval_decodes rt value err herr
    rw [hz] at hdecodes
    exact hdecodes
  have hiff : ComesBack rt serializerType value z ↔ KindsKept value :=
    comesBack_iff value z hplain hz
  rw [← hiff]
  constructor
  · intro hback
    obtain ⟨value', hwritten, hsame⟩ :=
      hback .init z rfl (hread .init rfl) .init rfl
    have hencode := @zvalToAsVal_refines rt serializerType z .init rfl
    rw [hwritten] at hencode
    cases hvalue : encode rt serializerType z with
    | none =>
        rw [hvalue] at hencode
        exact absurd rfl hencode.1
    | some value'' =>
        rw [hvalue, Converted.Refines] at hencode
        obtain rfl : value' = value'' := by
          simpa using congrArg Converted.val hencode
        exact ⟨value', hvalue, hsame⟩
  · intro hback err z' herr hread' err' herr'
    obtain ⟨value', hencode, hsame⟩ := hback
    have hsameRead := (hread err herr).symm.trans hread'
    obtain rfl : z = z' := by
      simpa using congrArg Converted.val hsameRead
    have hwritten := zvalToAsVal_refines rt serializerType z herr'
    rw [hencode] at hwritten
    exact ⟨value', hwritten, hsame⟩

/-- A map from 5 and "x" to lists and maps that come back. -/
def keptTree : AsVal :=
  .map [(.integer 5, .list [.integer 1, .string "a"]),
    (.string "x", .map [(.integer 1, .double ⟨0⟩)])]

theorem keptTree_plain : PlainTree keptTree := by
  simp only [keptTree, PlainTree, PlainItems, PlainEntries, and_true]
  refine ⟨by simp, ?_, ⟨by decide, trivial, by decide⟩, by simp, ?_⟩
  · intro entry hmem
    fin_cases hmem
    · trivial
    · exact (by decide : NulFree "x")
  · intro entry hmem
    fin_cases hmem
    trivial

theorem writesBack_iff_keptTree :
    WritesBack Runtime.plain serializerNone keptTree ↔ KindsKept keptTree :=
  writesBack_iff _ _ _ keptTree_plain

/-- An empty map is written back as an empty list. -/
theorem emptyMap_not_writesBack :
    ¬ WritesBack Runtime.plain serializerNone (.map []) := by
  intro hback
  have hread : asValToZval Runtime.plain (.map []) .init =
      ⟨.ok, some (.array []), .init⟩ := rfl
  obtain ⟨value', hwritten, hsame⟩ :=
    hback .init (.array []) rfl hread .init rfl
  have hlist : zvalToAsVal Runtime.plain serializerNone (.array []) .init =
      ⟨.ok, some (.list []), .init⟩ := rfl
  obtain rfl : AsVal.list [] = value' := by
    simpa using congrArg Converted.val (hlist.symm.trans hwritten)
  simp [AsVal.Same] at hsame

end AerospikePhp
