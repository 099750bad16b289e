import AerospikePhp.Leaves
import AerospikePhp.Records
import Mathlib.Tactic

/-!
# There and back

What PHP values survive being stored and read again, and what client values
survive being read and stored again.  A map is a set of entries, so equality of
values is up to the order of the entries of maps.
-/

namespace AerospikePhp

open AssociationList List

/-! ## Equality up to the order of maps -/

mutual

def AsVal.Same : AsVal → AsVal → Prop
  | .list items, value =>
      ∃ items', value = .list items' ∧ SameItems items items'
  | .map entries, value =>
      ∃ middle entries', value = .map entries' ∧ SameEntries entries middle ∧
        middle.Perm entries'
  | value, value' => value' = value

def SameItems : List AsVal → List AsVal → Prop
  | [], items' => items' = []
  | item :: items, items' =>
      ∃ item' rest, items' = item' :: rest ∧ item.Same item' ∧
        SameItems items rest

/-- The same keys in the same order, with values that are the same. -/
def SameEntries : List (AsVal × AsVal) → List (AsVal × AsVal) → Prop
  | [], entries' => entries' = []
  | (key, value) :: entries, entries' =>
      ∃ value' rest, entries' = (key, value') :: rest ∧ value.Same value' ∧
        SameEntries entries rest

end

mutual

/-- Lists are the same element by element, other arrays when they have the
same key/value pairs. -/
def Zval.Same : Zval → Zval → Prop
  | .array entries, z =>
      ∃ middle entries', z = .array entries' ∧ SameTable entries middle ∧
        middle.Perm entries' ∧
        (HashTable.hashtableIsList entries = true → middle = entries')
  | z, z' => z' = z

def SameTable : List (ZKey × Zval) → List (ZKey × Zval) → Prop
  | [], table => table = []
  | (key, z) :: entries, table =>
      ∃ z' rest, table = (key, z') :: rest ∧ z.Same z' ∧ SameTable entries rest

end

theorem sameTable_keys :
    ∀ {entries table : List (ZKey × Zval)}, SameTable entries table →
      table.map Prod.fst = entries.map Prod.fst
  | [], table, hsame => by
      rw [SameTable] at hsame
      rw [hsame]
  | (key, z) :: entries, table, hsame => by
      rw [SameTable] at hsame
      obtain ⟨z', rest, rfl, -, hrest⟩ := hsame
      simp [sameTable_keys hrest]

theorem sameEntries_keys :
    ∀ {entries entries' : List (AsVal × AsVal)}, SameEntries entries entries' →
      entries'.map Prod.fst = entries.map Prod.fst
  | [], entries', hsame => by
      rw [SameEntries] at hsame
      rw [hsame]
  | (key, value) :: entries, entries', hsame => by
      rw [SameEntries] at hsame
      obtain ⟨value', rest, rfl, -, hrest⟩ := hsame
      simp [sameEntries_keys hrest]

/-- The values of two tables with the same keys. -/
theorem sameEntries_of_sameItems :
    ∀ {entries : List (AsVal × AsVal)} {items : List AsVal},
      SameItems (entries.map Prod.snd) items →
      ∃ middle, SameEntries entries middle ∧ middle.map Prod.snd = items
  | [], items, hsame => by
      rw [List.map_nil, SameItems] at hsame
      exact ⟨[], by rw [SameEntries], hsame.symm⟩
  | (key, value) :: entries, items, hsame => by
      rw [List.map_cons, SameItems] at hsame
      obtain ⟨value', rest, rfl, hvalue, hrest⟩ := hsame
      obtain ⟨middle, hmiddle, rfl⟩ := sameEntries_of_sameItems hrest
      refine ⟨(key, value') :: middle, ?_, rfl⟩
      rw [SameEntries]
      exact ⟨value', middle, rfl, hvalue, hmiddle⟩

mutual

theorem AsVal.same_refl : ∀ value : AsVal, value.Same value
  | .list items => by
      rw [AsVal.Same]
      exact ⟨items, rfl, sameItems_refl items⟩
  | .map entries => by
      rw [AsVal.Same]
      exact ⟨entries, entries, rfl, sameEntries_refl entries, .refl _⟩
  | .nil | .boolean _ | .integer _ | .double _ | .string _ | .bytes _ _
  | .geojson _ => by simp [AsVal.Same]

theorem sameItems_refl : ∀ items : List AsVal, SameItems items items
  | [] => by rw [SameItems]
  | item :: items => by
      rw [SameItems]
      exact ⟨item, items, rfl, item.same_refl, sameItems_refl items⟩

theorem sameEntries_refl :
    ∀ entries : List (AsVal × AsVal), SameEntries entries entries
  | [] => by rw [SameEntries]
  | (key, value) :: entries => by
      rw [SameEntries]
      exact ⟨value, entries, rfl, value.same_refl, sameEntries_refl entries⟩

end

/-! ## Conversion entry by entry -/

def EncodesTo (rt : Runtime) (serializerType : SerializerType)
    (entry : ZKey × Zval) (pair : AsVal × AsVal) : Prop :=
  pair.1 = zkeyToAsVal entry.1 ∧ encode rt serializerType entry.2 = some pair.2

def DecodesTo (rt : Runtime) (pair : AsVal × AsVal) (entry : ZKey × Zval) :
    Prop :=
  (decode rt pair.1).bind mapKeyOfZval = some entry.1 ∧
    decode rt pair.2 = some entry.2

def sameZKey (key key' : ZKey) : Bool := key = key'

section

variable {rt : Runtime} {serializerType : SerializerType}

theorem update_eq_set (table : HashTable) (key : ZKey) (z : Zval) :
    table.update key z = AssociationList.set sameZKey table key z := by
  induction table with
  | nil => rfl
  | cons entry rest ih =>
      rw [HashTable.update, AssociationList.set, ih]
      simp [sameZKey]

theorem encodeItems_of_forall₂ {entries : List (ZKey × Zval)}
    {pairs : List (AsVal × AsVal)}
    (hpairs : Forall₂ (EncodesTo rt serializerType) entries pairs) :
    encodeItems rt serializerType entries = some (pairs.map Prod.snd) := by
  induction hpairs with
  | nil => rfl
  | cons hentry _ ih =>
      rw [encodeItems]
      simp [hentry.2, ih]

theorem encodePairs_of_forall₂ {entries : List (ZKey × Zval)}
    {pairs : List (AsVal × AsVal)} (before : List (AsVal × AsVal))
    (hpairs : Forall₂ (EncodesTo rt serializerType) entries pairs) :
    encodePairs rt serializerType entries before =
      some (setAll AsVal.sameKey before pairs) := by
  induction hpairs generalizing before with
  | nil => simp [encodePairs]
  | cons hentry _ ih =>
      rw [encodePairs]
      simp only [hentry.2]
      rw [asMapSet_eq_set, ih, setAll_cons, hentry.1]

/-- A table that converts does so entry by entry. -/
theorem forall₂_of_encodePairs {entries : List (ZKey × Zval)}
    {before after : List (AsVal × AsVal)}
    (hafter : encodePairs rt serializerType entries before = some after) :
    ∃ pairs, Forall₂ (EncodesTo rt serializerType) entries pairs ∧
      after = setAll AsVal.sameKey before pairs := by
  induction entries generalizing before with
  | nil =>
      rw [encodePairs] at hafter
      exact ⟨[], .nil, (Option.some.inj hafter).symm⟩
  | cons entry entries ih =>
      obtain ⟨key, z⟩ := entry
      rw [encodePairs] at hafter
      cases hencode : encode rt serializerType z with
      | none => simp [hencode] at hafter
      | some item =>
          simp only [hencode] at hafter
          obtain ⟨pairs, hpairs, hset⟩ := ih hafter
          refine ⟨(zkeyToAsVal key, item) :: pairs,
            .cons ⟨rfl, hencode⟩ hpairs, ?_⟩
          rw [hset, asMapSet_eq_set, setAll_cons]

theorem decodeEntries_of_forall₂ {entries : List (AsVal × AsVal)}
    {table : HashTable} (before : HashTable)
    (htable : Forall₂ (DecodesTo rt) entries table) :
    decodeEntries rt entries before = some (setAll sameZKey before table) := by
  induction htable generalizing before with
  | nil => simp [decodeEntries]
  | @cons entry _ _ _ hentry _ ih =>
      obtain ⟨key, value⟩ := entry
      obtain ⟨z, hz, hkey⟩ := Option.bind_eq_some_iff.mp hentry.1
      have hvalue := hentry.2
      simp only at hz hvalue
      rw [decodeEntries]
      simp only [hz, hkey, hvalue]
      rw [update_eq_set, ih, setAll_cons]

theorem decodeItems_of_forall₂ {items : List AsVal} {zs : List Zval}
    (before : HashTable)
    (hzs : Forall₂ (fun item z => decode rt item = some z) items zs) :
    decodeItems rt items before = some (zs.foldl HashTable.push before) := by
  induction hzs generalizing before with
  | nil => simp [decodeItems]
  | cons hitem _ ih =>
      rw [decodeItems]
      simp only [hitem]
      exact ih _

/-- A list reads into an array with the keys `0, 1, …`. -/
theorem foldl_push_eq (zs : List Zval) (before : HashTable) :
    zs.foldl HashTable.push before = before ++ zs.mapIdx fun i z =>
      (.idx (Int64.ofNat (before.length + i)), z) := by
  induction zs generalizing before with
  | nil => simp
  | cons z zs ih =>
      have hshift : ∀ i, before.length + 1 + i = before.length + (i + 1) := by
        intro i
        omega
      rw [List.foldl_cons, ih]
      simp [HashTable.push, List.mapIdx_cons, hshift]

theorem values_mapIdx (zs : List Zval) (f : ℕ → ZKey) :
    HashTable.values (zs.mapIdx fun i z => (f i, z)) = zs := by
  unfold HashTable.values
  apply List.ext_getElem <;> simp

/-- Pushing the values of a list gives the list. -/
theorem foldl_push_values {table before : HashTable}
    (hlist : HashTable.isListFrom before.length table = true) :
    (HashTable.values table).foldl HashTable.push before = before ++ table := by
  induction table generalizing before with
  | nil => simp
  | cons entry rest ih =>
      obtain ⟨key, z⟩ := entry
      cases key with
      | str name => simp [HashTable.isListFrom] at hlist
      | idx index =>
          rw [HashTable.isListFrom] at hlist
          by_cases hindex : index.toInt = before.length
          · rw [if_pos hindex] at hlist
            have hkey : Int64.ofNat before.length = index := by
              have hround : Int64.ofInt index.toInt = index :=
                Int64.ofInt_toInt index
              rw [← hround, hindex]
              rfl
            have hpush : HashTable.push before z =
                before ++ [(.idx index, z)] := by
              unfold HashTable.push
              rw [hkey]
            have hlength : (before ++ [(ZKey.idx index, z)]).length =
                before.length + 1 := by simp
            rw [HashTable.values_cons, List.foldl_cons, hpush,
              ih (hlength ▸ hlist), List.append_assoc]
            rfl
          · rw [if_neg hindex] at hlist
            cases hlist

theorem isListFrom_congr {table table' : HashTable} (i : ℕ)
    (hkeys : table.map Prod.fst = table'.map Prod.fst) :
    HashTable.isListFrom i table = HashTable.isListFrom i table' := by
  induction table generalizing table' i with
  | nil =>
      have hnil : table' = [] := by simpa using hkeys.symm
      rw [hnil]
  | cons entry rest ih =>
      cases table' with
      | nil => simp at hkeys
      | cons entry' rest' =>
          obtain ⟨key, z⟩ := entry
          obtain ⟨key', z'⟩ := entry'
          simp only [List.map_cons, List.cons.injEq] at hkeys
          obtain ⟨rfl, hrest⟩ := hkeys
          cases key with
          | str name => simp [HashTable.isListFrom]
          | idx index =>
              rw [HashTable.isListFrom, HashTable.isListFrom, ih _ hrest]

end

/-! ## Stored and read again -/

/-- A key of a PHP array without a NUL; a numeric text is never one. -/
def PhpKey : ZKey → Prop
  | .str name => NulFree name ∧ numericKey name = none
  | .idx _ => True

mutual

/-- The values that have a form of their own in the database, with null and
booleans where the PHP serializer takes them. -/
def Storable (rt : Runtime) (serializerType : SerializerType) : Zval → Prop
  | .long _ | .double _ => True
  | .string s => NulFree s
  | .array entries =>
      (entries.map Prod.fst).Nodup ∧ (∀ entry ∈ entries, PhpKey entry.1) ∧
        StorableEntries rt serializerType entries
  | .object className properties =>
      (className = bytesClassName ∧ ∃ s, properties = [("s", .string s)]) ∨
      (className = geojsonClassName ∧
        ∃ s, rt.geojsonToString (.object className properties) =
          some (.string s))
  | .null | .bool _ => serializerType = serializerPhp
  | .undef | .resource | .reference _ => False

def StorableEntries (rt : Runtime) (serializerType : SerializerType) :
    List (ZKey × Zval) → Prop
  | [] => True
  | (_, z) :: entries =>
      Storable rt serializerType z ∧ StorableEntries rt serializerType entries

end

/-- What the round trip needs of PHP: no deserializer of the user, an
`Aerospike\Bytes` object that holds the bytes, and inverse pairs of functions
for GeoJSON and for the PHP serializer, which has a short text for null and for
a boolean. -/
structure Faithful (rt : Runtime) : Prop where
  userDeserializer : rt.userDeserializer = none
  bytesObject : ∀ s,
    rt.bytesObject s = some (.object bytesClassName [("s", .string s)])
  geojson : ∀ properties s,
    rt.geojsonToString (.object geojsonClassName properties) =
        some (.string s) →
      rt.geojsonFromJson s = some (.object geojsonClassName properties)
  phpNull : ∃ text, text.length < 2 ^ 32 ∧
    rt.phpVarSerialize .null = some text ∧ rt.phpVarUnserialize text = some .null
  phpBool : ∀ b, ∃ text, text.length < 2 ^ 32 ∧
    rt.phpVarSerialize (.bool b) = some text ∧
      rt.phpVarUnserialize text = some (.bool b)

/-! ### Bytes that are cut -/

mutual

/-- The value with what is left of the bytes of its `Aerospike\Bytes` objects. -/
def Zval.cutBytes : Zval → Zval
  | .array entries => .array (cutEntries entries)
  | .object className properties =>
      if className = bytesClassName then
        match readProperty properties "s" with
        | .string s => .object className [("s", .string (uint32Prefix s))]
        | _ => .object className properties
      else .object className properties
  | z => z

def cutEntries : List (ZKey × Zval) → List (ZKey × Zval)
  | [] => []
  | (key, z) :: entries => (key, z.cutBytes) :: cutEntries entries

end

/-- An `Aerospike\Bytes` object with fewer than 2³² bytes, or another value. -/
def Zval.ShortBytes : Zval → Prop
  | .object className properties => className = bytesClassName →
      ∀ s, readProperty properties "s" = .string s → s.length < 2 ^ 32
  | _ => True

theorem cutEntries_keys (entries : List (ZKey × Zval)) :
    (cutEntries entries).map Prod.fst = entries.map Prod.fst := by
  induction entries with
  | nil => rfl
  | cons entry entries ih =>
      rw [cutEntries, List.map_cons, List.map_cons, ih]

mutual

/-- How many bytes the `Aerospike\Bytes` objects inside hold together. -/
def Zval.bytesHeld : Zval → ℕ
  | .array entries => heldIn entries
  | .object className properties =>
      if className = bytesClassName then
        match readProperty properties "s" with
        | .string s => s.length
        | _ => 0
      else 0
  | _ => 0

def heldIn : List (ZKey × Zval) → ℕ
  | [] => 0
  | (_, z) :: entries => z.bytesHeld + heldIn entries

end

theorem heldIn_eq_sum (entries : List (ZKey × Zval)) :
    heldIn entries = (entries.map fun entry => entry.2.bytesHeld).sum := by
  induction entries with
  | nil => rfl
  | cons entry entries ih => rw [heldIn, List.map_cons, List.sum_cons, ih]

mutual

theorem same_bytesHeld :
    ∀ {z z' : Zval}, z.Same z' → z'.bytesHeld = z.bytesHeld
  | .array entries, z', hsame => by
      rw [Zval.Same] at hsame
      obtain ⟨middle, entries', rfl, hmiddle, hperm, -⟩ := hsame
      rw [Zval.bytesHeld, Zval.bytesHeld, ← sameTable_heldIn hmiddle,
        heldIn_eq_sum, heldIn_eq_sum]
      exact (hperm.map _).sum_eq.symm
  | .undef, z', hsame | .null, z', hsame | .bool _, z', hsame
  | .long _, z', hsame | .double _, z', hsame | .string _, z', hsame
  | .object _ _, z', hsame | .resource, z', hsame | .reference _, z', hsame => by
      obtain rfl := by simpa [Zval.Same] using hsame
      rfl

theorem sameTable_heldIn :
    ∀ {entries table : List (ZKey × Zval)}, SameTable entries table →
      heldIn table = heldIn entries
  | [], table, hsame => by
      rw [SameTable] at hsame
      rw [hsame]
  | (key, z) :: entries, table, hsame => by
      rw [SameTable] at hsame
      obtain ⟨z', rest, rfl, hz, hrest⟩ := hsame
      rw [heldIn, heldIn, same_bytesHeld hz, sameTable_heldIn hrest]

end

mutual

/-- The cut loses bytes unless every object inside is short. -/
theorem bytesHeld_cutBytes :
    ∀ z : Zval, z.cutBytes.bytesHeld ≤ z.bytesHeld ∧
      (z.cutBytes.bytesHeld = z.bytesHeld ↔ ∀ leaf ∈ z.leaves, leaf.ShortBytes)
  | .array entries => by
      rw [Zval.cutBytes, Zval.bytesHeld, Zval.bytesHeld, Zval.leaves]
      exact heldIn_cutEntries entries
  | .object className properties => by
      have hleaves : (Zval.object className properties).leaves =
          [.object className properties] := by simp [Zval.leaves]
      rw [Zval.cutBytes, hleaves]
      by_cases hclass : className = bytesClassName
      · rw [if_pos hclass]
        cases hs : readProperty properties "s" with
        | string s =>
            have hread : readProperty [("s", Zval.string (uint32Prefix s))] "s" =
                .string (uint32Prefix s) := rfl
            simp only [Zval.bytesHeld, hclass, if_true, hs, hread,
              length_uint32Prefix, List.mem_singleton, forall_eq, Zval.ShortBytes,
              forall_const, Zval.string.injEq, forall_eq']
            omega
        | undef | null | bool _ | long _ | double _ | array _ | object _ _
        | resource | reference _ => simp [Zval.ShortBytes, hs]
      · simp [hclass, Zval.ShortBytes]
  | .undef | .null | .bool _ | .long _ | .double _ | .string _ | .resource
  | .reference _ => by simp [Zval.cutBytes, Zval.leaves, Zval.ShortBytes]

theorem heldIn_cutEntries :
    ∀ entries : List (ZKey × Zval),
      heldIn (cutEntries entries) ≤ heldIn entries ∧
        (heldIn (cutEntries entries) = heldIn entries ↔
          ∀ leaf ∈ leavesOf entries, leaf.ShortBytes)
  | [] => by simp [cutEntries, leavesOf]
  | (key, z) :: entries => by
      obtain ⟨hle, hz⟩ := bytesHeld_cutBytes z
      obtain ⟨hle', hrest⟩ := heldIn_cutEntries entries
      rw [cutEntries, heldIn, heldIn, leavesOf, List.forall_mem_append, ← hz,
        ← hrest]
      omega

end

mutual

/-- Short bytes are not cut. -/
theorem cutBytes_of_short :
    ∀ z : Zval, (∀ leaf ∈ z.leaves, leaf.ShortBytes) →
      Storable rt serializerType z → z.cutBytes = z
  | .array entries, hshort, hstorable => by
      rw [Zval.leaves] at hshort
      rw [Storable] at hstorable
      rw [Zval.cutBytes, cutEntries_of_short entries hshort hstorable.2.2]
  | .object className properties, hshort, hstorable => by
      rw [Zval.cutBytes]
      split
      · next hclass =>
          rw [Storable] at hstorable
          rcases hstorable with ⟨-, s, rfl⟩ | ⟨hgeojson, -⟩
          · have hs := hshort (.object className [("s", .string s)])
              (by simp [Zval.leaves]) hclass s rfl
            show Zval.object className [("s", .string (uint32Prefix s))] = _
            rw [uint32Prefix_of_short hs]
          · rw [hgeojson] at hclass
            exact absurd hclass (by decide)
      · rfl
  | .undef, _, _ | .null, _, _ | .bool _, _, _ | .long _, _, _ | .double _, _, _
  | .string _, _, _ | .resource, _, _ | .reference _, _, _ => by
      simp [Zval.cutBytes]

theorem cutEntries_of_short :
    ∀ entries : List (ZKey × Zval), (∀ leaf ∈ leavesOf entries, leaf.ShortBytes) →
      StorableEntries rt serializerType entries → cutEntries entries = entries
  | [], _, _ => by rw [cutEntries]
  | (key, z) :: entries, hshort, hstorable => by
      rw [leavesOf, List.forall_mem_append] at hshort
      rw [StorableEntries] at hstorable
      rw [cutEntries, cutBytes_of_short z hshort.1 hstorable.1,
        cutEntries_of_short entries hshort.2 hstorable.2]

end

/-! ### What is read back -/

section

variable {rt : Runtime} {serializerType : SerializerType}

theorem decode_zkeyToAsVal {key : ZKey} (hkey : PhpKey key) :
    (decode rt (zkeyToAsVal key)).bind mapKeyOfZval = some key := by
  cases key with
  | idx index => rfl
  | str name =>
      have hname : cString name = name := (cString_eq_self_iff name).mpr hkey.1
      rw [zkeyToAsVal, decode, Option.bind_some, mapKeyOfZval, hname, hname,
        hname, assocKey, hkey.2]

/-- A value, and the values it is the same as, read back to what they were
written from, with its bytes cut. -/
def ReadsBackCut (rt : Runtime) (serializerType : SerializerType) (z : Zval) :
    Prop :=
  ∃ value, encode rt serializerType z = some value ∧
    ∀ value', value.Same value' →
      ∃ z', decode rt value' = some z' ∧ z.cutBytes.Same z'

theorem object_readsBack (hrt : Faithful rt) {className : String}
    {properties : List (String × Zval)}
    (hstorable : Storable rt serializerType (.object className properties)) :
    ReadsBackCut rt serializerType (.object className properties) := by
  rw [Storable] at hstorable
  rcases hstorable with ⟨rfl, s, rfl⟩ | ⟨rfl, s, hs⟩
  · refine ⟨.bytes .blob (uint32Prefix s), rfl, ?_⟩
    intro value' hsame
    obtain rfl : value' = .bytes .blob (uint32Prefix s) := by
      simpa [AsVal.Same] using hsame
    refine ⟨.object bytesClassName [("s", .string (uint32Prefix s))], ?_, ?_⟩
    · rw [decode, decodeBytes, hrt.userDeserializer]
      exact hrt.bytesObject _
    · have hcut : (Zval.object bytesClassName [("s", .string s)]).cutBytes =
          .object bytesClassName [("s", .string (uint32Prefix s))] := rfl
      rw [hcut]
      simp [Zval.Same]
  · have hmatches : classNameMatches geojsonClassName bytesClassName = false := by
      decide
    have hself : classNameMatches geojsonClassName geojsonClassName = true := by
      decide
    refine ⟨.geojson s, ?_, ?_⟩
    · rw [encode, objectValue]
      simp [hmatches, hself, hs]
    · intro value' hsame
      obtain rfl : value' = .geojson s := by simpa [AsVal.Same] using hsame
      have hclass : geojsonClassName ≠ bytesClassName := by decide
      refine ⟨.object geojsonClassName properties, ?_, ?_⟩
      · rw [decode]
        exact hrt.geojson properties s hs
      · rw [Zval.cutBytes, if_neg hclass]
        simp [Zval.Same]

theorem serialized_readsBack {z : Zval}
    (hencode : encode rt serializerPhp z = serializedValue rt serializerPhp z)
    (hz : ∃ text, text.length < 2 ^ 32 ∧ rt.phpVarSerialize z = some text ∧
      rt.phpVarUnserialize text = some z)
    (hsame : z.cutBytes.Same z) : ReadsBackCut rt serializerPhp z := by
  obtain ⟨text, hshort, htext, hback⟩ := hz
  refine ⟨.bytes .php text, ?_, ?_⟩
  · rw [hencode, ← rawBytes_of_short hshort]
    simp [serializedValue, serializerPhp, serializerUser, htext]
  · intro value' hsame'
    obtain rfl : value' = .bytes .php text := by
      simpa [AsVal.Same] using hsame'
    refine ⟨z, ?_, hsame⟩
    rw [decode, decodeBytes]
    exact hback

/-- Each element converts, and whatever is the same as the converted elements
converts back to elements that are the same, with their bytes cut. -/
def EntriesReadBack (rt : Runtime) (serializerType : SerializerType)
    (entries : List (ZKey × Zval)) : Prop :=
  ∃ pairs, Forall₂ (EncodesTo rt serializerType) entries pairs ∧
    ∀ middle, SameEntries pairs middle →
      ∃ table, Forall₂ (DecodesTo rt) middle table ∧
        SameTable (cutEntries entries) table

theorem list_readsBack {entries : List (ZKey × Zval)}
    (hlist : HashTable.hashtableIsList entries = true)
    (hentries : EntriesReadBack rt serializerType entries) :
    ReadsBackCut rt serializerType (.array entries) := by
  obtain ⟨pairs, hpairs, hback⟩ := hentries
  refine ⟨.list (pairs.map Prod.snd), ?_, ?_⟩
  · rw [encode, if_pos hlist, encodeItems_of_forall₂ hpairs]
    rfl
  · intro value' hsame
    rw [AsVal.Same] at hsame
    obtain ⟨items', rfl, hitems⟩ := hsame
    obtain ⟨middle, hmiddle, rfl⟩ := sameEntries_of_sameItems hitems
    obtain ⟨table, htable, hsame⟩ := hback middle hmiddle
    have hzs : Forall₂ (fun item z => decode rt item = some z)
        (middle.map Prod.snd) (HashTable.values table) := by
      unfold HashTable.values
      rw [List.forall₂_map_left_iff, List.forall₂_map_right_iff]
      exact htable.imp fun _ _ h => h.2
    have hkeys := (sameTable_keys hsame).trans (cutEntries_keys entries)
    have hlist' : HashTable.isListFrom ([] : HashTable).length table = true := by
      rw [isListFrom_congr _ hkeys]
      exact hlist
    refine ⟨.array table, ?_, ?_⟩
    · rw [decode, decodeItems_of_forall₂ [] hzs, foldl_push_values hlist']
      rfl
    · rw [Zval.cutBytes, Zval.Same]
      exact ⟨table, table, rfl, hsame, .refl _, fun _ => rfl⟩

theorem zkeyToAsVal_injOn {key key' : ZKey} (hkey : PhpKey key)
    (hkey' : PhpKey key') (heq : zkeyToAsVal key = zkeyToAsVal key') :
    key = key' := by
  cases key with
  | idx index =>
      cases key' with
      | idx index' =>
          rw [zkeyToAsVal, zkeyToAsVal, AsVal.integer.injEq] at heq
          rw [heq]
      | str name' => simp [zkeyToAsVal] at heq
  | str name =>
      cases key' with
      | idx index' => simp [zkeyToAsVal] at heq
      | str name' =>
          have hname := (cString_eq_self_iff name).mpr hkey.1
          have hname' := (cString_eq_self_iff name').mpr hkey'.1
          rw [zkeyToAsVal, zkeyToAsVal, AsVal.string.injEq, hname,
            hname'] at heq
          rw [heq]

theorem encodesTo_keys {entries : List (ZKey × Zval)}
    {pairs : List (AsVal × AsVal)}
    (hpairs : Forall₂ (EncodesTo rt serializerType) entries pairs) :
    pairs.map Prod.fst = entries.map fun entry => zkeyToAsVal entry.1 := by
  induction hpairs with
  | nil => rfl
  | cons hentry _ ih => simp [hentry.1, ih]

theorem distinct_of_keys {pairs : List (AsVal × AsVal)}
    (hnodup : (pairs.map Prod.fst).Nodup) : Distinct AsVal.sameKey pairs := by
  unfold List.Nodup at hnodup
  rw [List.pairwise_map] at hnodup
  refine hnodup.imp ?_
  intro pair pair' hne
  cases hsame : pair.1.sameKey pair'.1 with
  | false => rfl
  | true => exact absurd (eq_of_sameKey hsame) hne

/-- Distinct keys stay distinct as client values. -/
theorem distinct_of_encodesTo {entries : List (ZKey × Zval)}
    {pairs : List (AsVal × AsVal)}
    (hpairs : Forall₂ (EncodesTo rt serializerType) entries pairs)
    (hnodup : (entries.map Prod.fst).Nodup)
    (hkeys : ∀ entry ∈ entries, PhpKey entry.1) :
    Distinct AsVal.sameKey pairs := by
  have hmap := encodesTo_keys hpairs
  have hpairwise : (entries.map fun entry => zkeyToAsVal entry.1).Nodup := by
    unfold List.Nodup at hnodup ⊢
    rw [List.pairwise_map] at hnodup ⊢
    refine hnodup.imp_of_mem ?_
    intro entry entry' hmem hmem' hne heq
    exact hne (zkeyToAsVal_injOn (hkeys entry hmem) (hkeys entry' hmem') heq)
  rw [← hmap] at hpairwise
  exact distinct_of_keys hpairwise

theorem distinct_of_nodup {table : HashTable}
    (hnodup : (table.map Prod.fst).Nodup) : Distinct sameZKey table := by
  unfold List.Nodup at hnodup
  rw [List.pairwise_map] at hnodup
  refine hnodup.imp ?_
  intro entry entry' hne
  simpa [sameZKey] using hne

theorem map_readsBack {entries : List (ZKey × Zval)}
    (hmap : HashTable.hashtableIsList entries = false)
    (hnodup : (entries.map Prod.fst).Nodup)
    (hkeys : ∀ entry ∈ entries, PhpKey entry.1)
    (hentries : EntriesReadBack rt serializerType entries) :
    ReadsBackCut rt serializerType (.array entries) := by
  obtain ⟨pairs, hpairs, hback⟩ := hentries
  have hdistinct := distinct_of_encodesTo hpairs hnodup hkeys
  refine ⟨.map pairs, ?_, ?_⟩
  · rw [encode, if_neg (by simp [hmap]), encodePairs_of_forall₂ [] hpairs,
      setAll_nil_of_distinct hdistinct]
    rfl
  · intro value' hsame
    rw [AsVal.Same] at hsame
    obtain ⟨middle, entries', rfl, hmiddle, hperm⟩ := hsame
    obtain ⟨table, htable, hsame⟩ := hback middle hmiddle
    -- the order in which the map delivers its entries
    obtain ⟨table', htable', hperm'⟩ :=
      List.perm_comp_forall₂ hperm.symm htable
    have hnodup' : (table'.map Prod.fst).Nodup := by
      rw [(hperm'.map Prod.fst).nodup_iff, sameTable_keys hsame,
        cutEntries_keys]
      exact hnodup
    refine ⟨.array table', ?_, ?_⟩
    · rw [decode, decodeEntries_of_forall₂ [] htable',
        setAll_nil_of_distinct (distinct_of_nodup hnodup')]
      rfl
    · have hmap' : HashTable.hashtableIsList (cutEntries entries) = false :=
        (isListFrom_congr 0 (cutEntries_keys entries)).trans hmap
      rw [Zval.cutBytes, Zval.Same]
      exact ⟨table, table', rfl, hsame, hperm'.symm, fun h => by
        rw [hmap'] at h
        cases h⟩

mutual

theorem storable_readsBack (hrt : Faithful rt) :
    ∀ z : Zval, Storable rt serializerType z → ReadsBackCut rt serializerType z
  | .long n, _ => by
      refine ⟨.integer n, by rw [encode], ?_⟩
      intro value' hsame
      obtain rfl : value' = .integer n := by simpa [AsVal.Same] using hsame
      exact ⟨.long n, by rw [decode], by simp [Zval.cutBytes, Zval.Same]⟩
  | .double d, _ => by
      refine ⟨.double d, by rw [encode], ?_⟩
      intro value' hsame
      obtain rfl : value' = .double d := by simpa [AsVal.Same] using hsame
      exact ⟨.double d, by rw [decode], by simp [Zval.cutBytes, Zval.Same]⟩
  | .string s, hstorable => by
      rw [Storable] at hstorable
      have hs := (cString_eq_self_iff s).mpr hstorable
      refine ⟨.string s, by rw [encode, hs], ?_⟩
      intro value' hsame
      obtain rfl : value' = .string s := by simpa [AsVal.Same] using hsame
      exact ⟨.string s, by rw [decode, hs],
        by simp [Zval.cutBytes, Zval.Same]⟩
  | .array entries, hstorable => by
      rw [Storable] at hstorable
      obtain ⟨hnodup, hkeys, hentries⟩ := hstorable
      have hback := storableEntries_readBack hrt entries hkeys hentries
      cases hlist : HashTable.hashtableIsList entries with
      | true => exact list_readsBack hlist hback
      | false => exact map_readsBack hlist hnodup hkeys hback
  | .object className properties, hstorable => object_readsBack hrt hstorable
  | .null, hstorable => by
      rw [Storable] at hstorable
      subst hstorable
      refine serialized_readsBack ?_ hrt.phpNull
        (by simp [Zval.cutBytes, Zval.Same])
      rw [encode] <;> simp
  | .bool b, hstorable => by
      rw [Storable] at hstorable
      subst hstorable
      refine serialized_readsBack ?_ (hrt.phpBool b)
        (by simp [Zval.cutBytes, Zval.Same])
      rw [encode] <;> simp
  | .undef, hstorable | .resource, hstorable | .reference _, hstorable => by
      simp [Storable] at hstorable

theorem storableEntries_readBack (hrt : Faithful rt) :
    ∀ entries : List (ZKey × Zval), (∀ entry ∈ entries, PhpKey entry.1) →
      StorableEntries rt serializerType entries →
        EntriesReadBack rt serializerType entries
  | [], _, _ => by
      refine ⟨[], .nil, ?_⟩
      intro middle hmiddle
      rw [SameEntries] at hmiddle
      exact ⟨[], hmiddle ▸ .nil, by rw [cutEntries, SameTable]⟩
  | (key, z) :: entries, hkeys, hstorable => by
      rw [StorableEntries] at hstorable
      have hkey : PhpKey key := hkeys (key, z) (by simp)
      obtain ⟨value, hvalue, hback⟩ := storable_readsBack hrt z hstorable.1
      obtain ⟨pairs, hpairs, hrest⟩ := storableEntries_readBack hrt entries
        (fun entry hmem => hkeys entry (List.mem_cons_of_mem _ hmem))
        hstorable.2
      refine ⟨(zkeyToAsVal key, value) :: pairs,
        .cons ⟨rfl, hvalue⟩ hpairs, ?_⟩
      intro middle hmiddle
      rw [SameEntries] at hmiddle
      obtain ⟨value', middle', rfl, hsame, hmiddle'⟩ := hmiddle
      obtain ⟨z', hz', hsame'⟩ := hback value' hsame
      obtain ⟨table, htable, htables⟩ := hrest middle' hmiddle'
      refine ⟨(key, z') :: table,
        .cons ⟨decode_zkeyToAsVal hkey, hz'⟩ htable, ?_⟩
      rw [cutEntries, SameTable]
      exact ⟨z', table, rfl, hsame', htables⟩

end

/-- A storable value of which no byte is cut. -/
structure StoredWhole (rt : Runtime) (serializerType : SerializerType)
    (z : Zval) : Prop where
  storable : Storable rt serializerType z
  short : ∀ leaf ∈ z.leaves, leaf.ShortBytes

theorem StoredWhole.readsBack (hrt : Faithful rt) {z : Zval}
    (hwhole : StoredWhole rt serializerType z) :
    ∃ value, encode rt serializerType z = some value ∧
      ∀ value', value.Same value' →
        ∃ z', decode rt value' = some z' ∧ z.Same z' := by
  have hback := storable_readsBack hrt z hwhole.storable
  unfold ReadsBackCut at hback
  rwa [cutBytes_of_short z hwhole.short hwhole.storable] at hback

/-- The value converts, and what the result reads as is the value, in whatever
order the maps deliver their entries. -/
def RoundTrips (rt : Runtime) (serializerType : SerializerType) (z : Zval)
    (err : AsError) : Prop :=
  ∃ value, zvalToAsVal rt serializerType z err = ⟨.ok, some value, err⟩ ∧
    ∀ value', value.Same value' → ∀ err' : AsError, err'.code = .ok →
      ∃ z', asValToZval rt value' err' = ⟨.ok, some z', err'⟩ ∧ z.Same z'

/-- What is stored reads back as it was exactly when each `Aerospike\Bytes`
object inside is shorter than 2³² bytes. -/
theorem zval_roundTrip_iff (rt : Runtime) (serializerType : SerializerType)
    (z : Zval) (err : AsError) (herr : err.code = .ok) (hrt : Faithful rt)
    (hz : Storable rt serializerType z) :
    RoundTrips rt serializerType z err ↔
      ∀ leaf ∈ z.leaves, leaf.ShortBytes := by
  obtain ⟨value, hvalue, hback⟩ := storable_readsBack hrt z hz
  have hencode := zvalToAsVal_refines rt serializerType z herr
  rw [hvalue] at hencode
  have hdecode : ∀ value', value.Same value' → ∀ err' : AsError, err'.code = .ok →
      ∃ z', asValToZval rt value' err' = ⟨.ok, some z', err'⟩ ∧
        z.cutBytes.Same z' := by
    intro value' hsame err' herr'
    obtain ⟨z', hz', hsame'⟩ := hback value' hsame
    have hdecodes := @asValToZval_decodes rt value' err' herr'
    rw [hz'] at hdecodes
    exact ⟨z', hdecodes, hsame'⟩
  constructor
  · rintro ⟨stored, hstored, hreads⟩
    obtain rfl : value = stored := by
      simpa using congrArg Converted.val (hencode.symm.trans hstored)
    obtain ⟨z', hz', hsame⟩ := hreads value value.same_refl .init rfl
    obtain ⟨z'', hz'', hcut⟩ := hdecode value value.same_refl .init rfl
    obtain rfl : z' = z'' := by
      simpa using congrArg Converted.val (hz'.symm.trans hz'')
    -- no byte is missing in what was read
    have hheld : z.cutBytes.bytesHeld = z.bytesHeld :=
      (same_bytesHeld hcut).symm.trans (same_bytesHeld hsame)
    exact (bytesHeld_cutBytes z).2.mp hheld
  · intro hshort
    rw [cutBytes_of_short z hshort hz] at hdecode
    exact ⟨value, hencode, hdecode⟩

end

/-- A runtime with the PHP serializer for null and booleans, objects of
`Aerospike\Bytes`, and one GeoJSON text. -/
def storingRuntime : Runtime :=
  { Runtime.plain with
    phpVarSerialize := fun
      | .null => some "N;"
      | .bool b => some (if b then "b:1;" else "b:0;")
      | _ => none
    phpVarUnserialize := fun text =>
      if text = "N;" then some .null
      else if text = "b:1;" then some (.bool true)
      else if text = "b:0;" then some (.bool false)
      else none
    geojsonToString := fun
      | .object _ [] => some (.string "{}")
      | _ => none
    geojsonFromJson := fun _ => some (.object geojsonClassName [])
    bytesObject := fun s => some (.object bytesClassName [("s", .string s)]) }

theorem storingRuntime_faithful : Faithful storingRuntime where
  userDeserializer := rfl
  bytesObject _ := rfl
  geojson properties s hs := by
    cases properties with
    | nil => rfl
    | cons property rest => cases hs
  phpNull := ⟨"N;", by decide, rfl, rfl⟩
  phpBool b := by
    cases b with
    | false => exact ⟨"b:0;", by decide, rfl, by simp [storingRuntime]⟩
    | true => exact ⟨"b:1;", by decide, rfl, by simp [storingRuntime]⟩

/-- A map with a list of everything inside. -/
def storedEverything : Zval :=
  .array [(.idx 5, .long 1), (.str "x", .array [(.idx 0, .null),
    (.idx 1, .object bytesClassName [("s", .string "b")]),
    (.idx 2, .object geojsonClassName [])])]

theorem storedEverything_storable :
    Storable storingRuntime serializerPhp storedEverything := by
  simp only [storedEverything, Storable, StorableEntries, and_true, true_and]
  refine ⟨by decide, ?_, ⟨by decide, ?_, .inl ⟨"b", rfl⟩, .inr ⟨"{}", rfl⟩⟩⟩
  · intro entry hmem
    fin_cases hmem
    · trivial
    · exact ⟨by decide, by decide⟩
  · intro entry hmem
    fin_cases hmem <;> trivial

theorem storedEverything_whole :
    StoredWhole storingRuntime serializerPhp storedEverything := by
  have hb : "b".length < 2 ^ 32 := by decide
  refine ⟨storedEverything_storable, ?_⟩
  simpa [storedEverything, Zval.leaves, leavesOf, Zval.ShortBytes, readProperty,
    geojsonClassName, bytesClassName] using hb

theorem zval_roundTrip_iff_storedEverything :
    RoundTrips storingRuntime serializerPhp storedEverything .init ↔
      ∀ leaf ∈ storedEverything.leaves, leaf.ShortBytes :=
  zval_roundTrip_iff _ _ _ _ rfl storingRuntime_faithful storedEverything_storable

theorem longBytes_not_back {serializerType : SerializerType} {s : String}
    (hlong : 2 ^ 32 ≤ s.length) :
    ¬ RoundTrips storingRuntime serializerType
      (.object bytesClassName [("s", .string s)]) .init := by
  rintro ⟨value, hvalue, hback⟩
  have hstored : zvalToAsVal storingRuntime serializerType
      (.object bytesClassName [("s", .string s)]) .init =
        ⟨.ok, some (.bytes .blob (uint32Prefix s)), .init⟩ := rfl
  obtain rfl : .bytes .blob (uint32Prefix s) = value := by
    simpa using congrArg Converted.val (hstored.symm.trans hvalue)
  obtain ⟨z', hz', hsame⟩ := hback _ (AsVal.same_refl _) .init rfl
  have hread : asValToZval storingRuntime (.bytes .blob (uint32Prefix s)) .init =
      ⟨.ok, some (.object bytesClassName [("s", .string (uint32Prefix s))]),
        .init⟩ := rfl
  obtain rfl : .object bytesClassName [("s", .string (uint32Prefix s))] = z' := by
    simpa using congrArg Converted.val (hread.symm.trans hz')
  have hwhole : uint32Prefix s = s := by simpa [Zval.Same] using hsame
  exact absurd ((uint32Prefix_eq_self_iff s).mp hwhole) (not_lt.mpr hlong)

/-- An object of 2³² bytes, of which none is stored. -/
def hugeBytes : Zval :=
  .object bytesClassName
    [("s", .string (String.ofList (List.replicate (2 ^ 32) 'a')))]

theorem hugeBytes_not_back :
    Storable storingRuntime serializerNone hugeBytes ∧
      ¬ RoundTrips storingRuntime serializerNone hugeBytes .init := by
  refine ⟨.inl ⟨rfl, _, rfl⟩, longBytes_not_back ?_⟩
  rw [length_ofList_replicate]

end AerospikePhp
