import AerospikePhp.Conversions
import AerospikePhp.Library.AssociationList
import Mathlib.Tactic

/-!
# Leaves

A PHP value is a tree of arrays.  Its conversion succeeds exactly when each of
its leaves converts, and then no element of any array is missing.
-/

namespace AerospikePhp

open AssociationList

mutual

/-- The values in the tree that are not arrays. -/
def Zval.leaves : Zval → List Zval
  | .array entries => leavesOf entries
  | z => [z]

def leavesOf : List (ZKey × Zval) → List Zval
  | [] => []
  | (_, z) :: entries => z.leaves ++ leavesOf entries

end

/-- The serializer turns the value into bytes. -/
def Serializes (rt : Runtime) (serializerType : SerializerType) (z : Zval) :
    Prop :=
  (serializerType = serializerUser ∧ ∃ serializer text,
    rt.userSerializer = some serializer ∧ serializer z = some (.string text)) ∨
  (serializerType = serializerPhp ∧ ∃ text, rt.phpVarSerialize z = some text)

def ObjectConverts (rt : Runtime) (serializerType : SerializerType)
    (className : String) (properties : List (String × Zval)) : Prop :=
  if classNameMatches className bytesClassName then
    ∃ s, readProperty properties "s" = .string s
  else if classNameMatches className geojsonClassName then
    ∃ s, rt.geojsonToString (.object className properties) = some (.string s)
  else Serializes rt serializerType (.object className properties)

def LeafConverts (rt : Runtime) (serializerType : SerializerType) :
    Zval → Prop
  | .long _ | .double _ | .string _ => True
  | .object className properties =>
      ObjectConverts rt serializerType className properties
  | z => Serializes rt serializerType z

/-! ## When a value converts -/

section

variable {rt : Runtime} {serializerType : SerializerType}

theorem serializedValue_isSome_iff (z : Zval) :
    (serializedValue rt serializerType z).isSome ↔
      Serializes rt serializerType z := by
  unfold serializedValue Serializes
  by_cases huser : serializerType = serializerUser
  · have hphp : ¬ serializerType = serializerPhp := by
      rw [huser]
      decide
    simp only [huser, if_true, true_and]
    rw [huser] at hphp
    simp only [hphp, false_and, or_false]
    cases rt.userSerializer with
    | none => simp
    | some serializer =>
        cases hcall : serializer z with
        | none => simp [hcall]
        | some result => cases result <;> simp [hcall]
  · by_cases hphp : serializerType = serializerPhp
    · simp only [hphp, if_true, true_and]
      cases hcall : rt.phpVarSerialize z <;>
        simp [serializerPhp, serializerUser]
    · simp [huser, hphp]

theorem objectValue_isSome_iff (className : String)
    (properties : List (String × Zval)) :
    (objectValue rt serializerType className properties).isSome ↔
      ObjectConverts rt serializerType className properties := by
  unfold objectValue ObjectConverts
  split
  · cases readProperty properties "s" <;> simp
  · split
    · cases rt.geojsonToString (.object className properties) with
      | none => simp
      | some result => cases result <;> simp
    · exact serializedValue_isSome_iff _

mutual

theorem encode_isSome_iff :
    ∀ z : Zval, (encode rt serializerType z).isSome ↔
      ∀ leaf ∈ z.leaves, LeafConverts rt serializerType leaf
  | .long _ | .double _ | .string _ => by
      simp [encode, Zval.leaves, LeafConverts]
  | .array entries => by
      have hitems := encodeItems_isSome_iff entries
      have hpairs := encodePairs_isSome_iff entries []
      rw [encode, Zval.leaves]
      split
      · simpa using hitems
      · simpa using hpairs
  | .object className properties => by
      simpa [encode, Zval.leaves, LeafConverts] using
        objectValue_isSome_iff className properties
  | .undef => by
      simpa [encode, Zval.leaves, LeafConverts] using
        serializedValue_isSome_iff .undef
  | .null => by
      simpa [encode, Zval.leaves, LeafConverts] using
        serializedValue_isSome_iff .null
  | .bool value => by
      simpa [encode, Zval.leaves, LeafConverts] using
        serializedValue_isSome_iff (.bool value)
  | .resource => by
      simpa [encode, Zval.leaves, LeafConverts] using
        serializedValue_isSome_iff .resource
  | .reference target => by
      simpa [encode, Zval.leaves, LeafConverts] using
        serializedValue_isSome_iff (.reference target)

theorem encodeItems_isSome_iff :
    ∀ entries : List (ZKey × Zval),
      (encodeItems rt serializerType entries).isSome ↔
        ∀ leaf ∈ leavesOf entries, LeafConverts rt serializerType leaf
  | [] => by simp [encodeItems, leavesOf]
  | (key, z) :: entries => by
      have hz := encode_isSome_iff z
      have hrest := encodeItems_isSome_iff entries
      rw [encodeItems, leavesOf]
      simp only [List.mem_append, or_imp, forall_and]
      rw [← hz, ← hrest]
      cases encode rt serializerType z <;> simp

theorem encodePairs_isSome_iff :
    ∀ (entries : List (ZKey × Zval)) (pairs : List (AsVal × AsVal)),
      (encodePairs rt serializerType entries pairs).isSome ↔
        ∀ leaf ∈ leavesOf entries, LeafConverts rt serializerType leaf
  | [], pairs => by simp [encodePairs, leavesOf]
  | (key, z) :: entries, pairs => by
      have hz := encode_isSome_iff z
      rw [encodePairs, leavesOf]
      simp only [List.mem_append, or_imp, forall_and]
      rw [← hz]
      cases hencode : encode rt serializerType z with
      | none => simp
      | some item =>
          have hrest := encodePairs_isSome_iff entries
            (asMapSet pairs (zkeyToAsVal key) item)
          simpa using hrest

end

end

/-! ## Nothing is dropped -/

theorem asMapSet_eq_set (entries : List (AsVal × AsVal)) (key value : AsVal) :
    asMapSet entries key value = set AsVal.sameKey entries key value := by
  induction entries with
  | nil => rfl
  | cons entry rest ih => rw [asMapSet, AssociationList.set, ih]

theorem eq_of_sameKey {key key' : AsVal} (hsame : key'.sameKey key = true) :
    key' = key := by
  cases key' <;> cases key <;> simp [AsVal.sameKey] at hsame
  · rw [hsame]
  · rw [hsame]

theorem sameKey_eq_false {key key' : ZKey}
    (hne : zkeyToAsVal key' ≠ zkeyToAsVal key) :
    (zkeyToAsVal key').sameKey (zkeyToAsVal key) = false := by
  cases hsame : (zkeyToAsVal key').sameKey (zkeyToAsVal key) with
  | false => rfl
  | true => exact absurd (eq_of_sameKey hsame) hne

mutual

/-- Every container of the tree has arrived with all its elements: a list one
by one, a map under the key of each entry, unless a later entry has the same
key as a C string. -/
def Complete : Zval → AsVal → Prop
  | .array entries, value =>
      if HashTable.hashtableIsList entries then
        ∃ items, value = .list items ∧ CompleteItems entries items
      else ∃ pairs, value = .map pairs ∧ CompletePairs entries pairs
  | _, _ => True

def CompleteItems : List (ZKey × Zval) → List AsVal → Prop
  | [], items => items = []
  | (_, z) :: entries, items =>
      ∃ item rest, items = item :: rest ∧ Complete z item ∧
        CompleteItems entries rest

def CompletePairs : List (ZKey × Zval) → List (AsVal × AsVal) → Prop
  | [], _ => True
  | (key, z) :: entries, pairs =>
      ((∃ entry ∈ entries, zkeyToAsVal entry.1 = zkeyToAsVal key) ∨
        ∃ item, (zkeyToAsVal key, item) ∈ pairs ∧ Complete z item) ∧
      CompletePairs entries pairs

end

section

variable {rt : Runtime} {serializerType : SerializerType}

/-- What is in the map under a key that does not come again stays there. -/
theorem mem_encodePairs {entries : List (ZKey × Zval)} {key : ZKey}
    {item : AsVal} {pairs final : List (AsVal × AsVal)}
    (hmem : (zkeyToAsVal key, item) ∈ pairs)
    (hlast : ∀ entry ∈ entries, zkeyToAsVal entry.1 ≠ zkeyToAsVal key)
    (hfinal : encodePairs rt serializerType entries pairs = some final) :
    (zkeyToAsVal key, item) ∈ final := by
  induction entries generalizing pairs with
  | nil =>
      rw [encodePairs] at hfinal
      exact Option.some.inj hfinal ▸ hmem
  | cons entry entries ih =>
      obtain ⟨key', z⟩ := entry
      rw [encodePairs] at hfinal
      cases hencode : encode rt serializerType z with
      | none => simp [hencode] at hfinal
      | some item' =>
          simp only [hencode] at hfinal
          have hne : zkeyToAsVal key ≠ zkeyToAsVal key' := by
            intro heq
            exact hlast (key', z) (by simp) heq.symm
          have hstays : (zkeyToAsVal key, item) ∈
              asMapSet pairs (zkeyToAsVal key') item' := by
            rw [asMapSet_eq_set]
            exact mem_set_of_mem hmem (sameKey_eq_false hne)
          refine ih hstays ?_ hfinal
          intro entry hentry
          exact hlast entry (List.mem_cons_of_mem _ hentry)

mutual

theorem encode_complete :
    ∀ (z : Zval) {value : AsVal},
      encode rt serializerType z = some value → Complete z value
  | .array entries, value, hvalue => by
      rw [encode] at hvalue
      rw [Complete]
      split at hvalue
      · next hlist =>
          obtain ⟨items, hitems, rfl⟩ := Option.map_eq_some_iff.mp hvalue
          rw [if_pos hlist]
          exact ⟨items, rfl, encodeItems_complete entries hitems⟩
      · next hmap =>
          obtain ⟨pairs, hpairs, rfl⟩ := Option.map_eq_some_iff.mp hvalue
          rw [if_neg hmap]
          exact ⟨pairs, rfl, encodePairs_complete entries [] hpairs⟩
  | .long _, _, _ | .double _, _, _ | .string _, _, _ | .undef, _, _
  | .null, _, _ | .bool _, _, _ | .object _ _, _, _ | .resource, _, _
  | .reference _, _, _ => by simp [Complete]

theorem encodeItems_complete :
    ∀ (entries : List (ZKey × Zval)) {items : List AsVal},
      encodeItems rt serializerType entries = some items →
        CompleteItems entries items
  | [], items, hitems => by
      rw [encodeItems] at hitems
      rw [CompleteItems]
      exact (Option.some.inj hitems).symm
  | (key, z) :: entries, items, hitems => by
      rw [encodeItems] at hitems
      rw [CompleteItems]
      cases hencode : encode rt serializerType z with
      | none => simp [hencode] at hitems
      | some item =>
          simp only [hencode] at hitems
          obtain ⟨rest, hrest, rfl⟩ := Option.map_eq_some_iff.mp hitems
          exact ⟨item, rest, rfl, encode_complete z hencode,
            encodeItems_complete entries hrest⟩

theorem encodePairs_complete :
    ∀ (entries : List (ZKey × Zval)) (pairs : List (AsVal × AsVal))
      {final : List (AsVal × AsVal)},
      encodePairs rt serializerType entries pairs = some final →
        CompletePairs entries final
  | [], pairs, final, hfinal => by simp [CompletePairs]
  | (key, z) :: entries, pairs, final, hfinal => by
      rw [encodePairs] at hfinal
      rw [CompletePairs]
      cases hencode : encode rt serializerType z with
      | none => simp [hencode] at hfinal
      | some item =>
          simp only [hencode] at hfinal
          have hrest := encodePairs_complete entries _ hfinal
          have hset : (zkeyToAsVal key, item) ∈
              asMapSet pairs (zkeyToAsVal key) item := by
            rw [asMapSet_eq_set]
            exact exists_mem_set _ _ fun _ => eq_of_sameKey
          refine ⟨?_, hrest⟩
          by_cases hagain : ∃ entry ∈ entries,
              zkeyToAsVal entry.1 = zkeyToAsVal key
          · exact .inl hagain
          · have hlast : ∀ entry ∈ entries,
                zkeyToAsVal entry.1 ≠ zkeyToAsVal key := by
              intro entry hentry heq
              exact hagain ⟨entry, hentry, heq⟩
            have hmem := mem_encodePairs hset hlast hfinal
            exact .inr ⟨item, hmem, encode_complete z hencode⟩

end

/-- One leaf that does not convert fails the whole value, and without one the
value converts whole. -/
theorem zvalToAsVal_ok_iff_leaves (rt : Runtime)
    (serializerType : SerializerType) (z : Zval) {err : AsError}
    (herr : err.code = .ok) :
    let converted := zvalToAsVal rt serializerType z err
    ((converted.err.code = .ok ∧ ∃ value, converted.val = some value) ↔
      ∀ leaf ∈ z.leaves, LeafConverts rt serializerType leaf) ∧
    ((¬ ∀ leaf ∈ z.leaves, LeafConverts rt serializerType leaf) →
      converted.err.code ≠ .ok ∧ converted.val = none) ∧
    ∀ value, converted.val = some value → Complete z value := by
  have hrefines := zvalToAsVal_refines rt serializerType z herr
  have hleaves : (encode rt serializerType z).isSome ↔
      ∀ leaf ∈ z.leaves, LeafConverts rt serializerType leaf :=
    encode_isSome_iff z
  intro converted
  cases hencode : encode rt serializerType z with
  | none =>
      rw [hencode] at hrefines hleaves
      obtain ⟨-, hval, hcode⟩ := hrefines
      have hnot : ¬ ∀ leaf ∈ z.leaves, LeafConverts rt serializerType leaf := by
        intro hall
        simpa using hleaves.mpr hall
      refine ⟨⟨fun h => absurd h.1 hcode, fun hall => absurd hall hnot⟩,
        fun _ => ⟨hcode, hval⟩, ?_⟩
      intro value hvalue
      exact absurd (hval.symm.trans hvalue) (by simp)
  | some value =>
      rw [hencode] at hrefines hleaves
      have hconverted : converted = ⟨.ok, some value, err⟩ := hrefines
      have hall := hleaves.mp rfl
      rw [hconverted]
      refine ⟨⟨fun _ => hall, fun _ => ⟨herr, value, rfl⟩⟩,
        fun hnot => absurd hall hnot, ?_⟩
      intro value' hvalue
      obtain rfl : value = value' := Option.some.inj hvalue
      exact encode_complete z hencode

end

/-- An array with an integer and a null. -/
def mixedLeaves : Zval := .array [(.idx 0, .long 1), (.idx 1, .null)]

theorem zvalToAsVal_ok_iff_leaves_mixedLeaves :
    let converted := zvalToAsVal Runtime.plain serializerNone mixedLeaves .init
    ((converted.err.code = .ok ∧ ∃ value, converted.val = some value) ↔
      ∀ leaf ∈ mixedLeaves.leaves,
        LeafConverts Runtime.plain serializerNone leaf) ∧
    ((¬ ∀ leaf ∈ mixedLeaves.leaves,
        LeafConverts Runtime.plain serializerNone leaf) →
      converted.err.code ≠ .ok ∧ converted.val = none) ∧
    ∀ value, converted.val = some value → Complete mixedLeaves value :=
  zvalToAsVal_ok_iff_leaves _ _ _ rfl

end AerospikePhp
