import AerospikePhp.Conversions
import Mathlib.Tactic

/-!
# The documented table of types

Which kind of client value each PHP value is documented to become, against the
`switch` of `zval_to_as_val`.  The two part ways at references, which the
`switch` hands to the serializer, at classes whose name is a prefix of the name
of one of the two special classes, and at bytes of 2³² and more.
-/

namespace AerospikePhp

/-! ## The table -/

def ZKey.isIndex (key : ZKey) (i : ℕ) : Bool :=
  match key with
  | .idx index => index.toInt = i
  | .str _ => false

/-- The keys are exactly `0, 1, …, n - 1`, in this order. -/
def KeysCountUp (entries : HashTable) : Prop :=
  ∀ i : Fin entries.length, (entries.get i).1.isIndex i = true

instance (entries : HashTable) : Decidable (KeysCountUp entries) :=
  inferInstanceAs (Decidable (∀ _, _))

/-- The value itself, without the references to it. -/
def Zval.deref : Zval → Zval
  | .reference target => target.deref
  | z => z

section

variable (rt : Runtime) (serializerType : SerializerType)

/-- The string that the serializer makes of a value; `none` when it fails. -/
def serializedText (z : Zval) : Option String :=
  if serializerType = serializerUser then
    match rt.userSerializer.bind fun serializer => serializer z with
    | some (.string s) => some s
    | _ => none
  else if serializerType = serializerPhp then rt.phpVarSerialize z
  else none

/-- The table, for a value that is left to the serializer: all of its string. -/
def tableSerialized (z : Zval) : Option AsVal :=
  (serializedText rt serializerType z).map
    (.bytes (if serializerType = serializerUser then .blob else .php))

/-- The table, for an object: the two special classes are exactly those. -/
def tableObject (className : String) (properties : List (String × Zval)) :
    Option AsVal :=
  if className = bytesClassName then
    match readProperty properties "s" with
    | .string s => some (.bytes .blob s)
    | _ => none
  else if className = geojsonClassName then
    match rt.geojsonToString (.object className properties) with
    | some (.string s) => some (.geojson s)
    | _ => none
  else tableSerialized rt serializerType (.object className properties)

mutual

/-- What a value is documented to be stored as; `none` for an error. -/
def tableValue : Zval → Option AsVal
  | .reference target => tableValue target
  | .long n => some (.integer n)
  | .string s => some (.string (cString s))
  | .double d => some (.double d)
  | .array entries =>
      if KeysCountUp entries then (tableItems entries).map .list
      else (tablePairs entries []).map .map
  | .object className properties =>
      tableObject rt serializerType className properties
  | z => tableSerialized rt serializerType z

def tableItems : List (ZKey × Zval) → Option (List AsVal)
  | [] => some []
  | (_, value) :: entries =>
      match tableValue value with
      | none => none
      | some item => (tableItems entries).map (item :: ·)

def tablePairs :
    List (ZKey × Zval) → List (AsVal × AsVal) → Option (List (AsVal × AsVal))
  | [], pairs => some pairs
  | (key, value) :: entries, pairs =>
      match tableValue value with
      | none => none
      | some item =>
          tablePairs entries (asMapSet pairs (zkeyToAsVal key) item)

end

end

/-- The converter gave the value of the table, or failed with
`AEROSPIKE_ERR_PARAM` where the table has an error. -/
def Converted.Follows (converted : Converted AsVal) (err : AsError) :
    Option AsVal → Prop
  | some value => converted = ⟨.ok, some value, err⟩
  | none => converted.status = .errParam ∧ converted.val = none ∧
      converted.err.code = .errParam

/-- A PHP runtime whose serializers see a reference as the value it refers
to. -/
structure SeesThroughReferences (rt : Runtime) : Prop where
  phpVarSerialize : ∀ target,
    rt.phpVarSerialize (.reference target) = rt.phpVarSerialize target
  userSerializer : ∀ serializer, rt.userSerializer = some serializer →
    ∀ target, serializer (.reference target) = serializer target

/-- The value is converted as the table says. -/
def FollowsTable (rt : Runtime) (serializerType : SerializerType) (z : Zval) :
    Prop :=
  ∀ err, err.code = .ok →
    (zvalToAsVal rt serializerType z err).Follows err
      (tableValue rt serializerType z)

/-! ## Where the code follows it -/

mutual

/-- The value and, for an array, all the values inside it. -/
def Zval.nodes : Zval → List Zval
  | .array entries => .array entries :: nodesOf entries
  | z => [z]

def nodesOf : List (ZKey × Zval) → List Zval
  | [] => []
  | (_, z) :: entries => z.nodes ++ nodesOf entries

end

/-- The table leaves the value to the serializer. -/
def LeftToSerializer : Zval → Prop
  | .long _ | .string _ | .double _ | .array _ => False
  | .object className _ =>
      className ≠ bytesClassName ∧ className ≠ geojsonClassName
  | _ => True

/-- A reference only to what the serializer is to handle, no object whose class
name is a proper prefix of a special one, and fewer than 2³² bytes. -/
def WellDispatched : Zval → Prop
  | .reference target => LeftToSerializer target.deref
  | .object className properties =>
      (className = bytesClassName ∧
          ∀ s, readProperty properties "s" = .string s → s.length < 2 ^ 32) ∨
        className = geojsonClassName ∨
        (classNameMatches className bytesClassName = false ∧
          classNameMatches className geojsonClassName = false)
  | _ => True

/-- What the serializer makes of a value that is left to it is shorter than 2³²
bytes. -/
def ShortText (rt : Runtime) (serializerType : SerializerType) (z : Zval) :
    Prop :=
  LeftToSerializer z.deref →
    ∀ text, serializedText rt serializerType z = some text → text.length < 2 ^ 32

mutual

/-- What is inside a node is inside the value. -/
theorem nodes_trans {node inner : Zval} :
    ∀ {z : Zval}, node ∈ z.nodes → inner ∈ node.nodes → inner ∈ z.nodes
  | .array entries, hnode, hinner => by
      rw [Zval.nodes] at hnode ⊢
      rcases List.mem_cons.mp hnode with rfl | hinside
      · rwa [Zval.nodes] at hinner
      · exact List.mem_cons_of_mem _ (nodesOf_trans hinside hinner)
  | .undef, hnode, hinner | .null, hnode, hinner | .bool _, hnode, hinner
  | .long _, hnode, hinner | .double _, hnode, hinner
  | .string _, hnode, hinner | .object _ _, hnode, hinner
  | .resource, hnode, hinner | .reference _, hnode, hinner => by
      obtain rfl := by simpa [Zval.nodes] using hnode
      exact hinner

theorem nodesOf_trans {node inner : Zval} :
    ∀ {entries : List (ZKey × Zval)}, node ∈ nodesOf entries →
      inner ∈ node.nodes → inner ∈ nodesOf entries
  | (key, z) :: entries, hnode, hinner => by
      rw [nodesOf] at hnode ⊢
      rcases List.mem_append.mp hnode with hhead | hrest
      · exact List.mem_append_left _ (nodes_trans hhead hinner)
      · exact List.mem_append_right _ (nodesOf_trans hrest hinner)

end

theorem isListFrom_iff (i : ℕ) (entries : HashTable) :
    HashTable.isListFrom i entries = true ↔
      ∀ j : Fin entries.length, (entries.get j).1.isIndex (i + j) = true := by
  induction entries generalizing i with
  | nil =>
      rw [HashTable.isListFrom]
      exact iff_of_true rfl fun j => j.elim0
  | cons entry entries ih =>
      obtain ⟨key, z⟩ := entry
      have hsplit : (∀ j : Fin (entries.length + 1),
          (((key, z) :: entries).get j).1.isIndex (i + j) = true) ↔
          key.isIndex i = true ∧ ∀ j : Fin entries.length,
            (entries.get j).1.isIndex (i + (j + 1)) = true := by
        rw [Fin.forall_fin_succ]
        simp
      refine Iff.trans ?_ hsplit.symm
      cases key with
      | str name =>
          rw [HashTable.isListFrom]
          simp [ZKey.isIndex]
      | idx index =>
          rw [HashTable.isListFrom]
          by_cases hindex : index.toInt = i
          · have hshift : ∀ j : ℕ, i + 1 + j = i + (j + 1) := by
              intro j
              omega
            rw [if_pos hindex, ih]
            simp [ZKey.isIndex, hindex, hshift]
          · rw [if_neg hindex]
            simp [ZKey.isIndex, hindex]

theorem hashtableIsList_iff (entries : HashTable) :
    HashTable.hashtableIsList entries = true ↔ KeysCountUp entries := by
  unfold HashTable.hashtableIsList KeysCountUp
  rw [isListFrom_iff]
  simp

section

variable {rt : Runtime} {serializerType : SerializerType}

theorem serializedValue_eq (z : Zval) :
    serializedValue rt serializerType z =
      (serializedText rt serializerType z).map
        (rawBytes · (if serializerType = serializerUser then .blob else .php)) := by
  unfold serializedValue serializedText
  by_cases huser : serializerType = serializerUser
  · simp only [if_pos huser]
    cases rt.userSerializer.bind fun serializer => serializer z with
    | none => rfl
    | some answer => cases answer <;> rfl
  · simp only [if_neg huser]
    split <;> rfl

/-- The serializer's string is stored as a whole when its length is not cut. -/
theorem serializedValue_eq_table_iff (z : Zval) :
    serializedValue rt serializerType z = tableSerialized rt serializerType z ↔
      ∀ text, serializedText rt serializerType z = some text →
        text.length < 2 ^ 32 := by
  rw [serializedValue_eq, tableSerialized]
  cases serializedText rt serializerType z with
  | none => simp
  | some text => simp [rawBytes, uint32Prefix_eq_self_iff]

theorem serializedText_reference (hrt : SeesThroughReferences rt)
    (target : Zval) :
    serializedText rt serializerType (.reference target) =
      serializedText rt serializerType target := by
  unfold serializedText
  rw [hrt.phpVarSerialize]
  cases huser : rt.userSerializer with
  | none => rfl
  | some serializer =>
      simp only [Option.bind_some, hrt.userSerializer serializer huser target]

theorem serializedText_deref (hrt : SeesThroughReferences rt) :
    ∀ z : Zval, serializedText rt serializerType z.deref =
      serializedText rt serializerType z
  | .reference target => by
      rw [Zval.deref, serializedText_deref hrt target,
        serializedText_reference hrt]
  | .undef | .null | .bool _ | .long _ | .double _ | .string _ | .array _
  | .object _ _ | .resource => by simp [Zval.deref]

theorem tableValue_deref :
    ∀ z : Zval, tableValue rt serializerType z.deref =
      tableValue rt serializerType z
  | .reference target => by
      rw [Zval.deref, tableValue, tableValue_deref target]
  | .undef | .null | .bool _ | .long _ | .double _ | .string _ | .array _
  | .object _ _ | .resource => by simp [Zval.deref]

theorem deref_ne_reference (target : Zval) :
    ∀ z : Zval, z.deref ≠ .reference target
  | .reference inner => by
      rw [Zval.deref]
      exact deref_ne_reference target inner
  | .undef | .null | .bool _ | .long _ | .double _ | .string _ | .array _
  | .object _ _ | .resource => by simp [Zval.deref]

theorem tableValue_of_left {z : Zval} (hne : ∀ target, z ≠ .reference target)
    (hleft : LeftToSerializer z) :
    tableValue rt serializerType z = tableSerialized rt serializerType z := by
  cases z with
  | object className properties =>
      rw [tableValue, tableObject, if_neg hleft.1, if_neg hleft.2]
  | reference target => exact absurd rfl (hne target)
  | long _ | string _ | double _ | array _ => exact hleft.elim
  | undef | null | bool _ | resource => rw [tableValue] <;> simp

/-- A reference to what the serializer handles is stored like its target. -/
theorem tableValue_of_left_deref (hrt : SeesThroughReferences rt) {z : Zval}
    (hleft : LeftToSerializer z.deref) :
    tableValue rt serializerType z = tableSerialized rt serializerType z := by
  calc
    tableValue rt serializerType z = tableValue rt serializerType z.deref :=
      (tableValue_deref z).symm
    _ = tableSerialized rt serializerType z.deref :=
      tableValue_of_left (fun inner => deref_ne_reference inner z) hleft
    _ = tableSerialized rt serializerType z := by
      rw [tableSerialized, serializedText_deref hrt, tableSerialized]

theorem classNameMatches_self (name : String) :
    classNameMatches name name = true := by
  simp [classNameMatches]

/-- What is left to the serializer is one that the `switch` hands to it. -/
theorem encode_of_left {z : Zval} (hdispatched : WellDispatched z)
    (hleft : LeftToSerializer z.deref) :
    encode rt serializerType z = serializedValue rt serializerType z := by
  cases z with
  | object className properties =>
      rw [Zval.deref] at hleft
      · rcases hdispatched with ⟨hbytes, -⟩ | hgeojson | ⟨hbytes, hgeojson⟩
        · exact absurd hbytes hleft.1
        · exact absurd hgeojson hleft.2
        · rw [encode, objectValue, if_neg (by simp [hbytes]),
            if_neg (by simp [hgeojson])]
      · simp
  | long _ | string _ | double _ | array _ =>
      rw [Zval.deref] at hleft
      · exact hleft.elim
      · simp
  | undef | null | bool _ | resource | reference _ => rw [encode] <;> simp

/-- A node that is left to the serializer follows the table when the string is
short. -/
theorem encode_eq_table_iff_of_left (hrt : SeesThroughReferences rt) {z : Zval}
    (hdispatched : WellDispatched z) (hleft : LeftToSerializer z.deref) :
    encode rt serializerType z = tableValue rt serializerType z ↔
      ∀ text, serializedText rt serializerType z = some text →
        text.length < 2 ^ 32 := by
  rw [encode_of_left hdispatched hleft, tableValue_of_left_deref hrt hleft,
    serializedValue_eq_table_iff]

/-- An object of one of the two special classes is stored as the table says. -/
theorem objectValue_eq_table {className : String}
    {properties : List (String × Zval)}
    (hclass : WellDispatched (.object className properties))
    (hspecial : ¬ LeftToSerializer (.object className properties)) :
    objectValue rt serializerType className properties =
      tableObject rt serializerType className properties := by
  unfold objectValue tableObject
  rcases hclass with ⟨rfl, hshort⟩ | rfl | ⟨hbytes, hgeojson⟩
  · rw [if_pos (classNameMatches_self _), if_pos rfl]
    cases hs : readProperty properties "s" with
    | string s => simp only [rawBytes_of_short (hshort s hs)]
    | undef | null | bool _ | long _ | double _ | array _ | object _ _ | resource
    | reference _ => rfl
  · have hbytes : ¬ geojsonClassName = bytesClassName := by decide
    have hnot : ¬ classNameMatches geojsonClassName bytesClassName = true := by
      decide
    rw [if_neg hnot, if_neg hbytes, if_pos (classNameMatches_self _)]
    exact (if_pos rfl).symm
  · refine absurd ⟨?_, ?_⟩ hspecial
    · rintro rfl
      rw [classNameMatches_self] at hbytes
      cases hbytes
    · rintro rfl
      rw [classNameMatches_self] at hgeojson
      cases hgeojson

mutual

theorem encode_eq_table (hrt : SeesThroughReferences rt) :
    ∀ z : Zval, (∀ node ∈ z.nodes, WellDispatched node) →
      (∀ node ∈ z.nodes, ShortText rt serializerType node) →
        encode rt serializerType z = tableValue rt serializerType z
  | .array entries, hnodes, hshort => by
      have hmem : ∀ node ∈ nodesOf entries, node ∈ (Zval.array entries).nodes := by
        intro node hnode
        rw [Zval.nodes]
        exact List.mem_cons_of_mem _ hnode
      have hinside : ∀ node ∈ nodesOf entries, WellDispatched node :=
        fun node hnode => hnodes node (hmem node hnode)
      have htexts : ∀ node ∈ nodesOf entries, ShortText rt serializerType node :=
        fun node hnode => hshort node (hmem node hnode)
      rw [encode, tableValue]
      by_cases hlist : KeysCountUp entries
      · rw [if_pos ((hashtableIsList_iff entries).mpr hlist), if_pos hlist,
          encodeItems_eq_table hrt entries hinside htexts]
      · have hnot : ¬ HashTable.hashtableIsList entries = true := by
          rw [hashtableIsList_iff]
          exact hlist
        rw [if_neg hnot, if_neg hlist,
          encodePairs_eq_table hrt entries [] hinside htexts]
  | .object className properties, hnodes, hshort => by
      have hobject := hnodes (.object className properties) (by simp [Zval.nodes])
      by_cases hleft : LeftToSerializer (.object className properties)
      · have hleft' : LeftToSerializer (Zval.object className properties).deref := by
          simpa [Zval.deref] using hleft
        exact (encode_eq_table_iff_of_left hrt hobject hleft').mpr
          (hshort _ (by simp [Zval.nodes]) hleft')
      · rw [encode, tableValue]
        exact objectValue_eq_table hobject hleft
  | .reference target, hnodes, hshort => by
      have hreference := hnodes (.reference target) (by simp [Zval.nodes])
      have hleft : LeftToSerializer (Zval.reference target).deref := by
        rw [Zval.deref]
        exact hreference
      exact (encode_eq_table_iff_of_left hrt hreference hleft).mpr
        (hshort _ (by simp [Zval.nodes]) hleft)
  | .long _, _, _ | .string _, _, _ | .double _, _, _ => by rw [encode, tableValue]
  | .undef, hnodes, hshort | .null, hnodes, hshort | .bool _, hnodes, hshort
  | .resource, hnodes, hshort => by
      refine (encode_eq_table_iff_of_left hrt (hnodes _ ?_) ?_).mpr
        (hshort _ ?_ ?_) <;> simp [Zval.nodes, Zval.deref, LeftToSerializer]

theorem encodeItems_eq_table (hrt : SeesThroughReferences rt) :
    ∀ entries : List (ZKey × Zval),
      (∀ node ∈ nodesOf entries, WellDispatched node) →
      (∀ node ∈ nodesOf entries, ShortText rt serializerType node) →
        encodeItems rt serializerType entries =
          tableItems rt serializerType entries
  | [], _, _ => by rw [encodeItems, tableItems]
  | (key, z) :: entries, hnodes, hshort => by
      rw [nodesOf] at hnodes hshort
      have hz := encode_eq_table hrt z
        (fun node hnode => hnodes node (List.mem_append_left _ hnode))
        fun node hnode => hshort node (List.mem_append_left _ hnode)
      have hrest := encodeItems_eq_table hrt entries
        (fun node hnode => hnodes node (List.mem_append_right _ hnode))
        fun node hnode => hshort node (List.mem_append_right _ hnode)
      simp only [encodeItems, hz, hrest]
      cases hvalue : tableValue rt serializerType z <;> simp only [tableItems, hvalue]

theorem encodePairs_eq_table (hrt : SeesThroughReferences rt) :
    ∀ (entries : List (ZKey × Zval)) (pairs : List (AsVal × AsVal)),
      (∀ node ∈ nodesOf entries, WellDispatched node) →
      (∀ node ∈ nodesOf entries, ShortText rt serializerType node) →
        encodePairs rt serializerType entries pairs =
          tablePairs rt serializerType entries pairs
  | [], pairs, _, _ => by rw [encodePairs, tablePairs]
  | (key, z) :: entries, pairs, hnodes, hshort => by
      rw [nodesOf] at hnodes hshort
      have hz := encode_eq_table hrt z
        (fun node hnode => hnodes node (List.mem_append_left _ hnode))
        fun node hnode => hshort node (List.mem_append_left _ hnode)
      rw [encodePairs, tablePairs, hz]
      cases tableValue rt serializerType z with
      | none => rfl
      | some item =>
          exact encodePairs_eq_table hrt entries _
            (fun node hnode => hnodes node (List.mem_append_right _ hnode))
            fun node hnode => hshort node (List.mem_append_right _ hnode)

end

/-! ## Failures -/

theorem serializedToAsVal_errParam {z : Zval} {err : AsError}
    (hnone : (serializedToAsVal rt serializerType z err).val = none) :
    (serializedToAsVal rt serializerType z err).status = .errParam ∧
      (serializedToAsVal rt serializerType z err).err.code = .errParam := by
  unfold serializedToAsVal at hnone ⊢
  simp only at hnone ⊢
  split at hnone
  · simp at hnone
  · simp

theorem objectToAsVal_errParam {className : String}
    {properties : List (String × Zval)} {err : AsError}
    (hnone : (objectToAsVal rt serializerType className properties err).val =
      none) :
    (objectToAsVal rt serializerType className properties err).status =
        .errParam ∧
      (objectToAsVal rt serializerType className properties err).err.code =
        .errParam := by
  unfold objectToAsVal at hnone ⊢
  split
  · next hbytes =>
      rw [if_pos hbytes] at hnone
      cases hs : readProperty properties "s" <;> simp [hs] at hnone ⊢
  · next hbytes =>
      rw [if_neg hbytes] at hnone
      split
      · next hgeojson =>
          rw [if_pos hgeojson] at hnone
          cases hs : rt.geojsonToString (.object className properties) with
          | none => simp
          | some text => cases text <;> simp [hs] at hnone ⊢
      · next hgeojson =>
          rw [if_neg hgeojson] at hnone
          exact serializedToAsVal_errParam hnone

theorem asListLoop_errParam {entries : List (ZKey × Zval)} {items : List AsVal}
    {err : AsError} (herr : err.code = .ok)
    (hnone : encodeItems rt serializerType entries = none) :
    (asListLoop rt serializerType entries items err).err.code = .errParam := by
  induction entries generalizing items with
  | nil => simp [encodeItems] at hnone
  | cons entry entries ih =>
      obtain ⟨key, z⟩ := entry
      have hz := zvalToAsVal_refines rt serializerType z herr
      rw [encodeItems] at hnone
      rw [asListLoop]
      cases hencode : encode rt serializerType z with
      | none =>
          rw [hencode] at hz
          simp [hz.2.1, asListCleanup]
      | some item =>
          rw [hencode, Converted.Refines] at hz
          have hrest : encodeItems rt serializerType entries = none := by
            simpa [hencode] using hnone
          simp only [hz, herr, ne_eq, not_true, if_false]
          exact ih hrest

theorem asMapLoop_errParam {entries : List (ZKey × Zval)}
    {pairs : List (AsVal × AsVal)} {err : AsError} (herr : err.code = .ok)
    (hnone : encodePairs rt serializerType entries pairs = none) :
    (asMapLoop rt serializerType entries pairs err).status = .errParam ∧
      (asMapLoop rt serializerType entries pairs err).err.code =
        .errParam := by
  induction entries generalizing pairs with
  | nil => simp [encodePairs] at hnone
  | cons entry entries ih =>
      obtain ⟨key, z⟩ := entry
      have hz := zvalToAsVal_refines rt serializerType z herr
      rw [encodePairs] at hnone
      rw [asMapLoop]
      cases hencode : encode rt serializerType z with
      | none =>
          rw [hencode] at hz
          simp [hz.2.1]
      | some item =>
          rw [hencode, Converted.Refines] at hz
          have hrest : encodePairs rt serializerType entries
              (asMapSet pairs (zkeyToAsVal key) item) = none := by
            simpa [hencode] using hnone
          simp only [hz, herr, ne_eq, not_true, if_false]
          exact ih hrest

/-- A value that does not convert is reported with one code. -/
theorem zvalToAsVal_errParam {z : Zval} {err : AsError} (herr : err.code = .ok)
    (hnone : encode rt serializerType z = none) :
    (zvalToAsVal rt serializerType z err).status = .errParam ∧
      (zvalToAsVal rt serializerType z err).err.code = .errParam := by
  have hrefines := zvalToAsVal_refines rt serializerType z herr
  rw [hnone] at hrefines
  have hval := hrefines.2.1
  cases z with
  | long n => simp [encode] at hnone
  | string s => simp [encode] at hnone
  | double d => simp [encode] at hnone
  | array entries =>
      rw [encode] at hnone
      rw [zvalToAsVal]
      split at hnone
      · next hlist =>
          have hitems : encodeItems rt serializerType entries = none := by
            simpa using hnone
          have hcode : (asListLoop rt serializerType entries [] err).err.code =
              .errParam := asListLoop_errParam herr hitems
          rw [if_pos hlist]
          simp only
          split <;> exact ⟨hcode, hcode⟩
      · next hmap =>
          have hpairs : encodePairs rt serializerType entries [] = none := by
            simpa using hnone
          have hcode := (asMapLoop_errParam herr hpairs).2
          rw [if_neg hmap]
          simp only
          split <;> exact ⟨hcode, hcode⟩
  | object className properties =>
      rw [zvalToAsVal] at hval ⊢
      exact objectToAsVal_errParam hval
  | undef | null | bool _ | resource | reference _ =>
      rw [zvalToAsVal] at hval ⊢
      · exact serializedToAsVal_errParam hval
      all_goals simp

theorem zvalToAsVal_follows {z : Zval} {err : AsError} (herr : err.code = .ok) :
    (zvalToAsVal rt serializerType z err).Follows err
      (encode rt serializerType z) := by
  have hrefines := zvalToAsVal_refines rt serializerType z herr
  cases hencode : encode rt serializerType z with
  | some value =>
      rw [hencode] at hrefines
      exact hrefines
  | none =>
      rw [hencode] at hrefines
      have hcode := zvalToAsVal_errParam herr hencode
      exact ⟨hcode.1, hrefines.2.1, hcode.2⟩

theorem follows_inj {converted : Converted AsVal} {err : AsError}
    {value value' : Option AsVal} (hfollows : converted.Follows err value)
    (hfollows' : converted.Follows err value') : value = value' := by
  cases value with
  | none =>
      cases value' with
      | none => rfl
      | some v' =>
          have heq : converted = ⟨.ok, some v', err⟩ := hfollows'
          have hval := hfollows.2.1
          rw [heq] at hval
          cases hval
  | some v =>
      have heq : converted = ⟨.ok, some v, err⟩ := hfollows
      cases value' with
      | none =>
          have hval := hfollows'.2.1
          rw [heq] at hval
          cases hval
      | some v' =>
          have heq' : converted = ⟨.ok, some v', err⟩ := hfollows'
          have hval := heq.symm.trans heq'
          simpa using congrArg Converted.val hval

/-! ## Where the code departs from it -/

/-- A runtime whose serializer gives the same bytes for every value. -/
def constantSerializer : Runtime :=
  { Runtime.plain with phpVarSerialize := fun _ => some "" }

theorem constantSerializer_seesThrough :
    SeesThroughReferences constantSerializer where
  phpVarSerialize _ := rfl
  userSerializer serializer hserializer := by cases hserializer

theorem constantSerializer_short (z : Zval) :
    ShortText constantSerializer serializerPhp z := by
  rintro - text htext
  have hempty : serializedText constantSerializer serializerPhp z = some "" := rfl
  obtain rfl := Option.some.inj (hempty.symm.trans htext)
  decide

theorem serializedValue_constantSerializer (z : Zval) :
    serializedValue constantSerializer serializerPhp z =
      some (.bytes .php "") := rfl

/-- What the serializer does not handle is not stored as serialized bytes. -/
theorem tableValue_ne_php {z : Zval} (hne : ∀ target, z ≠ .reference target)
    (hnot : ¬ LeftToSerializer z) :
    tableValue constantSerializer serializerPhp z ≠ some (.bytes .php "") := by
  cases z with
  | long _ | string _ | double _ => simp [tableValue]
  | array entries =>
      rw [tableValue]
      split <;> simp
  | object className properties =>
      rw [tableValue]
      unfold tableObject
      by_cases hbytes : className = bytesClassName
      · rw [if_pos hbytes]
        cases readProperty properties "s" <;> simp
      · by_cases hgeojson : className = geojsonClassName
        · rw [if_neg hbytes, if_pos hgeojson]
          simp [constantSerializer, Runtime.plain]
        · exact absurd ⟨hbytes, hgeojson⟩ hnot
  | reference target => exact absurd rfl (hne target)
  | undef | null | bool _ | resource => exact absurd trivial hnot

theorem objectValue_ne_php {className : String}
    {properties : List (String × Zval)}
    (hmatches : classNameMatches className bytesClassName = true ∨
      classNameMatches className geojsonClassName = true) :
    objectValue constantSerializer serializerPhp className properties ≠
      some (.bytes .php "") := by
  unfold objectValue
  by_cases hbytes : classNameMatches className bytesClassName = true
  · rw [if_pos hbytes]
    cases readProperty properties "s" <;> simp [rawBytes]
  · rw [if_neg hbytes, if_pos (hmatches.resolve_left hbytes)]
    simp [constantSerializer, Runtime.plain]

/-- Bytes whose length is cut are not what the table says. -/
theorem encode_ne_table_of_long {properties : List (String × Zval)} {s : String}
    (hs : readProperty properties "s" = .string s) (hlong : ¬ s.length < 2 ^ 32) :
    encode rt serializerType (.object bytesClassName properties) ≠
      tableValue rt serializerType (.object bytesClassName properties) := by
  rw [encode, objectValue, if_pos (classNameMatches_self _), tableValue,
    tableObject, if_pos rfl, hs]
  simpa [rawBytes, uint32Prefix_eq_self_iff] using hlong

theorem encode_ne_table_of_bad {z : Zval} (hbad : ¬ WellDispatched z) :
    encode constantSerializer serializerPhp z ≠
      tableValue constantSerializer serializerPhp z := by
  cases z with
  | reference target =>
      have hleft : ¬ LeftToSerializer target.deref := hbad
      have htable := tableValue_ne_php
        (fun inner => deref_ne_reference inner target) hleft
      rw [tableValue_deref] at htable
      have hencode : encode constantSerializer serializerPhp (.reference target) =
          some (.bytes .php "") := by
        rw [encode] <;> simp [serializedValue_constantSerializer]
      rw [hencode, tableValue]
      exact htable.symm
  | object className properties =>
      by_cases hbytes : className = bytesClassName
      · subst hbytes
        have hlong : ¬ ∀ s, readProperty properties "s" = .string s →
            s.length < 2 ^ 32 := fun hshort => hbad (.inl ⟨rfl, hshort⟩)
        obtain ⟨s, hs, hlong⟩ := by simpa only [not_forall] using hlong
        exact encode_ne_table_of_long hs hlong
      · have hgeojson : className ≠ geojsonClassName :=
          fun h => hbad (.inr (.inl h))
        have hmatches : classNameMatches className bytesClassName = true ∨
            classNameMatches className geojsonClassName = true := by
          by_contra hnone
          rw [not_or, Bool.not_eq_true, Bool.not_eq_true] at hnone
          exact hbad (.inr (.inr hnone))
        have htable : tableValue constantSerializer serializerPhp
            (.object className properties) = some (.bytes .php "") := by
          rw [tableValue, tableObject, if_neg hbytes, if_neg hgeojson]
          rfl
        rw [htable, encode]
        exact objectValue_ne_php hmatches
  | undef | null | bool _ | long _ | double _ | string _ | array _ | resource =>
      exact absurd trivial hbad

/-! ## The equivalence -/

theorem followsTable_iff_encode (z : Zval) :
    FollowsTable rt serializerType z ↔
      encode rt serializerType z = tableValue rt serializerType z := by
  constructor
  · intro hfollows
    have hcode : (zvalToAsVal rt serializerType z .init).Follows .init
        (encode rt serializerType z) := zvalToAsVal_follows rfl
    exact follows_inj hcode (hfollows .init rfl)
  · intro heq err herr
    rw [← heq]
    exact zvalToAsVal_follows herr

theorem followsTable_of_dispatched (hrt : SeesThroughReferences rt) {z : Zval}
    (hnodes : ∀ node ∈ z.nodes, WellDispatched node)
    (hshort : ∀ node ∈ z.nodes, ShortText rt serializerType node) :
    ∀ node ∈ z.nodes, FollowsTable rt serializerType node := by
  intro node hnode
  rw [followsTable_iff_encode]
  refine encode_eq_table hrt node ?_ ?_
  · exact fun inner hinner => hnodes inner (nodes_trans hnode hinner)
  · exact fun inner hinner => hshort inner (nodes_trans hnode hinner)

/-- The conversion of a value and of everything inside it follows the table, for
all serializers whose strings are short, exactly when no node is of one of the
kinds that the code mistakes; and for such a value it does so, with the given
serializers, exactly when their strings are short. -/
theorem followsTable_iff (z : Zval) :
    ((∀ rt, SeesThroughReferences rt → ∀ serializerType,
        (∀ node ∈ z.nodes, ShortText rt serializerType node) →
          ∀ node ∈ z.nodes, FollowsTable rt serializerType node) ↔
      ∀ node ∈ z.nodes, WellDispatched node) ∧
    ((∀ node ∈ z.nodes, WellDispatched node) →
      ∀ rt, SeesThroughReferences rt → ∀ serializerType,
        ((∀ node ∈ z.nodes, FollowsTable rt serializerType node) ↔
          ∀ node ∈ z.nodes, ShortText rt serializerType node)) := by
  refine ⟨⟨?_, ?_⟩, ?_⟩
  · intro hfollows node hnode
    by_contra hbad
    have hnode' := hfollows constantSerializer constantSerializer_seesThrough
      serializerPhp (fun inner _ => constantSerializer_short inner) node hnode
    exact encode_ne_table_of_bad hbad ((followsTable_iff_encode node).mp hnode')
  · intro hgood rt hrt serializerType hshort
    exact followsTable_of_dispatched hrt hgood hshort
  · intro hgood rt hrt serializerType
    refine ⟨?_, followsTable_of_dispatched hrt hgood⟩
    intro hfollows node hnode hleft
    exact (encode_eq_table_iff_of_left hrt (hgood node hnode) hleft).mp
      ((followsTable_iff_encode node).mp (hfollows node hnode))

end

/-- An array whose element is a reference to an integer. -/
def referenceInArray : Zval := .array [(.idx 0, .reference (.long 7))]

theorem plain_seesThrough : SeesThroughReferences Runtime.plain :=
  ⟨fun _ => rfl, fun _ hserializer => by cases hserializer⟩

theorem referenceInArray_not_followsTable :
    SeesThroughReferences Runtime.plain ∧
      ¬ FollowsTable Runtime.plain serializerNone referenceInArray := by
  refine ⟨plain_seesThrough, fun hfollows => ?_⟩
  have htable := hfollows .init rfl
  have hexpected : tableValue Runtime.plain serializerNone referenceInArray =
      some (.list [.integer 7]) := by
    have hkeys : KeysCountUp [(.idx 0, .reference (.long 7))] := by decide
    simp [referenceInArray, tableValue, hkeys, tableItems]
  rw [hexpected] at htable
  have hcode : (zvalToAsVal Runtime.plain serializerNone referenceInArray
      .init).status = .errParam := by decide +kernel
  have hok : (zvalToAsVal Runtime.plain serializerNone referenceInArray
      .init).status = .ok := congrArg Converted.status htable
  exact absurd (hcode.symm.trans hok) (by decide)

end AerospikePhp
