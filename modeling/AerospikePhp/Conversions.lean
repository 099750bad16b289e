import AerospikePhp.Value
import Mathlib.Tactic

/-!
# Conversion of PHP values to client values

`zvalToAsVal` and the loops it is mutually recursive with.  Every converter
gives back a status, the value written through its out-parameter (`none` for a
NULL pointer) and the error object, because its callers look at different ones
of the three.
-/

namespace AerospikePhp

def bytesClassName : String := "Aerospike\\Bytes"
def geojsonClassName : String := "Aerospike\\GeoJSON"

/-- `strncmp(class_name, name, class_name_len) == 0`: the class name is a
prefix of `name`. -/
def classNameMatches (className name : String) : Bool :=
  className.toList.isPrefixOf name.toList

/-- `zend_read_property`, which gives null for a property that is not there. -/
def readProperty (properties : List (String × Zval)) (name : String) : Zval :=
  match properties.find? (fun property => property.1 = name) with
  | some property => property.2
  | none => .null

/-- `serialize_with_user_function` as `serialize_php_object` calls it, with
`SERIALIZER_USER`. -/
def serializeWithUserFunction (rt : Runtime) (z : Zval) (err : AsError) :
    Converted AsVal :=
  match rt.userSerializer with
  | none =>
      ⟨.errClient, none, err.update .errClient "No serializer registered"⟩
  | some serializer =>
      match serializer z with
      | none => ⟨.errClient, none, err.update .errClient "Serialization failed"⟩
      | some (.string s) => ⟨.ok, some (rawBytes s .blob), err⟩
      | some _ =>
          ⟨.errClient, none,
            err.update .errClient "Serializer must return a string"⟩

def serializePhpObject (rt : Runtime) (serializerType : SerializerType)
    (z : Zval) (err : AsError) : Converted AsVal :=
  if serializerType = serializerUser then
    let user := serializeWithUserFunction rt z err
    if user.err.code ≠ .ok then ⟨user.err.code, none, user.err⟩
    else ⟨user.err.code, user.val, user.err⟩
  else if serializerType = serializerPhp then
    match rt.phpVarSerialize z with
    | none =>
        ⟨.errParam, none, err.update .errParam "Failed to serialize object"⟩
    | some text => ⟨.ok, some (rawBytes text .php), err⟩
  else
    ⟨.errParam, none, err.update .errParam "Serialization failed"⟩

/-- The end of the `default` branch of `zval_to_as_val`. -/
def serializedToAsVal (rt : Runtime) (serializerType : SerializerType)
    (z : Zval) (err : AsError) : Converted AsVal :=
  let serialized := serializePhpObject rt serializerType z err
  match serialized.val with
  | some bytes => ⟨.ok, some bytes, serialized.err⟩
  | none =>
      ⟨.errParam, none,
        serialized.err.update .errParam "Unable to convert value to as type"⟩

/-- The `default` branch of `zval_to_as_val` for an object. -/
def objectToAsVal (rt : Runtime) (serializerType : SerializerType)
    (className : String) (properties : List (String × Zval)) (err : AsError) :
    Converted AsVal :=
  if classNameMatches className bytesClassName then
    match readProperty properties "s" with
    | .string s => ⟨err.code, some (rawBytes s .blob), err⟩
    | _ =>
        ⟨.errParam, none,
          err.update .errParam "Type of bytes is non string"⟩
  else if classNameMatches className geojsonClassName then
    match rt.geojsonToString (.object className properties) with
    | some (.string s) => ⟨err.code, some (.geojson s), err⟩
    | _ =>
        ⟨.errParam, none, err.update .errParam "Failed to convert geojson"⟩
  else
    serializedToAsVal rt serializerType (.object className properties) err

/-- The `CLEANUP` of `z_hashtable_to_as_list`: the list is dropped when the
error object holds an error, and the status is `AEROSPIKE_OK` always. -/
def asListCleanup (items : List AsVal) (err : AsError) :
    Converted (List AsVal) :=
  if err.code ≠ .ok then ⟨.ok, none, err⟩ else ⟨.ok, some items, err⟩

def zkeyToAsVal : ZKey → AsVal
  | .str name => .string (cString name)
  | .idx index => .integer index

mutual

def zvalToAsVal (rt : Runtime) (serializerType : SerializerType) :
    Zval → AsError → Converted AsVal
  | .long n, err => ⟨err.code, some (.integer n), err⟩
  | .string s, err => ⟨err.code, some (.string (cString s)), err⟩
  | .double d, err => ⟨err.code, some (.double d), err⟩
  | .array entries, err =>
      if HashTable.hashtableIsList entries then
        let list := asListLoop rt serializerType entries [] err
        if list.status = .ok then
          ⟨list.err.code, list.val.map .list, list.err⟩
        else
          ⟨list.err.code, none, list.err⟩
      else
        let map := asMapLoop rt serializerType entries [] err
        if map.status = .ok then ⟨map.err.code, map.val.map .map, map.err⟩
        else ⟨map.err.code, none, map.err⟩
  | .object className properties, err =>
      objectToAsVal rt serializerType className properties err
  | z, err => serializedToAsVal rt serializerType z err

/-- The loop of `z_hashtable_to_as_list`, with the items appended so far. -/
def asListLoop (rt : Runtime) (serializerType : SerializerType) :
    List (ZKey × Zval) → List AsVal → AsError → Converted (List AsVal)
  | [], items, err => asListCleanup items err
  | (_, value) :: entries, items, err =>
      let converted := zvalToAsVal rt serializerType value err
      match converted.val with
      | none =>
          asListCleanup items
            (converted.err.update .errParam "Failed to convert item to a list")
      | some item =>
          if converted.err.code ≠ .ok then
            asListCleanup items
              (converted.err.update .errParam
                "Failed to convert item to a list")
          else
            asListLoop rt serializerType entries (items ++ [item])
              converted.err

/-- The loop of `z_hashtable_to_as_map`, with the entries set so far.  A value
that does not convert leaves the partial map behind and returns the code. -/
def asMapLoop (rt : Runtime) (serializerType : SerializerType) :
    List (ZKey × Zval) → List (AsVal × AsVal) → AsError →
      Converted (List (AsVal × AsVal))
  | [], pairs, err =>
      if err.code ≠ .ok then ⟨err.code, none, err⟩
      else ⟨err.code, some pairs, err⟩
  | (key, value) :: entries, pairs, err =>
      let converted := zvalToAsVal rt serializerType value err
      match converted.val with
      | none =>
          let err := converted.err.update .errParam
            "Failed to convert value to aerospike map"
          ⟨err.code, some pairs, err⟩
      | some item =>
          if converted.err.code ≠ .ok then
            let err := converted.err.update .errParam
              "Failed to convert value to aerospike map"
            ⟨err.code, some pairs, err⟩
          else
            asMapLoop rt serializerType entries
              (asMapSet pairs (zkeyToAsVal key) item) converted.err

end

/-- `z_hashtable_to_as_list` with `*list == NULL`, as all its callers pass
it. -/
def zHashtableToAsList (rt : Runtime) (serializerType : SerializerType)
    (table : HashTable) (err : AsError) : Converted (List AsVal) :=
  asListLoop rt serializerType table [] err

def zHashtableToAsMap (rt : Runtime) (serializerType : SerializerType)
    (table : HashTable) (err : AsError) : Converted (List (AsVal × AsVal)) :=
  asMapLoop rt serializerType table [] err

/-! ## The value a PHP value stands for

`encode` says what a PHP value is converted to, or that it cannot be, without
a status, an error object or a pointer.  The converters refine it from every
error object that holds no error.
-/

def serializedValue (rt : Runtime) (serializerType : SerializerType)
    (z : Zval) : Option AsVal :=
  if serializerType = serializerUser then
    match rt.userSerializer.bind fun serializer => serializer z with
    | some (.string s) => some (rawBytes s .blob)
    | _ => none
  else if serializerType = serializerPhp then
    (rt.phpVarSerialize z).map (rawBytes · .php)
  else none

def objectValue (rt : Runtime) (serializerType : SerializerType)
    (className : String) (properties : List (String × Zval)) : Option AsVal :=
  if classNameMatches className bytesClassName then
    match readProperty properties "s" with
    | .string s => some (rawBytes s .blob)
    | _ => none
  else if classNameMatches className geojsonClassName then
    match rt.geojsonToString (.object className properties) with
    | some (.string s) => some (.geojson s)
    | _ => none
  else serializedValue rt serializerType (.object className properties)

mutual

def encode (rt : Runtime) (serializerType : SerializerType) :
    Zval → Option AsVal
  | .long n => some (.integer n)
  | .string s => some (.string (cString s))
  | .double d => some (.double d)
  | .array entries =>
      if HashTable.hashtableIsList entries then
        (encodeItems rt serializerType entries).map .list
      else (encodePairs rt serializerType entries []).map .map
  | .object className properties =>
      objectValue rt serializerType className properties
  | z => serializedValue rt serializerType z

def encodeItems (rt : Runtime) (serializerType : SerializerType) :
    List (ZKey × Zval) → Option (List AsVal)
  | [] => some []
  | (_, value) :: entries =>
      match encode rt serializerType value with
      | none => none
      | some item => (encodeItems rt serializerType entries).map (item :: ·)

def encodePairs (rt : Runtime) (serializerType : SerializerType) :
    List (ZKey × Zval) → List (AsVal × AsVal) → Option (List (AsVal × AsVal))
  | [], pairs => some pairs
  | (key, value) :: entries, pairs =>
      match encode rt serializerType value with
      | none => none
      | some item =>
          encodePairs rt serializerType entries
            (asMapSet pairs (zkeyToAsVal key) item)

end

/-- The array converts to a list exactly when each element does, and then
element by element. -/
theorem encodeItems_eq_mapM (rt : Runtime) (serializerType : SerializerType)
    (entries : HashTable) :
    encodeItems rt serializerType entries =
      (HashTable.values entries).mapM (encode rt serializerType) := by
  induction entries with
  | nil => rfl
  | cons entry entries ih =>
      obtain ⟨key, value⟩ := entry
      rw [encodeItems, HashTable.values_cons, List.mapM_cons, ih]
      cases encode rt serializerType value with
      | none => rfl
      | some item =>
          cases (HashTable.values entries).mapM (encode rt serializerType) <;>
            rfl

/-! ## Refinement -/

/-- The converter gave the value and left the error object alone, or it gave
no value and reports an error. -/
def Converted.Refines (converted : Converted AsVal) (err : AsError) :
    Option AsVal → Prop
  | some value => converted = ⟨.ok, some value, err⟩
  | none =>
      converted.status ≠ .ok ∧ converted.val = none ∧ converted.err.code ≠ .ok

theorem serializedToAsVal_refines (rt : Runtime)
    (serializerType : SerializerType) (z : Zval) {err : AsError}
    (herr : err.code = .ok) :
    (serializedToAsVal rt serializerType z err).Refines err
      (serializedValue rt serializerType z) := by
  unfold serializedToAsVal serializePhpObject serializedValue
  by_cases huser : serializerType = serializerUser
  · simp only [huser, if_true]
    unfold serializeWithUserFunction
    cases rt.userSerializer with
    | none => simp [Converted.Refines]
    | some serializer =>
        simp only [Option.bind_some]
        cases hcall : serializer z with
        | none => simp [Converted.Refines]
        | some text => cases text <;> simp [Converted.Refines, herr]
  · by_cases hphp : serializerType = serializerPhp
    · simp only [hphp, if_true]
      cases rt.phpVarSerialize z <;>
        simp [Converted.Refines, serializerPhp, serializerUser]
    · simp [huser, hphp, Converted.Refines]

theorem objectToAsVal_refines (rt : Runtime)
    (serializerType : SerializerType) (className : String)
    (properties : List (String × Zval)) {err : AsError}
    (herr : err.code = .ok) :
    (objectToAsVal rt serializerType className properties err).Refines err
      (objectValue rt serializerType className properties) := by
  unfold objectToAsVal objectValue
  split
  · cases readProperty properties "s" <;> simp [Converted.Refines, herr]
  · split
    · cases rt.geojsonToString (.object className properties) with
      | none => simp [Converted.Refines]
      | some text => cases text <;> simp [Converted.Refines, herr]
    · exact serializedToAsVal_refines rt serializerType _ herr

mutual

theorem zvalToAsVal_refines (rt : Runtime) (serializerType : SerializerType) :
    ∀ (z : Zval) {err : AsError}, err.code = .ok →
      (zvalToAsVal rt serializerType z err).Refines err
        (encode rt serializerType z)
  | .long _, err, herr => by simp [zvalToAsVal, encode, Converted.Refines, herr]
  | .string _, err, herr => by
      simp [zvalToAsVal, encode, Converted.Refines, herr]
  | .double _, err, herr => by
      simp [zvalToAsVal, encode, Converted.Refines, herr]
  | .array entries, err, herr => by
      rw [zvalToAsVal, encode]
      split
      · have hlist := asListLoop_refines rt serializerType entries [] herr
        cases hitems : encodeItems rt serializerType entries with
        | none =>
            rw [hitems] at hlist
            simp [hlist, Converted.Refines]
        | some items =>
            rw [hitems] at hlist
            simp [hlist, Converted.Refines, herr]
      · have hmap := asMapLoop_refines rt serializerType entries [] herr
        cases hpairs : encodePairs rt serializerType entries [] with
        | none =>
            rw [hpairs] at hmap
            simp [hmap, Converted.Refines]
        | some pairs =>
            rw [hpairs] at hmap
            simp [hmap, Converted.Refines, herr]
  | .object className properties, err, herr => by
      rw [zvalToAsVal, encode]
      exact objectToAsVal_refines rt serializerType className properties herr
  | .undef, err, herr | .null, err, herr | .bool _, err, herr
  | .resource, err, herr | .reference _, err, herr => by
      rw [zvalToAsVal, encode]
      · exact serializedToAsVal_refines rt serializerType _ herr
      all_goals simp

theorem asListLoop_refines (rt : Runtime) (serializerType : SerializerType) :
    ∀ (entries : List (ZKey × Zval)) (items : List AsVal) {err : AsError},
      err.code = .ok →
      match encodeItems rt serializerType entries with
      | some rest =>
          asListLoop rt serializerType entries items err =
            ⟨.ok, some (items ++ rest), err⟩
      | none =>
          (asListLoop rt serializerType entries items err).status = .ok ∧
          (asListLoop rt serializerType entries items err).val = none ∧
          (asListLoop rt serializerType entries items err).err.code ≠ .ok
  | [], items, err, herr => by
      simp [encodeItems, asListLoop, asListCleanup, herr]
  | (key, value) :: entries, items, err, herr => by
      have hvalue := zvalToAsVal_refines rt serializerType value herr
      rw [encodeItems, asListLoop]
      cases hitem : encode rt serializerType value with
      | none =>
          rw [hitem] at hvalue
          simp [hvalue.2.1, asListCleanup]
      | some item =>
          rw [hitem] at hvalue
          have hrest :=
            asListLoop_refines rt serializerType entries (items ++ [item]) herr
          rw [Converted.Refines] at hvalue
          simp only [hvalue, herr, ne_eq, not_true, if_false]
          cases hitems : encodeItems rt serializerType entries with
          | none => simpa [hitems] using hrest
          | some rest => simpa [hitems] using hrest

theorem asMapLoop_refines (rt : Runtime) (serializerType : SerializerType) :
    ∀ (entries : List (ZKey × Zval)) (pairs : List (AsVal × AsVal))
      {err : AsError}, err.code = .ok →
      match encodePairs rt serializerType entries pairs with
      | some final =>
          asMapLoop rt serializerType entries pairs err = ⟨.ok, some final, err⟩
      | none =>
          (asMapLoop rt serializerType entries pairs err).status ≠ .ok ∧
          (asMapLoop rt serializerType entries pairs err).err.code ≠ .ok
  | [], pairs, err, herr => by simp [encodePairs, asMapLoop, herr]
  | (key, value) :: entries, pairs, err, herr => by
      have hvalue := zvalToAsVal_refines rt serializerType value herr
      rw [encodePairs, asMapLoop]
      cases hitem : encode rt serializerType value with
      | none =>
          rw [hitem] at hvalue
          simp [hvalue.2.1]
      | some item =>
          rw [hitem] at hvalue
          rw [Converted.Refines] at hvalue
          simp only [hvalue, herr, ne_eq, not_true, if_false]
          exact asMapLoop_refines rt serializerType entries _ herr

end

/-! ## Errors that are already there

Started with an error in the error object, every converter ends with one, and
the list converter drops its list even when all the elements convert.
-/

theorem serializeWithUserFunction_sticky (rt : Runtime) (z : Zval)
    {err : AsError} (herr : err.code ≠ .ok) :
    (serializeWithUserFunction rt z err).err.code ≠ .ok := by
  unfold serializeWithUserFunction
  cases rt.userSerializer with
  | none => simp
  | some serializer =>
      cases hcall : serializer z with
      | none => simp [hcall]
      | some text => cases text <;> simp [hcall, herr]

theorem serializePhpObject_sticky (rt : Runtime)
    (serializerType : SerializerType) (z : Zval) {err : AsError}
    (herr : err.code ≠ .ok) :
    (serializePhpObject rt serializerType z err).err.code ≠ .ok := by
  have huser := serializeWithUserFunction_sticky rt z herr
  unfold serializePhpObject
  split
  · simp [huser]
  · split
    · cases rt.phpVarSerialize z <;> simp [herr]
    · simp

theorem serializedToAsVal_sticky (rt : Runtime)
    (serializerType : SerializerType) (z : Zval) {err : AsError}
    (herr : err.code ≠ .ok) :
    (serializedToAsVal rt serializerType z err).err.code ≠ .ok := by
  unfold serializedToAsVal
  have hobject := serializePhpObject_sticky rt serializerType z herr
  simp only
  split
  · exact hobject
  · simp

theorem objectToAsVal_sticky (rt : Runtime)
    (serializerType : SerializerType) (className : String)
    (properties : List (String × Zval)) {err : AsError}
    (herr : err.code ≠ .ok) :
    (objectToAsVal rt serializerType className properties err).err.code ≠
      .ok := by
  unfold objectToAsVal
  split
  · cases readProperty properties "s" <;> simp [herr]
  · split
    · cases rt.geojsonToString (.object className properties) with
      | none => simp
      | some text => cases text <;> simp [herr]
    · exact serializedToAsVal_sticky rt serializerType _ herr

mutual

theorem zvalToAsVal_sticky (rt : Runtime) (serializerType : SerializerType) :
    ∀ (z : Zval) {err : AsError}, err.code ≠ .ok →
      (zvalToAsVal rt serializerType z err).err.code ≠ .ok
  | .long _, err, herr => by simpa [zvalToAsVal] using herr
  | .string _, err, herr => by simpa [zvalToAsVal] using herr
  | .double _, err, herr => by simpa [zvalToAsVal] using herr
  | .array entries, err, herr => by
      have hlist := (asListLoop_sticky rt serializerType entries [] herr).2
      have hmap := (asMapLoop_sticky rt serializerType entries [] herr).2
      rw [zvalToAsVal]
      split
      · simp only
        split <;> exact hlist
      · simp only
        split <;> exact hmap
  | .object className properties, err, herr => by
      rw [zvalToAsVal]
      exact objectToAsVal_sticky rt serializerType className properties herr
  | .undef, err, herr | .null, err, herr | .bool _, err, herr
  | .resource, err, herr | .reference _, err, herr => by
      rw [zvalToAsVal]
      · exact serializedToAsVal_sticky rt serializerType _ herr
      all_goals simp

theorem asListLoop_sticky (rt : Runtime) (serializerType : SerializerType) :
    ∀ (entries : List (ZKey × Zval)) (items : List AsVal) {err : AsError},
      err.code ≠ .ok →
      (asListLoop rt serializerType entries items err).val = none ∧
      (asListLoop rt serializerType entries items err).err.code ≠ .ok
  | [], items, err, herr => by simp [asListLoop, asListCleanup, herr]
  | (key, value) :: entries, items, err, herr => by
      have hvalue := zvalToAsVal_sticky rt serializerType value herr
      rw [asListLoop]
      cases (zvalToAsVal rt serializerType value err).val with
      | none => simp [asListCleanup]
      | some item => simp [hvalue, asListCleanup]

theorem asMapLoop_sticky (rt : Runtime) (serializerType : SerializerType) :
    ∀ (entries : List (ZKey × Zval)) (pairs : List (AsVal × AsVal))
      {err : AsError}, err.code ≠ .ok →
      (asMapLoop rt serializerType entries pairs err).status ≠ .ok ∧
      (asMapLoop rt serializerType entries pairs err).err.code ≠ .ok
  | [], pairs, err, herr => by simp [asMapLoop, herr]
  | (key, value) :: entries, pairs, err, herr => by
      have hvalue := zvalToAsVal_sticky rt serializerType value herr
      rw [asMapLoop]
      cases (zvalToAsVal rt serializerType value err).val with
      | none => simp
      | some item => simp [hvalue]

end

/-! ## The list converter -/

theorem asListLoop_status (rt : Runtime) (serializerType : SerializerType)
    (entries : HashTable) (items : List AsVal) (err : AsError) :
    (asListLoop rt serializerType entries items err).status = .ok := by
  induction entries generalizing items err with
  | nil =>
      rw [asListLoop]
      unfold asListCleanup
      split <;> rfl
  | cons entry entries ih =>
      obtain ⟨key, value⟩ := entry
      rw [asListLoop]
      cases (zvalToAsVal rt serializerType value err).val with
      | none => simp [asListCleanup]
      | some item =>
          simp only
          split
          · simp [asListCleanup]
          · exact ih _ _

/-- Whatever the elements are, the list converter returns `AEROSPIKE_OK`. -/
theorem zHashtableToAsList_status (rt : Runtime)
    (serializerType : SerializerType) (table : HashTable) (err : AsError) :
    (zHashtableToAsList rt serializerType table err).status = .ok :=
  asListLoop_status rt serializerType table [] err

theorem asMapLoop_status (rt : Runtime) (serializerType : SerializerType)
    (entries : HashTable) (pairs : List (AsVal × AsVal)) (err : AsError) :
    (asMapLoop rt serializerType entries pairs err).status =
      (asMapLoop rt serializerType entries pairs err).err.code := by
  induction entries generalizing pairs err with
  | nil =>
      rw [asMapLoop]
      split <;> rfl
  | cons entry entries ih =>
      obtain ⟨key, value⟩ := entry
      rw [asMapLoop]
      dsimp only
      split
      · rfl
      · split
        · rfl
        · exact ih _ _

theorem zHashtableToAsList_of_some (rt : Runtime)
    (serializerType : SerializerType) {table : HashTable} {err : AsError}
    (herr : err.code = .ok) {items : List AsVal}
    (hitems : encodeItems rt serializerType table = some items) :
    zHashtableToAsList rt serializerType table err = ⟨.ok, some items, err⟩ := by
  have hloop := asListLoop_refines rt serializerType table [] herr
  rw [hitems] at hloop
  exact hloop

theorem zHashtableToAsList_of_none (rt : Runtime)
    (serializerType : SerializerType) {table : HashTable} {err : AsError}
    (herr : err.code = .ok)
    (hitems : encodeItems rt serializerType table = none) :
    (zHashtableToAsList rt serializerType table err).val = none ∧
      (zHashtableToAsList rt serializerType table err).err.code ≠ .ok := by
  have hloop := asListLoop_refines rt serializerType table [] herr
  rw [hitems] at hloop
  exact hloop.2

theorem zHashtableToAsList_sticky (rt : Runtime)
    (serializerType : SerializerType) (table : HashTable) {err : AsError}
    (herr : err.code ≠ .ok) :
    (zHashtableToAsList rt serializerType table err).val = none ∧
      (zHashtableToAsList rt serializerType table err).err.code ≠ .ok :=
  asListLoop_sticky rt serializerType table [] herr

end AerospikePhp
