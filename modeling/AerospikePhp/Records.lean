import AerospikePhp.Conversions
import AerospikePhp.Keys
import Mathlib.Tactic

/-!
# Records

`z_hashtable_to_as_record`, which turns the bins of a PHP program into an
`as_record`, and the way back: `as_val_to_zval` with the callbacks it is
mutually recursive with, and the converters for whole records.
-/

namespace AerospikePhp

structure AsRecord where
  gen : ℕ
  ttl : ℕ
  bins : List (String × AsVal)
  deriving Repr, Inhabited

def asRecordNew : AsRecord := ⟨0, 0, []⟩

/-- The room for bins, or for the names of bins, that is made when so many are
asked for: their number is handed on as a `uint16_t`. -/
def binCapacity (count : ℕ) : ℕ := count % 2 ^ 16

/-- A bin of the same name is replaced, and another is added at the end. -/
def setBin (bins : List (String × AsVal)) (name : String) (value : AsVal) :
    List (String × AsVal) :=
  match bins with
  | [] => [(name, value)]
  | (name', value') :: rest =>
      if name' = name then (name', value) :: rest
      else (name', value') :: setBin rest name value

/-- The `as_record_set_*` functions, on a record with room for `capacity` bins.
Whether a bin found room is their result, at which nobody looks. -/
def asRecordSet (capacity : ℕ) (bins : List (String × AsVal)) (name : String)
    (value : AsVal) : List (String × AsVal) :=
  if bins.length < capacity ∨ bins.any (fun bin => bin.1 = name) then
    setBin bins name value
  else bins

def addZvalToRecord (rt : Runtime) (serializerType : SerializerType)
    (capacity : ℕ) (z : Zval) (record : AsRecord) (bin : String) (err : AsError) :
    AsRecord × AsError :=
  let converted := zvalToAsVal rt serializerType z err
  if converted.status ≠ .ok then (record, converted.err)
  else
    match converted.val with
    | none | some .nil | some (.boolean _) =>
        (record, converted.err.update .errParam "Unsupported type")
    | some value =>
        ({ record with bins := asRecordSet capacity record.bins bin value },
          converted.err)

def asRecordLoop (rt : Runtime) (serializerType : SerializerType)
    (capacity : ℕ) : HashTable → AsRecord → AsError → Converted AsRecord
  | [], record, err => ⟨err.code, some record, err⟩
  | (.str name, z) :: entries, record, err =>
      if name.length > asBinNameMaxLen then
        ⟨.errBinName, some record, err.update .errBinName "Bin name too long"⟩
      else
        let added :=
          addZvalToRecord rt serializerType capacity z record (cString name) err
        if added.2.code ≠ .ok then ⟨added.2.code, some added.1, added.2⟩
        else asRecordLoop rt serializerType capacity entries added.1 added.2
  | (.idx _, _) :: _, record, err =>
      ⟨.errParam, some record,
        err.update .errParam "Only string names are valid for bins"⟩

def zHashtableToAsRecord (rt : Runtime) (serializerType : SerializerType)
    (table : HashTable) (err : AsError) : Converted AsRecord :=
  asRecordLoop rt serializerType (binCapacity table.numElements) table
    asRecordNew err

/-! ## Back to PHP -/

section

variable (rt : Runtime)

/-- `unserialize_with_user_function` and `as_bytes_to_zval_bytes`, for a blob,
and `php_var_unserialize`.  `none` for a zval that is not written. -/
def unserializeAsBytes (type : AsBytesType) (value : String) (err : AsError) :
    Converted Zval :=
  let result (z rest : Option Zval) (message : String) : Converted Zval :=
    match z with
    | some z => ⟨err.code, some z, err⟩
    | none => ⟨.errClient, rest, err.update .errClient message⟩
  match type with
  | .blob =>
      match rt.userDeserializer with
      | none =>
          result (rt.bytesObject value) none
            "Failed to find class Aerospike Bytes class"
      | some deserializer =>
          result (deserializer value) none "Deserialization failed"
  | .php =>
      result (rt.phpVarUnserialize value)
        ((rt.phpVarUnserializeRest value).map Subtype.val)
        "PHP deserialization failed"
  | .other _ => result none none "Unsupported bytes type"

def asGeojsonToZval (geojson : String) (err : AsError) : Converted Zval :=
  match rt.geojsonFromJson geojson with
  | some z => ⟨err.code, some z, err⟩
  | none =>
      ⟨.errClient, none, err.update .errClient "Failed to deserialize GeoJSON"⟩

/-- The key under which a map entry is stored, once it is converted. -/
def mapKeyOfZval : Zval → Option ZKey
  | .string s => some (assocKey (cString s))
  | .long n => some (.idx n)
  | _ => none

mutual

/-- The switch has no case for nil and booleans, whose zval is left
undefined. -/
def asValToZval : AsVal → AsError → Converted Zval
  | .string s, err => ⟨err.code, some (.string (cString s)), err⟩
  | .integer n, err => ⟨err.code, some (.long n), err⟩
  | .double d, err => ⟨err.code, some (.double d), err⟩
  | .list items, err => asListToZval items [] err
  | .map entries, err => asMapToZval entries [] err
  | .bytes type value, err =>
      let converted := unserializeAsBytes rt type value err
      ⟨converted.err.code, converted.val, converted.err⟩
  | .geojson value, err =>
      let converted := asGeojsonToZval rt value err
      ⟨converted.err.code, converted.val, converted.err⟩
  | .nil, err | .boolean _, err => ⟨err.code, some .undef, err⟩

/-- The elements converted so far stay in the array when one fails. -/
def asListToZval : List AsVal → HashTable → AsError → Converted Zval
  | [], table, err => ⟨err.code, some (.array table), err⟩
  | item :: items, table, err =>
      let converted := asValToZval item err
      if converted.err.code ≠ .ok then
        ⟨converted.err.code, some (.array table), converted.err⟩
      else
        asListToZval items (table.push (converted.val.getD .undef))
          converted.err

def asMapToZval : List (AsVal × AsVal) → HashTable → AsError → Converted Zval
  | [], table, err =>
      if err.code ≠ .ok then ⟨err.code, some .undef, err⟩
      else ⟨err.code, some (.array table), err⟩
  | (key, value) :: entries, table, err =>
      let convertedKey := asValToZval key err
      match mapKeyOfZval (convertedKey.val.getD .null) with
      | none =>
          ⟨.errClient, some .undef,
            convertedKey.err.update .errClient
              "Hashtable keys must be strings or integers"⟩
      | some zKey =>
          let converted := asValToZval value convertedKey.err
          if converted.err.code ≠ .ok then
            ⟨converted.err.code, some .undef, converted.err⟩
          else
            asMapToZval entries
              (table.update zKey (converted.val.getD .undef)) converted.err

end

/-- The loop of `as_bins_to_zval`, with its `CLEANUP`. -/
def asBinsLoop : List (String × AsVal) → HashTable → AsError → Converted Zval
  | [], table, err =>
      if err.code ≠ .ok then ⟨err.code, some .null, err⟩
      else ⟨err.code, some (.array table), err⟩
  | (name, value) :: bins, table, err =>
      let converted := asValToZval rt value err
      if converted.status ≠ .ok then
        ⟨converted.err.code, some .null, converted.err⟩
      else
        asBinsLoop bins
          (table.update (assocKey name) (converted.val.getD .null))
          converted.err

def asBinsToZval (record : AsRecord) (err : AsError) : Converted Zval :=
  asBinsLoop rt record.bins [] err

/-- `as_record_to_z_metadata`. -/
def asRecordToZMetadata (record : AsRecord) : Zval :=
  .array [(.str "ttl", .long (Int64.ofNat record.ttl)),
    (.str "generation", .long (Int64.ofNat record.gen))]

def asRecordToZval (record : AsRecord) (key : AsKey) (showPk : Bool)
    (err : AsError) : Converted Zval :=
  let bins := asBinsToZval rt record err
  if bins.status ≠ .ok then ⟨bins.err.code, some .null, bins.err⟩
  else
    let zKey := asKeyToZval key showPk bins.err
    if zKey.err.code ≠ .ok then ⟨zKey.err.code, some .null, zKey.err⟩
    else
      ⟨zKey.err.code,
        some (.array [(.str "key", zKey.val.getD .undef),
          (.str "metadata", asRecordToZMetadata record),
          (.str "bins", bins.val.getD .undef)]),
        zKey.err⟩

/-- The loop of `as_operate_record_to_zval`, with its `CLEANUP`. -/
def asOperateRecordLoop :
    List (String × AsVal) → HashTable → AsError → Converted Zval
  | [], table, err =>
      if err.code ≠ .ok then ⟨err.code, some .null, err⟩
      else ⟨err.code, some (.array table), err⟩
  | (name, value) :: bins, table, err =>
      let converted := asValToZval rt value err
      if converted.status ≠ .ok then
        ⟨converted.err.code, some .null, converted.err⟩
      else
        asOperateRecordLoop bins
          (table.push (.array (HashTable.ofValues
            [.string name, converted.val.getD .undef])))
          converted.err

def asOperateRecordToZval (record : Option AsRecord) (err : AsError) :
    Converted Zval :=
  match record with
  | none =>
      ⟨.errClient, none,
        err.update .errClient "NULL record in as_operate_record_to_zval"⟩
  | some record => asOperateRecordLoop rt record.bins [] err

/-! ## The PHP value that a record stands for -/

def decodeBytes (type : AsBytesType) (value : String) : Option Zval :=
  match type with
  | .blob =>
      match rt.userDeserializer with
      | none => rt.bytesObject value
      | some deserializer => deserializer value
  | .php => rt.phpVarUnserialize value
  | .other _ => none

mutual

def decode : AsVal → Option Zval
  | .string s => some (.string (cString s))
  | .integer n => some (.long n)
  | .double d => some (.double d)
  | .list items => (decodeItems items []).map .array
  | .map entries => (decodeEntries entries []).map .array
  | .bytes type value => decodeBytes rt type value
  | .geojson value => rt.geojsonFromJson value
  | .nil | .boolean _ => some .undef

def decodeItems : List AsVal → HashTable → Option HashTable
  | [], table => some table
  | item :: items, table =>
      match decode item with
      | none => none
      | some z => decodeItems items (table.push z)

def decodeEntries : List (AsVal × AsVal) → HashTable → Option HashTable
  | [], table => some table
  | (key, value) :: entries, table =>
      match decode key with
      | none => none
      | some z =>
          match mapKeyOfZval z with
          | none => none
          | some zKey =>
              match decode value with
              | none => none
              | some z => decodeEntries entries (table.update zKey z)

end

def decodeBins : List (String × AsVal) → HashTable → Option HashTable
  | [], table => some table
  | (name, value) :: bins, table =>
      match decode rt value with
      | none => none
      | some z => decodeBins bins (table.update (assocKey name) z)

/-! ## Refinement -/

/-- The converter gave the value and left the error object alone, or it
reports an error and wrote nothing that could be a map key. -/
def Converted.Decodes (converted : Converted Zval) (err : AsError) :
    Option Zval → Prop
  | some z => converted = ⟨.ok, some z, err⟩
  | none =>
      converted.status ≠ .ok ∧ converted.err.code ≠ .ok ∧
        mapKeyOfZval (converted.val.getD .null) = none

variable {rt : Runtime}

theorem mapKeyOfZval_container {z : Zval} (hz : z.isContainer) :
    mapKeyOfZval z = none := by
  cases z <;> simp_all [Zval.isContainer, mapKeyOfZval]

theorem unserializeAsBytes_decodes (type : AsBytesType) (value : String)
    {err : AsError} (herr : err.code = .ok) :
    (unserializeAsBytes rt type value err).Decodes err
      (decodeBytes rt type value) := by
  unfold unserializeAsBytes decodeBytes
  cases type with
  | blob =>
      cases rt.userDeserializer with
      | none =>
          cases hz : rt.bytesObject value <;>
            simp [Converted.Decodes, herr, mapKeyOfZval]
      | some deserializer =>
          cases hz : deserializer value <;>
            simp [hz, Converted.Decodes, herr, mapKeyOfZval]
  | php =>
      have hrest : mapKeyOfZval
          (((rt.phpVarUnserializeRest value).map Subtype.val).getD .null) =
            none := by
        cases rt.phpVarUnserializeRest value with
        | none => rfl
        | some rest => exact mapKeyOfZval_container rest.2
      cases hz : rt.phpVarUnserialize value with
      | none => simpa [Converted.Decodes] using hrest
      | some z => simp [Converted.Decodes, herr]
  | other code => simp [Converted.Decodes, mapKeyOfZval]

theorem asGeojsonToZval_decodes (value : String) {err : AsError}
    (herr : err.code = .ok) :
    (asGeojsonToZval rt value err).Decodes err (rt.geojsonFromJson value) := by
  unfold asGeojsonToZval
  cases hz : rt.geojsonFromJson value <;>
    simp [Converted.Decodes, herr, mapKeyOfZval]

mutual

theorem asValToZval_decodes :
    ∀ (value : AsVal) {err : AsError}, err.code = .ok →
      (asValToZval rt value err).Decodes err (decode rt value)
  | .string _, err, herr | .integer _, err, herr | .double _, err, herr
  | .nil, err, herr | .boolean _, err, herr => by
      simp [asValToZval, decode, Converted.Decodes, herr]
  | .list items, err, herr => by
      have hitems := asListToZval_decodes items [] herr
      rw [asValToZval, decode]
      cases hdecode : decodeItems rt items [] with
      | none =>
          rw [hdecode] at hitems
          simpa using hitems
      | some table =>
          rw [hdecode] at hitems
          simpa using hitems
  | .map entries, err, herr => by
      have hentries := asMapToZval_decodes entries [] herr
      rw [asValToZval, decode]
      cases hdecode : decodeEntries rt entries [] with
      | none =>
          rw [hdecode] at hentries
          simpa using hentries
      | some table =>
          rw [hdecode] at hentries
          simpa using hentries
  | .bytes type value, err, herr => by
      have hbytes := @unserializeAsBytes_decodes rt type value _ herr
      rw [asValToZval, decode]
      cases hdecode : decodeBytes rt type value with
      | none =>
          rw [hdecode] at hbytes
          exact ⟨hbytes.2.1, hbytes.2⟩
      | some z =>
          rw [hdecode, Converted.Decodes] at hbytes
          simp [hbytes, Converted.Decodes, herr]
  | .geojson value, err, herr => by
      have hgeojson := @asGeojsonToZval_decodes rt value _ herr
      rw [asValToZval, decode]
      cases hdecode : rt.geojsonFromJson value with
      | none =>
          rw [hdecode] at hgeojson
          exact ⟨hgeojson.2.1, hgeojson.2⟩
      | some z =>
          rw [hdecode, Converted.Decodes] at hgeojson
          simp [hgeojson, Converted.Decodes, herr]

theorem asListToZval_decodes :
    ∀ (items : List AsVal) (table : HashTable) {err : AsError},
      err.code = .ok →
      (asListToZval rt items table err).Decodes err
        ((decodeItems rt items table).map .array)
  | [], table, err, herr => by
      simp [asListToZval, decodeItems, Converted.Decodes, herr]
  | item :: items, table, err, herr => by
      have hitem := asValToZval_decodes item herr
      rw [asListToZval, decodeItems]
      cases hdecode : decode rt item with
      | none =>
          rw [hdecode] at hitem
          simp [hitem.2.1, Converted.Decodes, mapKeyOfZval]
      | some z =>
          rw [hdecode, Converted.Decodes] at hitem
          simp only [hitem, herr, ne_eq, not_true, if_false, Option.getD_some]
          exact asListToZval_decodes items _ herr

theorem asMapToZval_decodes :
    ∀ (entries : List (AsVal × AsVal)) (table : HashTable) {err : AsError},
      err.code = .ok →
      (asMapToZval rt entries table err).Decodes err
        ((decodeEntries rt entries table).map .array)
  | [], table, err, herr => by
      simp [asMapToZval, decodeEntries, Converted.Decodes, herr]
  | (key, value) :: entries, table, err, herr => by
      have hkey := asValToZval_decodes key herr
      have hvalue := asValToZval_decodes value herr
      rw [asMapToZval, decodeEntries]
      cases hdecode : decode rt key with
      | none =>
          rw [hdecode] at hkey
          simp only [hkey.2.2]
          simp [Converted.Decodes, mapKeyOfZval]
      | some z =>
          rw [hdecode, Converted.Decodes] at hkey
          simp only [hkey, Option.getD_some]
          cases mapKeyOfZval z with
          | none => simp [Converted.Decodes, mapKeyOfZval]
          | some zKey =>
              simp only
              cases hdecode' : decode rt value with
              | none =>
                  rw [hdecode'] at hvalue
                  simp [hvalue.2.1, Converted.Decodes, mapKeyOfZval]
              | some z' =>
                  rw [hdecode', Converted.Decodes] at hvalue
                  simp only [hvalue, herr, ne_eq, not_true, if_false,
                    Option.getD_some]
                  exact asMapToZval_decodes entries _ herr

end

theorem asBinsLoop_decodes (bins : List (String × AsVal)) (table : HashTable)
    {err : AsError} (herr : err.code = .ok) :
    (asBinsLoop rt bins table err).Decodes err
      ((decodeBins rt bins table).map .array) := by
  induction bins generalizing table with
  | nil => simp [asBinsLoop, decodeBins, Converted.Decodes, herr]
  | cons bin bins ih =>
      obtain ⟨name, value⟩ := bin
      have hvalue := @asValToZval_decodes rt value _ herr
      rw [asBinsLoop, decodeBins]
      cases hdecode : decode rt value with
      | none =>
          rw [hdecode] at hvalue
          simp [hvalue.1, hvalue.2.1, Converted.Decodes, mapKeyOfZval]
      | some z =>
          rw [hdecode, Converted.Decodes] at hvalue
          simp only [hvalue, ne_eq, not_true, if_false, Option.getD_some]
          exact ih _

end

/-! ## An error from before -/

section

variable {rt : Runtime}

theorem unserializeAsBytes_sticky (type : AsBytesType) (value : String)
    {err : AsError} (herr : err.code ≠ .ok) :
    (unserializeAsBytes rt type value err).err.code ≠ .ok := by
  unfold unserializeAsBytes
  cases type with
  | blob =>
      cases rt.userDeserializer with
      | none => cases hz : rt.bytesObject value <;> simp [herr]
      | some deserializer => cases hz : deserializer value <;> simp [hz, herr]
  | php => cases hz : rt.phpVarUnserialize value <;> simp [herr]
  | other code => simp

mutual

theorem asValToZval_sticky :
    ∀ (value : AsVal) {err : AsError}, err.code ≠ .ok →
      (asValToZval rt value err).status ≠ .ok ∧
        (asValToZval rt value err).err.code ≠ .ok
  | .string _, err, herr | .integer _, err, herr | .double _, err, herr
  | .nil, err, herr | .boolean _, err, herr => by simpa [asValToZval] using herr
  | .list items, err, herr => by
      rw [asValToZval]
      exact asListToZval_sticky items [] herr
  | .map entries, err, herr => by
      rw [asValToZval]
      exact asMapToZval_sticky entries [] herr
  | .bytes type value, err, herr => by
      have hbytes := @unserializeAsBytes_sticky rt type value err herr
      rw [asValToZval]
      exact ⟨hbytes, hbytes⟩
  | .geojson value, err, herr => by
      rw [asValToZval]
      unfold asGeojsonToZval
      cases rt.geojsonFromJson value <;> simp [herr]

theorem asListToZval_sticky :
    ∀ (items : List AsVal) (table : HashTable) {err : AsError},
      err.code ≠ .ok →
        (asListToZval rt items table err).status ≠ .ok ∧
          (asListToZval rt items table err).err.code ≠ .ok
  | [], table, err, herr => by simpa [asListToZval] using herr
  | item :: items, table, err, herr => by
      have hitem := (asValToZval_sticky item herr).2
      rw [asListToZval, if_pos hitem]
      exact ⟨hitem, hitem⟩

theorem asMapToZval_sticky :
    ∀ (entries : List (AsVal × AsVal)) (table : HashTable) {err : AsError},
      err.code ≠ .ok →
        (asMapToZval rt entries table err).status ≠ .ok ∧
          (asMapToZval rt entries table err).err.code ≠ .ok
  | [], table, err, herr => by simp [asMapToZval, herr]
  | (key, value) :: entries, table, err, herr => by
      have hkey := (asValToZval_sticky key herr).2
      have hvalue := (asValToZval_sticky value hkey).2
      rw [asMapToZval]
      cases mapKeyOfZval ((asValToZval rt key err).val.getD .null) with
      | none => simp
      | some zKey => simp [hvalue]

end

theorem asBinsLoop_sticky (bins : List (String × AsVal)) (table : HashTable)
    {err : AsError} (herr : err.code ≠ .ok) :
    (asBinsLoop rt bins table err).status ≠ .ok ∧
      (asBinsLoop rt bins table err).err.code ≠ .ok := by
  cases bins with
  | nil => simp [asBinsLoop, herr]
  | cons bin bins =>
      obtain ⟨hstatus, hcode⟩ := @asValToZval_sticky rt bin.2 err herr
      rw [asBinsLoop, if_pos hstatus]
      exact ⟨hcode, hcode⟩

/-- With an error in place no record converts. -/
theorem asRecordToZval_sticky (record : AsRecord) (key : AsKey) (showPk : Bool)
    {err : AsError} (herr : err.code ≠ .ok) :
    (asRecordToZval rt record key showPk err).status ≠ .ok ∧
      (asRecordToZval rt record key showPk err).err.code ≠ .ok := by
  obtain ⟨hstatus, hcode⟩ := @asBinsLoop_sticky rt record.bins [] err herr
  rw [asRecordToZval, asBinsToZval, if_pos hstatus]
  exact ⟨hcode, hcode⟩

end

end AerospikePhp
