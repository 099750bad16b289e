import AerospikePhp.Zval
import Mathlib.Tactic

/-!
# Client values, statuses and errors

The part of the C client's data model that the extension builds and reads: the
`as_status` codes it names, the `as_error` it passes around, and the `as_val`
tree.  An `as_error` is sticky: a function that succeeds leaves it alone, so a
code set by one step is still there for the next.
-/

namespace AerospikePhp

/-- `as_status`.  Codes that the extension only passes on are `other`. -/
inductive AsStatus where
  | ok
  | errClient
  | errParam
  | errCluster
  | errBinName
  | errRecordNotFound
  | errUdf
  | errUdfNotFound
  | errLuaFileNotFound
  | other (code : ℤ)
  deriving DecidableEq, Repr, Inhabited

structure AsError where
  code : AsStatus
  message : String
  inDoubt : Bool
  deriving DecidableEq, Repr, Inhabited

namespace AsError

/-- `as_error_init` and `as_error_reset`. -/
def init : AsError := ⟨.ok, "", false⟩

/-- `as_error_update` and `as_error_set_message`. -/
def update (_ : AsError) (code : AsStatus) (message : String) : AsError :=
  ⟨code, message, false⟩

@[simp] theorem init_code : init.code = .ok := rfl

@[simp] theorem update_code (err : AsError) (code : AsStatus)
    (message : String) : (err.update code message).code = code := rfl

end AsError

/-- `AS_BIN_NAME_MAX_LEN`. -/
def asBinNameMaxLen : ℕ := 15

/-- The sizes of the arrays in which an `as_key` holds its names. -/
def asNamespaceMaxSize : ℕ := 32
def asSetMaxSize : ℕ := 64

/-- What a converter leaves behind: the status it returns, the value written
through its out-parameter, and the error object. -/
structure Converted (α : Type) where
  status : AsStatus
  val : Option α
  err : AsError

/-- The particle types of `as_bytes` that the extension tells apart. -/
inductive AsBytesType where
  | blob
  | php
  | other (code : ℕ)
  deriving DecidableEq, Repr

/-- `as_val`.  An `as_string` is a C string, so its text ends at the first
NUL; bytes and GeoJSON carry their length. -/
inductive AsVal where
  | nil
  | boolean (value : Bool)
  | integer (value : Int64)
  | double (value : Double)
  | string (value : String)
  | bytes (type : AsBytesType) (value : String)
  | geojson (value : String)
  | list (items : List AsVal)
  | map (entries : List (AsVal × AsVal))
  deriving Repr, Inhabited

/-- `as_bytes_new` with `as_bytes_set`, and `as_record_set_raw_typep`, of a PHP
string: their size is a `uint32_t`. -/
def rawBytes (value : String) (type : AsBytesType) : AsVal :=
  .bytes type (uint32Prefix value)

theorem rawBytes_of_short {value : String} (hsize : value.length < 2 ^ 32)
    (type : AsBytesType) : rawBytes value type = .bytes type value := by
  rw [rawBytes, uint32Prefix_of_short hsize]

/-- Equality of the keys that a PHP array can give an `as_map`. -/
def AsVal.sameKey : AsVal → AsVal → Bool
  | .integer a, .integer b => a = b
  | .string a, .string b => a = b
  | _, _ => false

/-- `as_map_set`: replace the value of an equal key, or add an entry. -/
def asMapSet (entries : List (AsVal × AsVal)) (key value : AsVal) :
    List (AsVal × AsVal) :=
  match entries with
  | [] => [(key, value)]
  | (key', value') :: rest =>
      if key'.sameKey key then (key', value) :: rest
      else (key', value') :: asMapSet rest key value

/-! ## What the extension is told from outside -/

/-- The classification of a string by `is_numeric_string`. -/
inductive NumericString where
  | notNumeric
  | long (value : Int64)
  | double (value : Double)
  deriving DecidableEq, Repr

/-- A zval that holds other zvals. -/
def Zval.isContainer : Zval → Bool
  | .array _ | .object _ _ => true
  | _ => false

/-- The PHP engine and the user's callbacks, as the conversions see them.
`none` stands for a call that fails. -/
structure Runtime where
  phpVarSerialize : Zval → Option String
  phpVarUnserialize : String → Option Zval
  /-- The array or object that `php_var_unserialize` leaves behind when it
  fails inside one. -/
  phpVarUnserializeRest : String → Option {z : Zval // z.isContainer}
  /-- The callback of `setSerializer`, when one is registered. -/
  userSerializer : Option (Zval → Option Zval)
  /-- The callback of `setDeserializer`, when one is registered. -/
  userDeserializer : Option (String → Option Zval)
  /-- `__toString` of a GeoJSON object. -/
  geojsonToString : Zval → Option Zval
  /-- The static `fromJson` of the GeoJSON class. -/
  geojsonFromJson : String → Option Zval
  /-- A new object of the class `Aerospike\Bytes`. -/
  bytesObject : String → Option Zval
  isNumericString : String → NumericString
  /-- The bytes `Z_LVAL_P` finds in a zval that holds no number. -/
  valueBytes : Zval → Int64

/-- `Z_LVAL_P`, which does not look at the type of the zval. -/
def Runtime.zLval (rt : Runtime) : Zval → Int64
  | .long n => n
  | .double d => d.bits.toInt64
  | z => rt.valueBytes z

/-- A runtime whose callbacks all fail, for the concrete runs below. -/
def Runtime.plain : Runtime where
  phpVarSerialize _ := none
  phpVarUnserialize _ := none
  phpVarUnserializeRest _ := none
  userSerializer := none
  userDeserializer := none
  geojsonToString _ := none
  geojsonFromJson _ := none
  bytesObject _ := none
  isNumericString _ := .notNumeric
  valueBytes _ := 0

/-- The `serializer_type` argument of the converters, an `int`. -/
abbrev SerializerType := ℤ

def serializerNone : SerializerType := 0
def serializerPhp : SerializerType := 1
def serializerUser : SerializerType := 2

end AerospikePhp
