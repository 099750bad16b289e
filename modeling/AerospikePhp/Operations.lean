import AerospikePhp.Conversions
import AerospikePhp.Library.Procedure
import AerospikePhp.Policy
import Mathlib.Tactic

/-!
# The operations array

`add_op_to_operations` reads one entry of the array given to `operate` or
`operateOrdered` and appends an operation to an `as_operations`.  The entry is
a PHP array; which of its fields matter depends on its op code.
-/

namespace AerospikePhp

open Procedure

/-- The operations a PHP program can ask for. -/
inductive OpType where
  | write | read | incr | prepend | append | touch | delete
  | listAppend | listMerge | listInsert | listInsertItems | listPop
  | listPopRange | listRemove | listRemoveRange | listClear | listSet | listGet
  | listGetRange | listTrim | listSize
  | mapSetPolicy | mapPut | mapPutItems | mapIncrement | mapDecrement | mapSize
  | mapClear | mapRemoveByKey | mapRemoveByKeyList | mapRemoveByKeyRange
  | mapRemoveByValue | mapRemoveByValueList | mapRemoveByValueRange
  | mapRemoveByIndex | mapRemoveByIndexRange | mapRemoveByRank
  | mapRemoveByRankRange | mapGetByKey | mapGetByKeyRange | mapGetByValue
  | mapGetByValueRange | mapGetByIndex | mapGetByIndexRange | mapGetByRank
  | mapGetByRankRange
  deriving DecidableEq, Repr

/-- The values of the `AS_OPERATOR_*` constants, which are the C client's.
They differ from each other and lie below the codes the extension adds. -/
structure OperatorCodes where
  write : ℤ
  read : ℤ
  incr : ℤ
  prepend : ℤ
  append : ℤ
  touch : ℤ
  delete : ℤ
  distinct : [write, read, incr, prepend, append, touch, delete].Nodup
  small : ∀ code ∈ [write, read, incr, prepend, append, touch, delete],
    0 ≤ code ∧ code < 1001

def listOpTypes : List OpType :=
  [.listAppend, .listMerge, .listInsert, .listInsertItems, .listPop,
    .listPopRange, .listRemove, .listRemoveRange, .listClear, .listSet,
    .listGet, .listGetRange, .listTrim, .listSize]

def mapOpTypes : List OpType :=
  [.mapSetPolicy, .mapPut, .mapPutItems, .mapIncrement, .mapDecrement,
    .mapSize, .mapClear, .mapRemoveByKey, .mapRemoveByKeyList,
    .mapRemoveByKeyRange, .mapRemoveByValue, .mapRemoveByValueList,
    .mapRemoveByValueRange, .mapRemoveByIndex, .mapRemoveByIndexRange,
    .mapRemoveByRank, .mapRemoveByRankRange, .mapGetByKey, .mapGetByKeyRange,
    .mapGetByValue, .mapGetByValueRange, .mapGetByIndex, .mapGetByIndexRange,
    .mapGetByRank, .mapGetByRankRange]

/-- The op code: an `AS_OPERATOR_*` value, or the place in the enumerations
that start at 1001 and at 1101. -/
def opTypeOf (operators : OperatorCodes) (code : ℤ) : Option OpType :=
  if code = operators.write then some .write
  else if code = operators.read then some .read
  else if code = operators.incr then some .incr
  else if code = operators.prepend then some .prepend
  else if code = operators.append then some .append
  else if code = operators.touch then some .touch
  else if code = operators.delete then some .delete
  else if 1001 ≤ code ∧ code < 1101 then listOpTypes[(code - 1001).toNat]?
  else if 1101 ≤ code then mapOpTypes[(code - 1101).toNat]?
  else none

/-! ## What each operation requires -/

def opRequiresBin (op : Option OpType) : Bool := op ≠ some .delete

def opRequiresVal (op : Option OpType) : Bool :=
  op ∉ [some .touch, some .listClear, some .read, some .listSize,
    some .listPop, some .listRemove, some .listGet, some .mapSize,
    some .mapClear, some .delete]

def opIsMapOp : Option OpType → Bool
  | some op => op ∈ mapOpTypes
  | none => false

def opRequiresListVal (op : Option OpType) : Bool :=
  op ∈ [some .listMerge, some .listInsertItems]

def opRequiresLongVal (op : Option OpType) : Bool :=
  op ∈ [some .listPopRange, some .listRemoveRange, some .listGetRange,
    some .listTrim]

def opRequiresAsVal (op : Option OpType) : Bool :=
  op ∈ [some .listInsert, some .listSet, some .listAppend, some .write]

def opRequiresIndex (op : Option OpType) : Bool :=
  op ∈ [some .listInsert, some .listInsertItems, some .listPop,
    some .listPopRange, some .listRemove, some .listRemoveRange,
    some .listSet, some .listGet, some .listGetRange, some .listTrim]

def mapOpRequiresKey (op : OpType) : Bool :=
  op ∈ [.mapPut, .mapIncrement, .mapDecrement, .mapRemoveByKey,
    .mapRemoveByKeyList, .mapRemoveByKeyRange, .mapGetByKey,
    .mapGetByKeyRange]

def mapOpRequiresVal (op : OpType) : Bool :=
  op ∈ [.mapPut, .mapIncrement, .mapDecrement, .mapRemoveByValue,
    .mapRemoveByValueList, .mapRemoveByValueRange, .mapGetByValue,
    .mapGetByValueRange, .mapPutItems]

def mapOpRequiresRank (op : OpType) : Bool :=
  op ∈ [.mapRemoveByRank, .mapRemoveByRankRange, .mapGetByRank,
    .mapGetByRankRange]

def mapOpRequiresReturnType (op : OpType) : Bool :=
  op ∈ [.mapRemoveByKey, .mapRemoveByKeyList, .mapRemoveByKeyRange,
    .mapRemoveByValue, .mapRemoveByValueList, .mapRemoveByValueRange,
    .mapRemoveByIndex, .mapRemoveByIndexRange, .mapRemoveByRank,
    .mapRemoveByRankRange, .mapGetByKey, .mapGetByKeyRange, .mapGetByValue,
    .mapGetByValueRange, .mapGetByIndex, .mapGetByIndexRange, .mapGetByRank,
    .mapGetByRankRange]

def mapOpRequiresMapPolicy (op : OpType) : Bool :=
  op ∈ [.mapSetPolicy, .mapPut, .mapPutItems, .mapIncrement, .mapDecrement]

def mapOpRequiresIndex (op : OpType) : Bool :=
  op ∈ [.mapRemoveByIndex, .mapRemoveByIndexRange, .mapGetByIndex,
    .mapGetByIndexRange]

def mapOpRequiresCount (op : OpType) : Bool :=
  op ∈ [.mapRemoveByIndexRange, .mapRemoveByRankRange, .mapGetByIndexRange,
    .mapGetByRankRange]

def mapOpRequiresRangeEnd (op : OpType) : Bool :=
  op ∈ [.mapRemoveByKeyRange, .mapRemoveByValueRange, .mapGetByKeyRange,
    .mapGetByValueRange]

/-! ## The operations -/

/-- `as_map_policy`, by the call that set it up. -/
inductive MapPolicy where
  | init
  | setFlags (order flags : Int64)
  | set (order mode : Int64)
  deriving DecidableEq, Repr

/-- The value argument of an `as_operations_add_*` call.  Values and lists are
pointers and can be NULL. -/
inductive OpValue where
  | absent
  | asVal (value : Option AsVal)
  | list (items : Option (List AsVal))
  | integer (value : Int64)
  | double (value : Double)
  | string (value : String)

/-- One `as_operations_add_*` call, with the arguments that its kind takes. -/
structure Operation where
  op : OpType
  bin : Option String := none
  value : OpValue := .absent
  index : Option Int64 := none
  count : Option ℤ := none
  rank : Option Int64 := none
  key : Option AsVal := none
  rangeEnd : Option AsVal := none
  returnType : Option ℕ := none
  mapPolicy : Option MapPolicy := none

/-- The `as_operations` being filled, and the error object of the call. -/
structure OpsState where
  err : AsError
  ops : List Operation
  ttl : ℕ
  gen : ℕ

/-! ## Reading an entry -/

section

variable (rt : Runtime) (operators : OperatorCodes)
variable (serializerType : SerializerType)

/-- A procedure over an `as_operations` that returns a status when it leaves
early and `AEROSPIKE_OK` at its end. -/
abbrev AddOp (α : Type) : Type := Proc OpsState AsStatus α

namespace AddOp

/-- Set the error object to `code` and return `status`. -/
def refuseWith {α : Type} (code status : AsStatus) (message : String) :
    AddOp α := do
  Proc.modify fun s => { s with err := s.err.update code message }
  Proc.exit status

def refuse {α : Type} (code : AsStatus) (message : String) : AddOp α :=
  refuseWith code code message

def orRefuse {α : Type} (value : Option α) (message : String) : AddOp α :=
  match value with
  | some v => pure v
  | none => refuse .errParam message

/-- A call of one of the `as_operations_add_*` functions.  It appends one
operation when the client answers true and none when it answers false. -/
def add (addOk : Bool) (message : String) (op : Operation) : AddOp Unit :=
  if addOk then Proc.modify fun s => { s with ops := s.ops ++ [op] }
  else refuse .errClient message

/-- A conversion with the call's own error object. -/
def convert {α : Type} (converter : AsError → Converted α) :
    AddOp (Converted α) := do
  let s ← Proc.get
  let converted := converter s.err
  Proc.modify fun s => { s with err := converted.err }
  pure converted

end AddOp

open AddOp

def longEntry (opArray : HashTable) (name : String) : Option Int64 :=
  match opArray.strFind name with
  | some (.long n) => some n
  | _ => none

/-- The two checks on the op code, which is then truncated to an `int`. -/
def requireOpType (opArray : HashTable) : AddOp (Option OpType) := do
  let zOp ← orRefuse (opArray.strFind "op") "Operation does not specify a type"
  match zOp with
  | .long n => pure (opTypeOf operators (toInt32 n))
  | _ => refuse .errParam "Operation type must be an integer"

def requireBin (op : Option OpType) (opArray : HashTable) :
    AddOp (Option String) :=
  if opRequiresBin op then
    match opArray.strFind "bin" with
    | some (.string bin) =>
        if strlen bin > asBinNameMaxLen then
          refuse .errParam "Bin name is too long"
        else pure (some (cString bin))
    | _ => refuse .errParam "Operation must contain a bin name of string type"
  else pure none

def requireIndex (op : Option OpType) (opArray : HashTable) :
    AddOp (Option Int64) :=
  if opRequiresIndex op then do
    let index ← orRefuse (longEntry opArray "index")
      "Operation requires an integer index"
    pure (some index)
  else pure none

/-- `AS_OPERATOR_TOUCH`: the `ttl` entry decides whether there is a touch at
all, and what the client answers is not looked at. -/
def addTouch (addOk : Bool) (opArray : HashTable) : AddOp Unit :=
  match opArray.strFind "ttl" with
  | none => pure ()
  | some (.long ttl) =>
      Proc.modify fun s =>
        { s with
          ttl := toUint32 ttl
          ops := if addOk then s.ops ++ [{ op := .touch }] else s.ops }
  | some _ => refuse .errParam "TTL must be an integer"

/-! ## Map operations -/

/-- The local variables of `add_map_op_to_operations`, `none` until they are
read from the entry. -/
structure MapOpArgs where
  count : Option ℤ
  index : Option Int64
  rank : Option Int64
  returnType : Option ℕ
  mapPolicy : Option MapPolicy
  key : Option AsVal
  rangeEnd : Option AsVal
  val : Option AsVal

def requireLong (opArray : HashTable) (name missing notLong : String) :
    AddOp Int64 := do
  let z ← orRefuse (opArray.strFind name) missing
  match z with
  | .long n => pure n
  | _ => refuse .errParam notLong

def getCountFromOpHash (opArray : HashTable) : AddOp ℤ := do
  let count ← requireLong opArray "count"
    "Operation missing a required count entry" "Count entry must be a long type"
  if count.toInt < 0 then refuse .errParam "Count must not be negative"
  else pure (toUint64 count)

def getIndexFromOpHash (opArray : HashTable) : AddOp Int64 :=
  requireLong opArray "index" "Operation missing a required index entry"
    "Index entry must be a long type"

def getRankFromOpHash (opArray : HashTable) : AddOp Int64 :=
  requireLong opArray "rank" "Operation missing a required rank entry"
    "rank entry must be a long type"

def getReturnTypeFromOpHash (opArray : HashTable) : AddOp ℕ := do
  let returnType ← requireLong opArray "return_type"
    "Operation missing a required return_type entry" "return_type must be a long"
  pure (toUint32 returnType)

/-- `get_key_from_op_hash`, `get_value_from_op_hash` and
`get_range_end_from_op_hash`. -/
def getAsValFromOpHash (opArray : HashTable) (name missing : String) :
    AddOp (Option AsVal) := do
  let z ← orRefuse (opArray.strFind name) missing
  let converted ← convert (zvalToAsVal rt serializerType z)
  if converted.status ≠ .ok then Proc.exit converted.err.code
  else pure converted.val

/-- The integer entry of a map policy, when it is there and one of the values
allowed. -/
def mapPolicyEntry (hash : HashTable) (index : Int64) (allowed : Int64 → Bool) :
    Option (Option Int64) :=
  match hash.indexFind index with
  | none => some none
  | some (.long n) => if allowed n then some (some n) else none
  | some _ => none

/-- `zval_to_as_policy_map`, `none` for `AEROSPIKE_ERR_PARAM`. -/
def zvalToAsPolicyMap (zPolicy : Zval) : Option MapPolicy :=
  match zPolicy with
  | .null => some .init
  | .array hash => do
      let order ← mapPolicyEntry hash optMapOrder (· ∈ [0, 1, 3])
      let flags ← mapPolicyEntry hash optMapWriteFlags fun flags =>
        flags &&& ~~~4 &&& ~~~8 ∈ [(0 : Int64), 1, 2]
      let mode ← mapPolicyEntry hash optMapWriteMode (· ∈ [0, 1, 2])
      match flags with
      | some flags => some (.setFlags (order.getD 0) flags)
      | none => some (.set (order.getD 0) (mode.getD 0))
  | _ => none

def getMapPolicyFromOpHash (opArray : HashTable) : AddOp MapPolicy := do
  let z ← orRefuse (opArray.strFind "map_policy")
    "Operation missing a required map_policy entry"
  orRefuse (zvalToAsPolicyMap z) "Invalid map_policy"

/-- Read a field when the operation requires it. -/
def whenRequired {α : Type} (required : Bool) (read : AddOp α) :
    AddOp (Option α) :=
  if required then do
    let value ← read
    pure (some value)
  else pure none

/-- The same for a value, which is NULL until it is read. -/
def valWhenRequired (required : Bool) (read : AddOp (Option AsVal)) :
    AddOp (Option AsVal) :=
  if required then read else pure none

def readMapOpArgs (op : OpType) (opArray : HashTable) : AddOp MapOpArgs := do
  let count ← whenRequired (mapOpRequiresCount op) (getCountFromOpHash opArray)
  let index ← whenRequired (mapOpRequiresIndex op) (getIndexFromOpHash opArray)
  let rank ← whenRequired (mapOpRequiresRank op) (getRankFromOpHash opArray)
  let returnType ← whenRequired (mapOpRequiresReturnType op)
    (getReturnTypeFromOpHash opArray)
  let mapPolicy ← whenRequired (mapOpRequiresMapPolicy op)
    (getMapPolicyFromOpHash opArray)
  let key ← valWhenRequired (mapOpRequiresKey op)
    (getAsValFromOpHash rt serializerType opArray "key"
      "Operation missing a required key entry")
  let rangeEnd ← valWhenRequired (mapOpRequiresRangeEnd op)
    (getAsValFromOpHash rt serializerType opArray "range_end"
      "Operation missing a required range_end entry")
  let val ← valWhenRequired (mapOpRequiresVal op)
    (getAsValFromOpHash rt serializerType opArray "val"
      "Operation missing a required val entry")
  pure ⟨count, index, rank, returnType, mapPolicy, key, rangeEnd, val⟩

/-- The `as_operations_add_map_*` call of each map operation. -/
def mapOperation (op : OpType) (bin : Option String) (args : MapOpArgs) :
    Operation :=
  match op with
  | .mapSetPolicy => { op, bin, mapPolicy := args.mapPolicy }
  | .mapPut | .mapIncrement | .mapDecrement =>
      { op, bin, mapPolicy := args.mapPolicy, key := args.key,
        value := .asVal args.val }
  | .mapPutItems =>
      { op, bin, mapPolicy := args.mapPolicy, value := .asVal args.val }
  | .mapRemoveByKey | .mapRemoveByKeyList | .mapGetByKey =>
      { op, bin, key := args.key, returnType := args.returnType }
  | .mapRemoveByKeyRange | .mapGetByKeyRange =>
      { op, bin, key := args.key, rangeEnd := args.rangeEnd,
        returnType := args.returnType }
  | .mapRemoveByValue | .mapRemoveByValueList | .mapGetByValue =>
      { op, bin, value := .asVal args.val, returnType := args.returnType }
  | .mapRemoveByValueRange | .mapGetByValueRange =>
      { op, bin, value := .asVal args.val, rangeEnd := args.rangeEnd,
        returnType := args.returnType }
  | .mapRemoveByIndex | .mapGetByIndex =>
      { op, bin, index := args.index, returnType := args.returnType }
  | .mapRemoveByIndexRange | .mapGetByIndexRange =>
      { op, bin, index := args.index, count := args.count,
        returnType := args.returnType }
  | .mapRemoveByRank | .mapGetByRank =>
      { op, bin, rank := args.rank, returnType := args.returnType }
  | .mapRemoveByRankRange | .mapGetByRankRange =>
      { op, bin, rank := args.rank, count := args.count,
        returnType := args.returnType }
  | _ => { op, bin }

/-- The type checks inside the `switch`, with their messages. -/
def mapOpTypeError (op : OpType) (args : MapOpArgs) : Option String :=
  match op, args.val, args.key with
  | .mapPutItems, some (.map _), _ => none
  | .mapPutItems, _, _ => some "Value must be a hashtable for OP_MAP_PUT_ITEMS"
  | .mapRemoveByKeyList, _, some (.list _) => none
  | .mapRemoveByKeyList, _, _ => some "list of keys must be an array"
  | .mapRemoveByValueList, some (.list _), _ => none
  | .mapRemoveByValueList, _, _ => some "list of values must be an array"
  | _, _, _ => none

/-- The name of each map operation in the message of a failed add call; the
one of `OP_MAP_DECREMENT` names its neighbour. -/
def mapOpName (op : OpType) : String :=
  match op with
  | .mapSetPolicy => "OP_MAP_SET_POLICY"
  | .mapPut => "OP_MAP_PUT"
  | .mapPutItems => "OP_MAP_PUT_ITEMS"
  | .mapIncrement => "OP_MAP_INCREMENT"
  | .mapDecrement => "OP_MAP_INCREMENT"
  | .mapSize => "OP_MAP_SIZE"
  | .mapClear => "OP_MAP_CLEAR"
  | .mapRemoveByKey => "OP_MAP_REMOVE_BY_KEY"
  | .mapRemoveByKeyList => "OP_MAP_REMOVE_BY_KEY_LIST"
  | .mapRemoveByKeyRange => "OP_MAP_REMOVE_BY_KEY_RANGE"
  | .mapRemoveByValue => "OP_MAP_REMOVE_BY_VALUE"
  | .mapRemoveByValueList => "OP_MAP_REMOVE_BY_VALUE_LIST"
  | .mapRemoveByValueRange => "OP_MAP_REMOVE_BY_VALUE_RANGE"
  | .mapRemoveByIndex => "OP_MAP_REMOVE_BY_INDEX"
  | .mapRemoveByIndexRange => "OP_MAP_REMOVE_BY_INDEX_RANGE"
  | .mapRemoveByRank => "OP_MAP_REMOVE_BY_RANK"
  | .mapRemoveByRankRange => "OP_MAP_REMOVE_BY_RANK_RANGE"
  | .mapGetByKey => "OP_MAP_GET_BY_KEY"
  | .mapGetByKeyRange => "OP_MAP_GET_BY_KEY_RANGE"
  | .mapGetByValue => "OP_MAP_GET_BY_VALUE"
  | .mapGetByValueRange => "OP_MAP_GET_BY_VALUE_RANGE"
  | .mapGetByIndex => "OP_MAP_GET_BY_INDEX"
  | .mapGetByIndexRange => "OP_MAP_GET_BY_INDEX_RANGE"
  | .mapGetByRank => "OP_MAP_GET_BY_RANK"
  | .mapGetByRankRange => "OP_MAP_GET_BY_RANK_RANGE"
  | _ => ""

/-- `add_map_op_to_operations` ends with `return err->code`. -/
def returnLastCode : AddOp Unit := do
  let s ← Proc.get
  if s.err.code ≠ .ok then Proc.exit s.err.code else pure ()

def addMapOpToOperations (addOk : Bool) (op : OpType) (bin : Option String)
    (opArray : HashTable) : AddOp Unit := do
  let args ← readMapOpArgs rt serializerType op opArray
  match mapOpTypeError op args with
  | some message => refuse .errParam message
  | none =>
      add addOk (s!"Failed to add {mapOpName op} operation")
        (mapOperation op bin args)
      returnLastCode

/-! ## Scalar and list operations -/

/-- The checks on the `val` entry that come before the `switch`. -/
def requireVal (op : Option OpType) (opArray : HashTable) :
    AddOp (Option Zval) :=
  if opRequiresVal op then do
    let zVal ← orRefuse (opArray.strFind "val") "Operation requires a val entry"
    match zVal with
    | .array _ =>
        if opRequiresLongVal op then
          refuse .errParam "Operation requires an integer val entry"
        else pure (some zVal)
    | .long _ =>
        if opRequiresListVal op then
          refuse .errParam "Operation requires a list val entry"
        else pure (some zVal)
    | _ =>
        if opRequiresListVal op then
          refuse .errParam "Operation requires a list val entry"
        else if opRequiresLongVal op then
          refuse .errParam "Operation requires an integer val entry"
        else pure (some zVal)
  else pure none

/-- The conversion of `val` for the operations that take an `as_val`. -/
def requireAsVal (op : Option OpType) (zVal : Option Zval) :
    AddOp (Option AsVal) :=
  match zVal with
  | some z =>
      if opRequiresAsVal op then do
        let converted ← convert (zvalToAsVal rt serializerType z)
        if converted.val.isNone ∨ converted.err.code ≠ .ok then
          refuse .errParam "Unable to convert value"
        else pure converted.val
      else pure none
  | none => pure none

/-- `AS_OPERATOR_INCR` takes a number or a numeric string. -/
def incrValue (z : Option Zval) : Option OpValue :=
  match z with
  | some (.long n) => some (.integer n)
  | some (.double d) => some (.double d)
  | some (.string s) =>
      match rt.isNumericString s with
      | .long n => some (.integer n)
      | .double d => some (.double d)
      | .notNumeric => none
  | _ => none

def stringValue (z : Option Zval) : Option String :=
  match z with
  | some (.string s) => some (cString s)
  | _ => none

/-- The list argument of `OP_LIST_MERGE` and `OP_LIST_INSERT_ITEMS`. -/
def requireListItems (zVal : Option Zval) : AddOp (Option (List AsVal)) :=
  match zVal with
  | some (.array entries) =>
      if HashTable.hashtableIsList entries then do
        let converted ← convert (zHashtableToAsList rt serializerType entries)
        if converted.status ≠ .ok then Proc.exit converted.err.code
        else pure converted.val
      else refuseWith .errParam .errClient "List Merge value must not be a map"
  | _ => refuseWith .errParam .errClient "List Merge value must not be a map"

/-- The count of a range operation, a `long` passed as a `uint64_t`. -/
def rangeCount (zVal : Option Zval) : Option ℤ :=
  match zVal with
  | some (.long n) => some (toUint64 n)
  | _ => none

def addSwitch (addOk : Bool) (op : Option OpType) (bin : Option String)
    (index : Option Int64) (zVal : Option Zval) (opVal : Option AsVal) :
    AddOp Unit :=
  let addOne := add addOk "Unable to add operation"
  match op with
  | some .write => addOne { op := .write, bin, value := .asVal opVal }
  | some .read => addOne { op := .read, bin }
  | some .incr => do
      let value ← orRefuse (incrValue rt zVal)
        "incr operation requires a long or double value"
      addOne { op := .incr, bin, value }
  | some .prepend => do
      let s ← orRefuse (stringValue zVal) "Prepend requires a string value"
      addOne { op := .prepend, bin, value := .string s }
  | some .append => do
      let s ← orRefuse (stringValue zVal) "Append requires a string value"
      addOne { op := .append, bin, value := .string s }
  | some .delete => addOne { op := .delete }
  | some .listAppend => addOne { op := .listAppend, bin, value := .asVal opVal }
  | some .listMerge => do
      let items ← requireListItems rt serializerType zVal
      addOne { op := .listMerge, bin, value := .list items }
  | some .listInsert =>
      addOne { op := .listInsert, bin, index, value := .asVal opVal }
  | some .listInsertItems => do
      let items ← requireListItems rt serializerType zVal
      addOne { op := .listInsertItems, bin, index, value := .list items }
  | some .listPop => addOne { op := .listPop, bin, index }
  | some .listPopRange =>
      addOne { op := .listPopRange, bin, index, count := rangeCount zVal }
  | some .listRemove => addOne { op := .listRemove, bin, index }
  | some .listRemoveRange =>
      addOne { op := .listRemoveRange, bin, index, count := rangeCount zVal }
  | some .listClear => addOne { op := .listClear, bin }
  | some .listSet =>
      addOne { op := .listSet, bin, index, value := .asVal opVal }
  | some .listGet => addOne { op := .listGet, bin, index }
  | some .listGetRange =>
      addOne { op := .listGetRange, bin, index, count := rangeCount zVal }
  | some .listTrim =>
      addOne { op := .listTrim, bin, index, count := rangeCount zVal }
  | some .listSize => addOne { op := .listSize, bin }
  | _ => refuse .errParam "Unknown operation type"

/-- The part of `add_op_to_operations` after the map operations are dealt
with. -/
def addValueOpToOperations (addOk : Bool) (op : Option OpType)
    (bin : Option String) (index : Option Int64) (opArray : HashTable) :
    AddOp Unit := do
  let zVal ← requireVal op opArray
  let opVal ← requireAsVal rt serializerType op zVal
  addSwitch rt serializerType addOk op bin index zVal opVal

def addOpToOperations (addOk : Bool) (opArray : HashTable) : AddOp Unit := do
  let op ← requireOpType operators opArray
  if op = some .touch then addTouch addOk opArray
  else
    let bin ← requireBin op opArray
    let index ← requireIndex op opArray
    match op with
    | some mapOp =>
        if opIsMapOp op then
          addMapOpToOperations rt serializerType addOk mapOp bin opArray
        else
          addValueOpToOperations rt serializerType addOk op bin index opArray
    | none =>
        addValueOpToOperations rt serializerType addOk op bin index opArray

/-- The loop over the operations array.  `ordered` is `operateOrdered`, which
looks at the keys inside the loop; `operate` has looked at them before.  The
client's answers to the add calls are taken in the order of the entries. -/
def addOperations (ordered : Bool) : List ((ZKey × Zval) × Bool) → AddOp Unit
  | [] => pure ()
  | ((key, entry), addOk) :: rest =>
      match ordered, key with
      | true, .str _ =>
          refuse .errParam "Operations array must not have string keys"
      | _, _ =>
          match entry with
          | .array opArray => do
              addOpToOperations rt operators serializerType addOk opArray
              addOperations ordered rest
          | _ => refuse .errParam "Operation must be an array"

end

end AerospikePhp
