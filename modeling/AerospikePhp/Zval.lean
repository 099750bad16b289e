import Mathlib.Data.List.TakeWhile
import Mathlib.Tactic

/-!
# PHP values

The values the extension receives and returns: zvals, the hash tables they
hold, and the C strings and integer casts by which the extension reads them.
A PHP string is a sequence of bytes; it is modelled by a `String` whose
characters stand for the bytes.
-/

namespace AerospikePhp

/-- A C `double`, by its bits. -/
structure Double where
  bits : UInt64
  deriving DecidableEq, Repr

/-- The key of a hash-table entry: a string key, or a numeric one. -/
inductive ZKey where
  | str (name : String)
  | idx (index : Int64)
  deriving DecidableEq, Repr

inductive Zval where
  | undef
  | null
  | bool (value : Bool)
  | long (value : Int64)
  | double (value : Double)
  | string (value : String)
  | array (entries : List (ZKey × Zval))
  | object (className : String) (properties : List (String × Zval))
  | resource
  | reference (target : Zval)
  deriving Repr, Inhabited

/-- The entries in iteration order. -/
abbrev HashTable := List (ZKey × Zval)

namespace HashTable

def find (table : HashTable) (key : ZKey) : Option Zval :=
  (List.find? (fun entry => entry.1 = key) table).map Prod.snd

/-- `zend_hash_str_find`. -/
def strFind (table : HashTable) (name : String) : Option Zval :=
  find table (.str name)

/-- `zend_hash_index_find`. -/
def indexFind (table : HashTable) (index : Int64) : Option Zval :=
  find table (.idx index)

/-- `zend_hash_num_elements`. -/
def numElements (table : HashTable) : ℕ := table.length

def values (table : HashTable) : List Zval := table.map Prod.snd

/-- `zend_hash_update`: an equal key keeps its place. -/
def update (table : HashTable) (key : ZKey) (value : Zval) : HashTable :=
  match table with
  | [] => [(key, value)]
  | (key', value') :: rest =>
      if key' = key then (key', value) :: rest
      else (key', value') :: update rest key value

/-- `add_next_index_zval` on an array that was only ever appended to. -/
def push (table : HashTable) (value : Zval) : HashTable :=
  table ++ [(.idx (Int64.ofNat table.length), value)]

/-- The loop of `hashtable_is_list`, with `i` the next numeric key expected. -/
def isListFrom : ℕ → HashTable → Bool
  | _, [] => true
  | i, (.idx index, _) :: entries =>
      if index.toInt = i then isListFrom (i + 1) entries else false
  | _, (.str _, _) :: _ => false

def hashtableIsList (table : HashTable) : Bool := isListFrom 0 table

/-- The array literal `[v₀, v₁, …]`, with keys `0, 1, …`. -/
def ofValues (vals : List Zval) : HashTable :=
  vals.mapIdx fun i value => (.idx (Int64.ofNat i), value)

@[simp] theorem values_nil : values [] = [] := rfl

@[simp] theorem values_cons (entry : ZKey × Zval) (entries : HashTable) :
    values (entry :: entries) = entry.2 :: values entries := rfl

@[simp] theorem length_values (table : HashTable) :
    (values table).length = numElements table := List.length_map _

end HashTable

/-! ## C strings -/

/-- The bytes a `char *` into the PHP string stands for: those before the
first NUL. -/
def cString (s : String) : String :=
  String.ofList (s.toList.takeWhile (· ≠ '\x00'))

/-- A PHP string that a `char *` carries whole. -/
def NulFree (s : String) : Prop := '\x00' ∉ s.toList

instance (s : String) : Decidable (NulFree s) :=
  inferInstanceAs (Decidable ('\x00' ∉ s.toList))

theorem cString_eq_self_iff (s : String) : cString s = s ↔ NulFree s := by
  constructor
  · intro heq hmem
    have hlist : s.toList.takeWhile (· ≠ '\x00') = s.toList := by
      rw [← String.toList_ofList (l := s.toList.takeWhile (· ≠ '\x00'))]
      exact congrArg String.toList heq
    rw [← hlist] at hmem
    simpa using List.mem_takeWhile_imp hmem
  · intro hfree
    have hlist : s.toList.takeWhile (· ≠ '\x00') = s.toList := by
      apply List.takeWhile_eq_self_iff.mpr
      intro c hc
      simp only [decide_eq_true_eq]
      rintro rfl
      exact hfree hc
    unfold cString
    rw [hlist, String.ofList_toList]

theorem nulFree_cString (s : String) : NulFree (cString s) := by
  unfold NulFree cString
  rw [String.toList_ofList]
  intro hmem
  have hne := List.mem_takeWhile_imp hmem
  simp at hne

/-- `strlen`. -/
def strlen (s : String) : ℕ := (cString s).length

/-- The bytes of a string whose length is handed on as a `uint32_t`. -/
def uint32Prefix (s : String) : String :=
  String.ofList (s.toList.take (s.length % 2 ^ 32))

@[simp] theorem length_uint32Prefix (s : String) :
    (uint32Prefix s).length = s.length % 2 ^ 32 := by
  rw [uint32Prefix, String.length_ofList, List.length_take, String.length_toList]
  exact min_eq_left (Nat.mod_le _ _)

theorem uint32Prefix_eq_self_iff (s : String) :
    uint32Prefix s = s ↔ s.length < 2 ^ 32 := by
  constructor
  · intro heq
    have hlength := congrArg String.length heq
    rw [length_uint32Prefix] at hlength
    rw [← hlength]
    exact Nat.mod_lt _ (by norm_num)
  · intro hshort
    have htake : s.toList.take s.length = s.toList := by
      apply List.take_of_length_le
      rw [String.length_toList]
    rw [uint32Prefix, Nat.mod_eq_of_lt hshort, htake, String.ofList_toList]

theorem uint32Prefix_of_short {s : String} (hshort : s.length < 2 ^ 32) :
    uint32Prefix s = s :=
  (uint32Prefix_eq_self_iff s).mpr hshort

theorem length_ofList_replicate (n : ℕ) (c : Char) :
    (String.ofList (List.replicate n c)).length = n := by simp

/-- The digits of a canonical decimal number, most significant first. -/
def decimalValue (digits : List Char) : Option ℕ :=
  match digits with
  | [] => none
  | first :: rest =>
      if digits.all Char.isDigit ∧ (first ≠ '0' ∨ rest = []) then
        some (digits.foldl (fun value c => 10 * value + (c.toNat - '0'.toNat)) 0)
      else none

/-- The integer key that a PHP array uses for a numeric string, as
`ZEND_HANDLE_NUMERIC_STR` finds it. -/
def numericKey (s : String) : Option Int64 :=
  match s.toList with
  | '-' :: digits =>
      match decimalValue digits with
      | some value =>
          if 0 < value ∧ value ≤ 2 ^ 63 then some (Int64.ofInt (-value)) else none
      | none => none
  | digits =>
      match decimalValue digits with
      | some value => if value < 2 ^ 63 then some (Int64.ofNat value) else none
      | none => none

/-- The key under which `add_assoc_zval` and its like store an entry. -/
def assocKey (name : String) : ZKey :=
  match numericKey name with
  | some index => .idx index
  | none => .str name

/-! ## Integer casts -/

/-- `(uint16_t)`. -/
def toUint16 (n : Int64) : ℕ := (n.toInt % 2 ^ 16).toNat

/-- `(uint32_t)`. -/
def toUint32 (n : Int64) : ℕ := (n.toInt % 2 ^ 32).toNat

/-- `(uint64_t)`. -/
def toUint64 (n : Int64) : ℕ := (n.toInt % 2 ^ 64).toNat

/-- The cast to a C enumeration.  None of those used here has a negative
constant, so that the compiler holds them in an `unsigned int`. -/
def asEnum (n : Int64) : Int64 := Int64.ofNat (toUint32 n)

/-- The conversion to a 32-bit `int`, which keeps the low 32 bits. -/
def toInt32 (n : Int64) : ℤ := (n.toInt + 2 ^ 31) % 2 ^ 32 - 2 ^ 31

/-- The conversion of a length or a difference of pointers to `int`. -/
def sizeToInt (n : ℕ) : ℤ := ((n : ℤ) + 2 ^ 31) % 2 ^ 32 - 2 ^ 31

/-- The conversion of an `int` to `size_t`. -/
def intToSize (n : ℤ) : ℕ := (n % 2 ^ 64).toNat

theorem toUint16_eq_iff (n : Int64) :
    (toUint16 n : ℤ) = n.toInt ↔ 0 ≤ n.toInt ∧ n.toInt < 2 ^ 16 := by
  unfold toUint16
  omega

theorem toUint32_eq_iff (n : Int64) :
    (toUint32 n : ℤ) = n.toInt ↔ 0 ≤ n.toInt ∧ n.toInt < 2 ^ 32 := by
  unfold toUint32
  omega

theorem toUint64_eq_iff (n : Int64) : (toUint64 n : ℤ) = n.toInt ↔ 0 ≤ n.toInt := by
  have hlt := n.toInt_lt
  unfold toUint64
  omega

theorem asEnum_eq_iff (n : Int64) :
    asEnum n = n ↔ 0 ≤ n.toInt ∧ n.toInt < 2 ^ 32 := by
  rw [← toUint32_eq_iff, ← Int64.toInt_inj, asEnum,
    Int64.toInt_ofNat_of_lt (by unfold toUint32; omega)]

theorem toInt32_eq_iff (n : Int64) :
    toInt32 n = n.toInt ↔ -2 ^ 31 ≤ n.toInt ∧ n.toInt < 2 ^ 31 := by
  unfold toInt32
  omega

theorem sizeToInt_bounds (n : ℕ) :
    -2 ^ 31 ≤ sizeToInt n ∧ sizeToInt n < 2 ^ 31 := by
  unfold sizeToInt
  omega

theorem sizeToInt_of_small {n : ℕ} (hsmall : n < 2 ^ 31) : sizeToInt n = n := by
  unfold sizeToInt
  omega

theorem sizeToInt_of_nonneg {n : ℕ} (hnonneg : 0 ≤ sizeToInt n) :
    ∃ length ≤ n, length < 2 ^ 31 ∧ sizeToInt n = length := by
  refine ⟨(sizeToInt n).toNat, ?_, ?_, ?_⟩
  · unfold sizeToInt at hnonneg ⊢
    omega
  · have hbounds := sizeToInt_bounds n
    omega
  · omega

end AerospikePhp
