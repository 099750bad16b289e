import AerospikePhp.Value
import Mathlib.Tactic

/-!
# Record keys

The two directions between the key array of a PHP program, with its entries
`ns`, `set` and `key` or `digest`, and an `as_key`.  The length limits that
`as_key_init` enforces are the C client's; they enter as the predicate
`keyInit`.
-/

namespace AerospikePhp

/-- The user key inside an `as_key`. -/
inductive AsKeyValue where
  | absent
  | integer (value : Int64)
  | string (value : String)
  | bytes (value : String)
  deriving DecidableEq, Repr

structure AsKey where
  ns : String
  set : String
  value : AsKeyValue
  /-- The digest, once it is initialised. -/
  digest : Option String
  deriving DecidableEq, Repr

def asDigestValueSize : ℕ := 20

def keyError (err : AsError) (message : String) : Converted AsKey :=
  ⟨.errParam, none, err.update .errParam message⟩

/-- The end of `z_hashtable_to_as_key`: the status says that the key could not
be initialised, but the error object is not told. -/
def asKeyInit (keyInit : AsKey → Bool) (key : AsKey) (err : AsError) :
    Converted AsKey :=
  if keyInit key then ⟨.ok, some key, err⟩ else ⟨.errClient, none, err⟩

/-- The primary key: the entry `key`, or else a string entry `digest`. -/
inductive PrimaryKey where
  | userKey (z : Zval)
  | digest (value : String)

def primaryKeyFromHash (hash : HashTable) : Option PrimaryKey :=
  match hash.strFind "key" with
  | some z => some (.userKey z)
  | none =>
      match hash.strFind "digest" with
      | some (.string digest) => some (.digest digest)
      | _ => none

/-- The `switch` of `z_hashtable_to_as_key`. -/
def primaryKeyToAsKey (keyInit : AsKey → Bool) (ns set : String)
    (pk : PrimaryKey) (err : AsError) : Converted AsKey :=
  match pk with
  | .digest digest =>
      if digest.length ≠ asDigestValueSize then
        keyError err "Digest must be 20 bytes"
      else asKeyInit keyInit ⟨cString ns, cString set, .absent, some digest⟩ err
  | .userKey (.string s) =>
      asKeyInit keyInit ⟨cString ns, cString set, .string (cString s), none⟩ err
  | .userKey (.long n) =>
      asKeyInit keyInit ⟨cString ns, cString set, .integer n, none⟩ err
  | .userKey _ => ⟨.errClient, none, err⟩

def zHashtableToAsKey (keyInit : AsKey → Bool) (hash : HashTable)
    (err : AsError) : Converted AsKey :=
  match hash.strFind "ns" with
  | some (.string ns) =>
      match hash.strFind "set" with
      | none =>
          match primaryKeyFromHash hash with
          | none => keyError err "Digest must be a string"
          | some _ => keyError err "Key must contain a string entry for set"
      | some (.string set) =>
          match primaryKeyFromHash hash with
          | none => keyError err "Digest must be a string"
          | some pk => primaryKeyToAsKey keyInit ns set pk err
      | some _ => keyError err "Key entry for set must be a string"
  | _ => keyError err "Key must contain a string entry for ns"

/-- `as_key_to_zval`. -/
def asKeyToZval (key : AsKey) (showPk : Bool) (err : AsError) :
    Converted Zval :=
  if strlen key.ns = 0 then
    ⟨.errClient, none, err.update .errClient "Key has no namespace"⟩
  else
    let table : HashTable :=
      [(.str "ns", .string (cString key.ns)),
        (.str "set", .string (cString key.set))]
    let table :=
      match key.value, showPk with
      | .string s, true => table ++ [(.str "key", .string (cString s))]
      | .integer n, true => table ++ [(.str "key", .long n)]
      | .bytes b, true => table ++ [(.str "key", .string b)]
      | _, _ => table ++ [(.str "key", .null)]
    let table :=
      match key.digest with
      | some digest => table ++ [(.str "digest", .string digest)]
      | none => table
    ⟨.ok, some (.array table), err⟩

/-! ## The key a key array stands for

Whether the conversion succeeds, and with which key, does not depend on the
error object, and a success leaves it alone.  A failure shows in the status
always; in the error object it shows only when the array itself is at fault.
-/

/-- The array has the entries that `z_hashtable_to_as_key` looks for, so that
the rest is up to the primary key and to `as_key_init`. -/
def keyEntries (hash : HashTable) : Option (String × String × PrimaryKey) :=
  match hash.strFind "ns", hash.strFind "set", primaryKeyFromHash hash with
  | some (.string ns), some (.string set), some pk => some (ns, set, pk)
  | _, _, _ => none

def keyOf (keyInit : AsKey → Bool) (hash : HashTable) : Option AsKey :=
  match keyEntries hash with
  | some (ns, set, pk) => (primaryKeyToAsKey keyInit ns set pk .init).val
  | none => none

theorem zHashtableToAsKey_of_entries (keyInit : AsKey → Bool)
    {hash : HashTable} {ns set : String} {pk : PrimaryKey} (err : AsError)
    (hentries : keyEntries hash = some (ns, set, pk)) :
    zHashtableToAsKey keyInit hash err =
      primaryKeyToAsKey keyInit ns set pk err := by
  unfold keyEntries at hentries
  split at hentries
  · next ns' set' pk' hns hset hpk =>
      simp only [Option.some.injEq, Prod.mk.injEq] at hentries
      obtain ⟨rfl, rfl, rfl⟩ := hentries
      simp [zHashtableToAsKey, hns, hset, hpk]
  · simp at hentries

theorem zHashtableToAsKey_of_no_entries (keyInit : AsKey → Bool)
    {hash : HashTable} (err : AsError) (hentries : keyEntries hash = none) :
    ∃ message, zHashtableToAsKey keyInit hash err = keyError err message := by
  unfold zHashtableToAsKey
  split
  · next ns hns =>
      split
      · split <;> exact ⟨_, rfl⟩
      · next set hset =>
          split
          · exact ⟨_, rfl⟩
          · next pk hpk => simp [keyEntries, hns, hset, hpk] at hentries
      · exact ⟨_, rfl⟩
  · exact ⟨_, rfl⟩

/-- A key with status OK and the error object as it was, or a failure that the
error object reports, or one that it does not. -/
inductive KeyOutcome (err : AsError) : Option AsKey → Converted AsKey → Prop
  | made (key : AsKey) : KeyOutcome err (some key) ⟨.ok, some key, err⟩
  | reported (message : String) : KeyOutcome err none (keyError err message)
  | unreported : KeyOutcome err none ⟨.errClient, none, err⟩

theorem asKeyInit_outcome (keyInit : AsKey → Bool) (key : AsKey)
    (err : AsError) :
    KeyOutcome err (asKeyInit keyInit key .init).val
      (asKeyInit keyInit key err) := by
  unfold asKeyInit
  split
  · exact .made key
  · exact .unreported

theorem primaryKeyToAsKey_outcome (keyInit : AsKey → Bool) (ns set : String)
    (pk : PrimaryKey) (err : AsError) :
    KeyOutcome err (primaryKeyToAsKey keyInit ns set pk .init).val
      (primaryKeyToAsKey keyInit ns set pk err) := by
  cases pk with
  | digest digest =>
      by_cases hlen : digest.length = asDigestValueSize
      · simp only [primaryKeyToAsKey, hlen, ne_eq, not_true, if_false]
        exact asKeyInit_outcome keyInit _ err
      · simp only [primaryKeyToAsKey, hlen, ne_eq, not_false_eq_true, if_true]
        exact .reported _
  | userKey z =>
      cases z with
      | string s => exact asKeyInit_outcome keyInit _ err
      | long n => exact asKeyInit_outcome keyInit _ err
      | undef | null | bool _ | double _ | array _ | object _ _ | resource
      | reference _ => exact .unreported

theorem zHashtableToAsKey_outcome (keyInit : AsKey → Bool) (hash : HashTable)
    (err : AsError) :
    KeyOutcome err (keyOf keyInit hash) (zHashtableToAsKey keyInit hash err) := by
  cases hentries : keyEntries hash with
  | none =>
      obtain ⟨message, hfail⟩ :=
        zHashtableToAsKey_of_no_entries keyInit err hentries
      rw [hfail, keyOf, hentries]
      exact .reported message
  | some entries =>
      obtain ⟨ns, set, pk⟩ := entries
      rw [zHashtableToAsKey_of_entries keyInit err hentries, keyOf, hentries]
      exact primaryKeyToAsKey_outcome keyInit ns set pk err

theorem zHashtableToAsKey_of_some {keyInit : AsKey → Bool} {hash : HashTable}
    {key : AsKey} (err : AsError) (hkey : keyOf keyInit hash = some key) :
    zHashtableToAsKey keyInit hash err = ⟨.ok, some key, err⟩ := by
  have hout := zHashtableToAsKey_outcome keyInit hash err
  rw [hkey] at hout
  generalize zHashtableToAsKey keyInit hash err = converted at hout
  cases hout
  rfl

theorem zHashtableToAsKey_of_none {keyInit : AsKey → Bool} {hash : HashTable}
    (err : AsError) (hkey : keyOf keyInit hash = none) :
    (zHashtableToAsKey keyInit hash err).status ≠ .ok ∧
      (zHashtableToAsKey keyInit hash err).val = none := by
  have hout := zHashtableToAsKey_outcome keyInit hash err
  rw [hkey] at hout
  generalize zHashtableToAsKey keyInit hash err = converted at hout
  cases hout <;> simp [keyError]

end AerospikePhp
