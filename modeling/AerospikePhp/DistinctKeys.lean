import AerospikePhp.Keys
import Mathlib.Tactic

/-!
# Distinct keys

Two key arrays may name different records in PHP and still become one `as_key`:
the names and a string key reach the C client through a `char *`, which ends at
the first NUL, while a digest is copied with its length.
-/

namespace AerospikePhp

/-! ## What becomes of a primary key -/

/-- Primary keys that `z_hashtable_to_as_key` knows. -/
inductive PrimaryKey.Known : PrimaryKey → Prop
  | string (s : String) : Known (.userKey (.string s))
  | long (n : Int64) : Known (.userKey (.long n))
  | digest (bytes : String) : Known (.digest bytes)

def PrimaryKey.asKeyValue : PrimaryKey → AsKeyValue
  | .userKey (.string s) => .string (cString s)
  | .userKey (.long n) => .integer n
  | _ => .absent

def PrimaryKey.digestBytes : PrimaryKey → Option String
  | .digest bytes => some bytes
  | .userKey _ => none

/-- The primary keys differ, and two strings already before their first NUL. -/
def PrimaryKey.ApartBeforeNul : PrimaryKey → PrimaryKey → Prop
  | .userKey (.string s), .userKey (.string t) => cString s ≠ cString t
  | pk, pk' => pk ≠ pk'

/-- The namespaces, the sets or the primary keys differ, and strings that
become C strings already before their first NUL. -/
def ApartBeforeNul (entries entries' : String × String × PrimaryKey) : Prop :=
  cString entries.1 ≠ cString entries'.1 ∨
    cString entries.2.1 ≠ cString entries'.2.1 ∨
      entries.2.2.ApartBeforeNul entries'.2.2

theorem asKeyInit_val_eq_some {keyInit : AsKey → Bool} {made key : AsKey}
    {err : AsError} (hval : (asKeyInit keyInit made err).val = some key) :
    key = made := by
  unfold asKeyInit at hval
  split at hval
  · exact (Option.some.inj hval).symm
  · simp at hval

theorem primaryKeyToAsKey_val_eq_some {keyInit : AsKey → Bool}
    {ns set : String} {pk : PrimaryKey} {key : AsKey} {err : AsError}
    (hval : (primaryKeyToAsKey keyInit ns set pk err).val = some key) :
    pk.Known ∧
      key = ⟨cString ns, cString set, pk.asKeyValue, pk.digestBytes⟩ := by
  cases pk with
  | digest bytes =>
      by_cases hlen : bytes.length = asDigestValueSize
      · simp only [primaryKeyToAsKey, hlen, ne_eq, not_true, if_false] at hval
        exact ⟨.digest bytes, asKeyInit_val_eq_some hval⟩
      · simp [primaryKeyToAsKey, hlen, keyError] at hval
  | userKey z =>
      cases z with
      | string s => exact ⟨.string s, asKeyInit_val_eq_some hval⟩
      | long n => exact ⟨.long n, asKeyInit_val_eq_some hval⟩
      | undef | null | bool _ | double _ | array _ | object _ _ | resource
      | reference _ => simp [primaryKeyToAsKey] at hval

theorem keyOf_eq_some {keyInit : AsKey → Bool} {hash : HashTable} {key : AsKey}
    (hkey : keyOf keyInit hash = some key) :
    ∃ ns set pk, keyEntries hash = some (ns, set, pk) ∧ pk.Known ∧
      key = ⟨cString ns, cString set, pk.asKeyValue, pk.digestBytes⟩ := by
  unfold keyOf at hkey
  split at hkey
  · next ns set pk hentries =>
      exact ⟨ns, set, pk, hentries, primaryKeyToAsKey_val_eq_some hkey⟩
  · simp at hkey

theorem PrimaryKey.apartBeforeNul_iff {pk pk' : PrimaryKey} (hpk : pk.Known)
    (hpk' : pk'.Known) :
    pk.ApartBeforeNul pk' ↔
      pk.asKeyValue ≠ pk'.asKeyValue ∨ pk.digestBytes ≠ pk'.digestBytes := by
  cases hpk <;> cases hpk' <;> simp [ApartBeforeNul, asKeyValue, digestBytes]

/-! ## Two key arrays -/

/-- If both arrays are accepted and name different records, then the keys built
from them are different too. -/
def KeysStayApart (keyInit : AsKey → Bool) (hash hash' : HashTable) : Prop :=
  ∀ err err' key key',
    (zHashtableToAsKey keyInit hash err).val = some key →
    (zHashtableToAsKey keyInit hash' err').val = some key' →
    keyEntries hash ≠ keyEntries hash' → key ≠ key'

/-- Both arrays are accepted, and what they name differs only in bytes behind a
NUL, of the namespace, of the set or of a string key. -/
def DifferOnlyBehindNul (keyInit : AsKey → Bool) (hash hash' : HashTable) :
    Prop :=
  ∃ entries entries', keyEntries hash = some entries ∧
    keyEntries hash' = some entries' ∧ entries ≠ entries' ∧
    ¬ApartBeforeNul entries entries' ∧ (keyOf keyInit hash).isSome ∧
    (keyOf keyInit hash').isSome

theorem zHashtableToAsKey_val (keyInit : AsKey → Bool) (hash : HashTable)
    (err : AsError) :
    (zHashtableToAsKey keyInit hash err).val = keyOf keyInit hash := by
  cases hkey : keyOf keyInit hash with
  | some key => rw [zHashtableToAsKey_of_some err hkey]
  | none => exact (zHashtableToAsKey_of_none err hkey).2

/-- The keys of two accepted arrays differ exactly when the entries do before
any NUL. -/
theorem asKeys_ne_iff {keyInit : AsKey → Bool} {hash hash' : HashTable}
    {key key' : AsKey} {entries entries' : String × String × PrimaryKey}
    (hkey : keyOf keyInit hash = some key)
    (hkey' : keyOf keyInit hash' = some key')
    (hentries : keyEntries hash = some entries)
    (hentries' : keyEntries hash' = some entries') :
    key ≠ key' ↔ ApartBeforeNul entries entries' := by
  obtain ⟨ns, set, pk, hnamed, hknown, rfl⟩ := keyOf_eq_some hkey
  obtain ⟨ns', set', pk', hnamed', hknown', rfl⟩ := keyOf_eq_some hkey'
  obtain rfl : (ns, set, pk) = entries :=
    Option.some.inj (hnamed.symm.trans hentries)
  obtain rfl : (ns', set', pk') = entries' :=
    Option.some.inj (hnamed'.symm.trans hentries')
  simp only [ApartBeforeNul, PrimaryKey.apartBeforeNul_iff hknown hknown', ne_eq,
    AsKey.mk.injEq]
  tauto

/-- Two key arrays stay apart exactly when they do not differ only behind a
NUL. -/
theorem keysStayApart_iff (keyInit : AsKey → Bool) (hash hash' : HashTable) :
    KeysStayApart keyInit hash hash' ↔
      ¬DifferOnlyBehindNul keyInit hash hash' := by
  constructor
  · rintro hapart ⟨entries, entries', hentries, hentries', hne, hnul, hsome,
      hsome'⟩
    obtain ⟨key, hkey⟩ := Option.isSome_iff_exists.mp hsome
    obtain ⟨key', hkey'⟩ := Option.isSome_iff_exists.mp hsome'
    have hnamed : keyEntries hash ≠ keyEntries hash' := by
      rw [hentries, hentries']
      exact fun heq => hne (Option.some.inj heq)
    have hkeys : key ≠ key' :=
      hapart .init .init key key' ((zHashtableToAsKey_val _ _ _).trans hkey)
        ((zHashtableToAsKey_val _ _ _).trans hkey') hnamed
    exact hnul ((asKeys_ne_iff hkey hkey' hentries hentries').mp hkeys)
  · intro hnul err err' key key' hval hval' hnamed
    have hkey : keyOf keyInit hash = some key :=
      (zHashtableToAsKey_val _ _ _).symm.trans hval
    have hkey' : keyOf keyInit hash' = some key' :=
      (zHashtableToAsKey_val _ _ _).symm.trans hval'
    obtain ⟨ns, set, pk, hentries, -, -⟩ := keyOf_eq_some hkey
    obtain ⟨ns', set', pk', hentries', -, -⟩ := keyOf_eq_some hkey'
    refine (asKeys_ne_iff hkey hkey' hentries hentries').mpr ?_
    by_contra hsame
    refine hnul ⟨_, _, hentries, hentries', ?_, hsame, by simp [hkey],
      by simp [hkey']⟩
    rintro heq
    exact hnamed (by rw [hentries, hentries', heq])

/-- The bytes of a hash, with a NUL among them, as a primary key. -/
def hashedKey (bytes : String) : HashTable :=
  [(.str "ns", .string "test"), (.str "set", .string "users"),
    (.str "key", .string bytes)]

theorem hashedKeys_not_apart :
    ¬KeysStayApart (fun _ => true) (hashedKey "a\x00b") (hashedKey "a\x00c") := by
  intro hapart
  have hnamed : keyEntries (hashedKey "a\x00b") ≠ keyEntries (hashedKey "a\x00c") := by
    intro heq
    have hpk : ("a\x00b" : String) = "a\x00c" := by
      have hentries := Option.some.inj heq
      injection hentries with _ hrest
      injection hrest with _ hpk
      injection hpk with hz
      injection hz
    exact absurd hpk (by decide)
  exact hapart .init .init _ _ rfl rfl hnamed (by decide)

end AerospikePhp
