import AerospikePhp.BatchAnswers
import Mathlib.Tactic

/-!
# Keys that come back

The key arrays that a program is given, by `initKey` or inside a record, and
what the converter of the methods makes of them.  An entry `key` is looked for
before the digest, so the null that stands for a key which is not shown hides
the digest next to it.
-/

namespace AerospikePhp

open Procedure Method Proc List

/-! ## The methods that make key arrays -/

structure InitKeyArgs where
  ns : String
  set : String
  primaryKey : Zval
  isDigest : Bool

/-- The `switch` of `initKey`, which completes the array. -/
def initKeyArray (table : HashTable) (primaryKey : Zval) (isDigest : Bool) :
    Method Reply :=
  match primaryKey with
  | .string s =>
      if isDigest then
        if s.length ≠ asDigestValueSize then do
          updateClientError .errParam "Digest Must be 20 bytes"
          pure .null
        else pure (.value (.array (table ++ [(.str "digest", .string s)])))
      else pure (.value (.array (table ++ [(.str "key", .string s)])))
  | .long n =>
      -- no error is recorded for an integer digest
      if isDigest then pure .null
      else pure (.value (.array (table ++ [(.str "key", .long n)])))
  | _ => do
      updateClientError .errParam "Invalid type for primary key"
      pure .null

def initKey (args : Option InitKeyArgs) : Method Reply := do
  let args ← orFail args (failReturn .errParam "Invalid arguments for initKey")
  resetClientError
  initKeyArray [(.str "ns", .string args.ns), (.str "set", .string args.set)]
    args.primaryKey args.isDigest

/-- The record that `execute_user_callback` hands to the callback of a scan or
a query, with the key that the cluster sent along. -/
def executeUserCallback (rt : Runtime) (record : AsRecord) (key : AsKey)
    (err : AsError) : Converted Zval :=
  asRecordToZval rt record key true err

/-! ## Keys of one record -/

/-- Names that `as_key_init` accepts. -/
def NamesFit (ns set : String) : Prop :=
  0 < strlen ns ∧ strlen ns < asNamespaceMaxSize ∧ strlen set < asSetMaxSize

instance (ns set : String) : Decidable (NamesFit ns set) :=
  inferInstanceAs (Decidable (_ ∧ _ ∧ _))

/-- `as_key_init` refuses a key for its names only. -/
def Engine.InitsByNames (engine : Engine) : Prop :=
  ∀ key, engine.keyInit key = true ↔ NamesFit key.ns key.set

/-- A key whose digest is initialised, as the client holds it: the names and a
string value are C strings and the names fit. -/
structure AsKey.Held (engine : Engine) (key : AsKey) : Prop where
  ns : NulFree key.ns
  set : NulFree key.set
  nsFits : strlen key.ns < asNamespaceMaxSize
  setFits : strlen key.set < asSetMaxSize
  /-- The primary key is an integer, a string or absent. -/
  value : match key.value with
    | .string s => NulFree s
    | .bytes _ => False
    | _ => True
  digest : key.digest.isSome
  /-- The digest is the one of the set and the primary key. -/
  digested : engine.digested key = key

def SameRecord (engine : Engine) (key key' : AsKey) : Prop :=
  (engine.digested key).ns = (engine.digested key').ns ∧
    (engine.digested key).set = (engine.digested key').set ∧
    (engine.digested key).digest = (engine.digested key').digest

/-- The array is accepted, and gives a key of the same record. -/
def ReadsBack (engine : Engine) (table : HashTable) (key : AsKey) : Prop :=
  ∀ err, ∃ key', zHashtableToAsKey engine.keyInit table err =
      ⟨.ok, some key', err⟩ ∧ SameRecord engine key' key

/-- The array under `key` in a record. -/
def KeyEntry (z : Zval) (table : HashTable) : Prop :=
  ∃ record, z = .array record ∧
    HashTable.strFind record "key" = some (.array table)

section

variable {engine : Engine}

attribute [local irreducible] strlen

theorem readsBack_of_some {table : HashTable} {key key' : AsKey}
    (hkey : keyOf engine.keyInit table = some key')
    (hsame : SameRecord engine key' key) : ReadsBack engine table key := by
  intro err
  exact ⟨key', zHashtableToAsKey_of_some err hkey, hsame⟩

theorem not_readsBack_of_none {table : HashTable} {key : AsKey}
    (hkey : keyOf engine.keyInit table = none) :
    ¬ ReadsBack engine table key := by
  intro hreads
  obtain ⟨key', hconverted, -⟩ := hreads .init
  have hval := (zHashtableToAsKey_of_none .init hkey).2
  rw [hconverted] at hval
  cases hval

theorem sameRecord_of_value {key key' : AsKey} (hns : key'.ns = key.ns)
    (hset : key'.set = key.set) (hvalue : key'.value = key.value)
    (hpresent : key.value ≠ .absent) : SameRecord engine key' key := by
  unfold SameRecord Engine.digested
  cases hkey : key.value with
  | absent => exact absurd hkey hpresent
  | integer n => simp [hvalue, hkey, hns, hset]
  | string s => simp [hvalue, hkey, hns, hset]
  | bytes b => simp [hvalue, hkey, hns, hset]

/-- The entries of an array that is made for a key. -/
def keyTable (ns set : String) (entries : HashTable) : HashTable :=
  [(.str "ns", .string ns), (.str "set", .string set)] ++ entries

theorem keyOf_shown {ns set : String} {z : Zval} {entries : HashTable} :
    keyOf engine.keyInit (keyTable ns set ((.str "key", z) :: entries)) =
      (primaryKeyToAsKey engine.keyInit ns set (.userKey z) .init).val := by
  rfl

theorem keyOf_digest {ns set digest : String} :
    keyOf engine.keyInit (keyTable ns set [(.str "digest", .string digest)]) =
      (primaryKeyToAsKey engine.keyInit ns set (.digest digest) .init).val := by
  rfl

theorem asKeyInit_val (hinit : engine.InitsByNames) {ns set : String}
    {value : AsKeyValue} {digest : Option String} (hns : NulFree ns)
    (hset : NulFree set) :
    (asKeyInit engine.keyInit ⟨cString ns, cString set, value, digest⟩ .init).val =
      if NamesFit ns set then some ⟨ns, set, value, digest⟩ else none := by
  rw [(cString_eq_self_iff ns).mpr hns, (cString_eq_self_iff set).mpr hset]
  have haccepts := hinit ⟨ns, set, value, digest⟩
  unfold asKeyInit
  by_cases hfit : NamesFit ns set
  · rw [if_pos (haccepts.mpr hfit), if_pos hfit]
  · rw [if_neg (mt haccepts.mp hfit), if_neg hfit]

/-- A key with a shown primary key. -/
theorem userKey_readsBack_iff (hinit : engine.InitsByNames) {ns set : String}
    {z : Zval} {value : AsKeyValue} {entries : HashTable} {key : AsKey}
    (hns : NulFree ns) (hset : NulFree set)
    (hswitch : primaryKeyToAsKey engine.keyInit ns set (.userKey z) .init =
      asKeyInit engine.keyInit ⟨cString ns, cString set, value, none⟩ .init)
    (hkey : SameRecord engine ⟨ns, set, value, none⟩ key) :
    ReadsBack engine (keyTable ns set ((.str "key", z) :: entries)) key ↔
      NamesFit ns set := by
  have hval : keyOf engine.keyInit
      (keyTable ns set ((.str "key", z) :: entries)) =
      if NamesFit ns set then some ⟨ns, set, value, none⟩ else none := by
    rw [keyOf_shown, hswitch, asKeyInit_val hinit hns hset]
  by_cases hfit : NamesFit ns set
  · rw [if_pos hfit] at hval
    exact iff_of_true (readsBack_of_some hval hkey) hfit
  · rw [if_neg hfit] at hval
    exact iff_of_false (not_readsBack_of_none hval) hfit

theorem keyZval_eq {key : AsKey} {showPk : Bool} {digest : String}
    (hheld : key.Held engine) (hdigest : key.digest = some digest)
    (hnamed : strlen key.ns ≠ 0) :
    keyZval key showPk = some (.array (keyTable key.ns key.set
      [(.str "key", match key.value, showPk with
        | .string s, true => .string s
        | .integer n, true => .long n
        | .bytes b, true => .string b
        | _, _ => .null), (.str "digest", .string digest)])) := by
  have hns := (cString_eq_self_iff key.ns).mpr hheld.ns
  have hset := (cString_eq_self_iff key.set).mpr hheld.set
  have hvalue := hheld.value
  unfold keyZval asKeyToZval keyTable
  simp only [hnamed, if_false, hdigest, hns, hset]
  cases hkey : key.value with
  | absent => rfl
  | integer n => cases showPk <;> rfl
  | string s =>
      rw [hkey] at hvalue
      have hs := (cString_eq_self_iff s).mpr hvalue
      cases showPk
      · rfl
      · simp only [hs]
        rfl
  | bytes b => cases showPk <;> rfl

theorem namesFit_of_held {key : AsKey} (hheld : key.Held engine)
    (hnamed : strlen key.ns ≠ 0) : NamesFit key.ns key.set :=
  ⟨Nat.pos_of_ne_zero hnamed, hheld.nsFits, hheld.setFits⟩

/-- The array for a key reads back when the primary key is there and shown. -/
theorem keyZval_readsBack_iff (hinit : engine.InitsByNames) {key : AsKey}
    {showPk : Bool} {table : HashTable} (hheld : key.Held engine)
    (htable : keyZval key showPk = some (.array table)) :
    ReadsBack engine table key ↔ showPk = true ∧ key.value ≠ .absent := by
  have hnamed : strlen key.ns ≠ 0 := by
    rw [← keyZval_isSome_iff key showPk, htable]
    rfl
  obtain ⟨digest, hdigest⟩ := Option.isSome_iff_exists.mp hheld.digest
  have hfit := namesFit_of_held hheld hnamed
  have hns := (cString_eq_self_iff key.ns).mpr hheld.ns
  have hset := (cString_eq_self_iff key.set).mpr hheld.set
  rw [keyZval_eq hheld hdigest hnamed] at htable
  have htable := Zval.array.inj (Option.some.inj htable)
  have hhidden : keyOf engine.keyInit (keyTable key.ns key.set
      [(.str "key", .null), (.str "digest", .string digest)]) = none := by
    rw [keyOf_shown]
    rfl
  have hvalue := hheld.value
  rw [← htable]
  cases hkey : key.value with
  | absent => simp [not_readsBack_of_none hhidden]
  | integer n =>
      cases showPk with
      | false => simp [not_readsBack_of_none hhidden]
      | true =>
          have hsame : SameRecord engine ⟨key.ns, key.set, .integer n, none⟩ key :=
            sameRecord_of_value rfl rfl hkey.symm (by simp [hkey])
          have hreads := @userKey_readsBack_iff engine hinit key.ns key.set
            (.long n) (.integer n) [(.str "digest", .string digest)] key
            hheld.ns hheld.set rfl hsame
          simpa [hfit] using hreads
  | string s =>
      cases showPk with
      | false => simp [not_readsBack_of_none hhidden]
      | true =>
          rw [hkey] at hvalue
          have hs := (cString_eq_self_iff s).mpr hvalue
          have hsame : SameRecord engine ⟨key.ns, key.set, .string s, none⟩ key :=
            sameRecord_of_value rfl rfl hkey.symm (by simp [hkey])
          have hswitch : primaryKeyToAsKey engine.keyInit key.ns key.set
              (.userKey (.string s)) .init = asKeyInit engine.keyInit
                ⟨cString key.ns, cString key.set, .string s, none⟩ .init := by
            rw [primaryKeyToAsKey, hs]
          have hreads := @userKey_readsBack_iff engine hinit key.ns key.set
            (.string s) (.string s) [(.str "digest", .string digest)] key
            hheld.ns hheld.set hswitch hsame
          simpa [hfit] using hreads
  | bytes b =>
      rw [hkey] at hvalue
      exact hvalue.elim

/-! ## The arrays of `initKey` -/

/-- The key that the arguments of `initKey` name. -/
def InitKeyArgs.key (args : InitKeyArgs) : AsKey :=
  match args.primaryKey with
  | .string s =>
      if args.isDigest then ⟨args.ns, args.set, .absent, some s⟩
      else ⟨args.ns, args.set, .string s, none⟩
  | .long n => ⟨args.ns, args.set, .integer n, none⟩
  | _ => ⟨args.ns, args.set, .absent, none⟩

/-- The names and a primary key that is a string have no NUL. -/
structure InitKeyArgs.Named (args : InitKeyArgs) : Prop where
  ns : NulFree args.ns
  set : NulFree args.set
  key : ∀ s, args.primaryKey = .string s → args.isDigest = false → NulFree s

theorem replyArray_inj {table table' : HashTable}
    (hreply : some (Reply.value (.array table)) = some (.value (.array table'))) :
    table = table' := by
  injection hreply with hvalue
  injection hvalue with harray
  injection harray

theorem initKey_readsBack_iff (hinit : engine.InitsByNames) {args : InitKeyArgs}
    {table : HashTable} {s : CallState} (hnamed : args.Named)
    (hreply : ((initKey (some args)).call s).reply =
      some (.value (.array table))) :
    ReadsBack engine table args.key ↔ NamesFit args.ns args.set := by
  have hrun : (initKey (some args)).run s = (initKeyArray
      (keyTable args.ns args.set []) args.primaryKey args.isDigest).run
        { s with clientError := .init } := rfl
  rw [call_of_run_eq hrun] at hreply
  unfold initKeyArray at hreply
  have hkey := hnamed.key
  cases hpk : args.primaryKey with
  | string pk =>
      cases hdigest : args.isDigest with
      | true =>
          by_cases hlength : pk.length = asDigestValueSize
          · simp only [hpk, hdigest, if_true, ne_eq, hlength, not_true,
              if_false] at hreply
            have htable : keyTable args.ns args.set
                [(.str "digest", .string pk)] = table :=
              replyArray_inj hreply
            have hval := @keyOf_digest engine args.ns args.set pk
            simp only [primaryKeyToAsKey, ne_eq, hlength, not_true,
              if_false] at hval
            rw [asKeyInit_val hinit hnamed.ns hnamed.set] at hval
            have hsame : SameRecord engine
                ⟨args.ns, args.set, .absent, some pk⟩ args.key := by
              simp [InitKeyArgs.key, hpk, hdigest, SameRecord]
            rw [← htable]
            by_cases hfit : NamesFit args.ns args.set
            · rw [if_pos hfit] at hval
              exact iff_of_true (readsBack_of_some hval hsame) hfit
            · rw [if_neg hfit] at hval
              exact iff_of_false (not_readsBack_of_none hval) hfit
          · simp only [hpk, hdigest, if_true, ne_eq, hlength,
              not_false_eq_true] at hreply
            simp [Method.call, run_bind, updateClientError] at hreply
      | false =>
          simp only [hpk, hdigest, Bool.false_eq_true, if_false] at hreply
          have htable : keyTable args.ns args.set
              [(.str "key", .string pk)] = table :=
            replyArray_inj hreply
          have hpkFree := (cString_eq_self_iff pk).mpr (hkey pk hpk hdigest)
          have hsame : SameRecord engine
              ⟨args.ns, args.set, .string pk, none⟩ args.key := by
            simp [InitKeyArgs.key, hpk, hdigest, SameRecord]
          rw [← htable]
          apply userKey_readsBack_iff hinit hnamed.ns hnamed.set _ hsame
          rw [primaryKeyToAsKey, hpkFree]
  | long n =>
      cases hdigest : args.isDigest with
      | true => simp [hpk, hdigest, Method.call] at hreply
      | false =>
          simp only [hpk, hdigest, Bool.false_eq_true, if_false] at hreply
          have htable : keyTable args.ns args.set [(.str "key", .long n)] =
              table :=
            replyArray_inj hreply
          have hsame : SameRecord engine
              ⟨args.ns, args.set, .integer n, none⟩ args.key := by
            simp [InitKeyArgs.key, hpk, SameRecord]
          rw [← htable]
          exact userKey_readsBack_iff hinit hnamed.ns hnamed.set rfl hsame
  | undef | null | bool _ | double _ | array _ | object _ _ | resource
  | reference _ => simp [hpk, Method.call, run_bind, updateClientError] at hreply

/-! ## Keys of requests -/

theorem digested_digested (key : AsKey) :
    engine.digested (engine.digested key) = engine.digested key := by
  unfold Engine.digested
  cases hkey : key.value <;> simp [hkey]

/-- Keys that went through `as_key_init`. -/
theorem asKeyInit_held (hinit : engine.InitsByNames) {ns set : String}
    {value : AsKeyValue} {digest : Option String} {key : AsKey}
    (hvalue : match value with
      | .string s => NulFree s
      | .bytes _ => False
      | _ => True)
    (hdigest : value = .absent → digest.isSome)
    (hkey : (asKeyInit engine.keyInit
      ⟨cString ns, cString set, value, digest⟩ .init).val = some key) :
    (engine.digested key).Held engine := by
  unfold asKeyInit at hkey
  split at hkey
  · next hinitialised =>
      obtain rfl := Option.some.inj hkey
      have hfit := (hinit _).mp hinitialised
      refine ⟨?_, ?_, ?_, ?_, ?_, ?_, digested_digested _⟩
      · simpa using nulFree_cString ns
      · cases value <;> exact nulFree_cString set
      · simpa using hfit.2.1
      · cases value <;> exact hfit.2.2
      · cases value <;> exact hvalue
      · cases value with
        | absent => exact hdigest rfl
        | integer n => rfl
        | string s => rfl
        | bytes b => rfl
  · cases hkey

theorem digested_held (hinit : engine.InitsByNames) {hash : HashTable}
    {key : AsKey} (hkey : keyOf engine.keyInit hash = some key) :
    (engine.digested key).Held engine := by
  unfold keyOf at hkey
  split at hkey
  · next ns set pk hentries =>
      cases pk with
      | digest digest =>
          by_cases hlength : digest.length = asDigestValueSize
          · simp only [primaryKeyToAsKey, ne_eq, hlength, not_true,
              if_false] at hkey
            exact asKeyInit_held hinit trivial (fun _ => rfl) hkey
          · simp [primaryKeyToAsKey, hlength, keyError] at hkey
      | userKey z =>
          cases z with
          | string s =>
              refine asKeyInit_held hinit ?_ ?_ hkey
              · exact nulFree_cString s
              · simp
          | long n => exact asKeyInit_held hinit trivial (by simp) hkey
          | undef | null | bool _ | double _ | array _ | object _ _ | resource
          | reference _ => cases hkey
  · cases hkey

@[simp] theorem digested_value (key : AsKey) :
    (engine.digested key).value = key.value := by
  unfold Engine.digested
  split <;> rfl

/-! ## What `get` returns -/

/-- An early exit that is not the return of OK. -/
def Exit.NotOk : Exit → CallState → Prop
  | .ret reply, _ => reply ≠ .long .ok
  | .cleanup, s => s.err.code ≠ .ok
  | .crash, _ => True

theorem Exit.NotOk.of_ok {exit : Exit} {s : CallState} (hexit : exit.NotOk s)
    (hok : exit = .ret (.long .ok)) {fact : Prop} : fact := by
  rw [hok] at hexit
  exact absurd rfl hexit

variable {client : Client} {oracle : Oracle} {policies : Policies}
variable {α : Type} {P : CallState → Prop} {Q : α → CallState → Prop}

/-- What is to be shown of a return of OK holds of an exit that is none. -/
theorem ends_notOk {body : Method α} {M : CallState → Prop}
    (hends : Ends P body Q Exit.NotOk) :
    Ends P body Q (fun exit s => exit = .ret (.long .ok) → M s) :=
  ends_weaken hends (fun _ h => h) (fun _ _ h => h) fun _ _ hexit hok =>
    hexit.of_ok hok

theorem ends_failReturn {code : AsStatus} {message : String}
    (hcode : code ≠ .ok) :
    Ends P (failReturn code message : Method α) Q Exit.NotOk := by
  intro s _
  show Reply.long code ≠ .long .ok
  intro hok
  exact hcode (Reply.long.inj hok)

theorem ends_failCleanup {code : AsStatus} {message : String}
    (hcode : code ≠ .ok) :
    Ends P (failCleanup code message : Method α) Q Exit.NotOk := by
  intro s _
  exact hcode

theorem ends_crash : Ends P (crash : Method α) Q Exit.NotOk := by
  intro s _
  trivial

theorem ends_orFail {value : Option α} {failure : Method α}
    {E : Exit → CallState → Prop}
    (hfailure : Ends P failure (fun v s => value = some v ∧ P s) E) :
    Ends P (orFail value failure) (fun v s => value = some v ∧ P s) E := by
  cases value with
  | some v => exact ends_pure fun s hs => ⟨rfl, hs⟩
  | none => exact hfailure

theorem ends_requirePolicy {R : Type} {field : PolicyField R}
    {converter : R → ConvertedPolicy R} {code : AsStatus} {message : String}
    (hcode : code ≠ .ok) :
    Ends (fun s => s.policies = policies)
      (requirePolicy field converter (failReturn code message))
      (fun policy _ => policy = (converter (field.get policies)).policy ∧ True)
      Exit.NotOk := by
  unfold requirePolicy
  have hload : Ends (fun s => s.policies = policies)
      (loadPolicy field converter)
      (fun converted _ => converted = converter (field.get policies))
      Exit.NotOk := by
    rintro s rfl
    rfl
  refine ends_bind hload fun converted => ?_
  have hcheck : Ends (fun _ => converted = converter (field.get policies))
      (runIf (converted.status ≠ .ok) (failReturn code message))
      (fun _ _ => converted = converter (field.get policies)) Exit.NotOk :=
    ends_ite (fun _ => ends_failReturn hcode) fun _ => ends_pure fun _ h => h
  refine ends_bind hcheck fun _ => ends_pure fun _ hconverted => ?_
  exact ⟨by rw [hconverted], trivial⟩

theorem ends_requireKey {zKey : HashTable} {code : AsStatus} {message : String}
    (hcode : code ≠ .ok) :
    Ends P (requireKey engine zKey (failReturn code message))
      (fun key _ => keyOf engine.keyInit zKey = some key ∧ True)
      Exit.NotOk := by
  intro s _
  unfold requireKey
  obtain ⟨s', hconvert⟩ : ∃ s',
      (convert (zHashtableToAsKey engine.keyInit zKey)).run s =
        (.ok (zHashtableToAsKey engine.keyInit zKey s.err), s') := ⟨_, rfl⟩
  rw [run_bind_ok hconvert]
  cases hkey : keyOf engine.keyInit zKey with
  | some key =>
      rw [zHashtableToAsKey_of_some s.err hkey]
      exact ⟨rfl, trivial⟩
  | none =>
      have hfails : Ends (fun _ => True) (failReturn code message : Method AsKey)
          (fun key _ => none = some key ∧ True) Exit.NotOk :=
        ends_failReturn hcode
      rw [if_pos (zHashtableToAsKey_of_none s.err hkey).1]
      exact hfails s' trivial

theorem ends_cleanupOnError :
    Ends P cleanupOnError (fun _ s => s.err.code = .ok) Exit.NotOk := by
  intro s _
  by_cases herr : s.err.code = .ok
  · rw [cleanupOnError_run_ok herr]
    exact herr
  · rw [cleanupOnError_run_error herr]
    exact herr

/-- The output holds the record of this key. -/
def HoldsRecord (rt : Runtime) (key : AsKey) (showPk : Bool) (s : CallState) :
    Prop :=
  ∃ record z, recordZval rt record key showPk = some z ∧ s.output = some z

theorem readWithFilter_ends (policy : PolicyRead) (key : AsKey)
    (filter : Option Zval) :
    Ends P (readWithFilter oracle policy key filter) (fun _ _ => True)
      Exit.NotOk := by
  have hissue : ∀ request, Ends P (issue oracle request) (fun _ _ => True)
      Exit.NotOk := fun _ _ _ => trivial
  unfold readWithFilter
  split
  · exact hissue _
  · next bins =>
      unfold asGetWithBins
      refine ends_ite (fun _ => ends_failCleanup (by decide)) fun _ => ?_
      split
      · exact ends_failCleanup (by decide)
      · exact hissue _
  · exact ends_failReturn (by decide)

theorem getBody_ends (policy : PolicyRead) (key : AsKey)
    (filter : Option Zval) :
    Ends P (getBody engine oracle policy key filter)
      (fun _ s => s.err.code = .ok → HoldsRecord engine.rt (engine.digested key)
        (policy.key = policyKeySend) s) Exit.NotOk := by
  unfold getBody
  refine ends_bind (readWithFilter_ends policy key filter) fun answer => ?_
  refine ends_bind ends_cleanupOnError fun _ => ?_
  refine ends_bind (ends_orFail ends_crash) fun record => ?_
  rintro s ⟨-, herr⟩
  have hdecodes := asRecordToZval_decodes engine.rt record (engine.digested key)
    (policy.key = policyKeySend) herr
  rw [run_bind_ok (writeOutput_run _ s)]
  intro hcode
  cases hz : recordZval engine.rt record (engine.digested key)
      (policy.key = policyKeySend) with
  | none =>
      rw [hz] at hdecodes
      exact absurd hcode hdecodes.2.1
  | some z =>
      rw [hz] at hdecodes
      have hconverted : asRecordToZval engine.rt record (engine.digested key)
          (policy.key = policyKeySend) s.err = ⟨.ok, some z, s.err⟩ := hdecodes
      refine ⟨record, z, hz, ?_⟩
      simp [hconverted]

theorem ends_withCleanup {body : Method Unit} {cleanup : Method α}
    {M : CallState → Prop} {E : Exit → CallState → Prop}
    (hbody : Ends P body (fun _ => M) Exit.NotOk)
    (hexit : ∀ exit s, exit ≠ .cleanup → exit.NotOk s → E exit s)
    (hcleanup : Ends (fun s => s.err.code = .ok → M s) cleanup Q E) :
    Ends P (withCleanup body cleanup) Q E := by
  intro s hs
  have hrun := hbody s hs
  unfold withCleanup
  rw [run_bind, run_catchExit]
  cases hends : body.run s with
  | mk result s' =>
      rw [hends] at hrun
      cases result with
      | ok value => exact hcleanup s' fun _ => hrun
      | error exit =>
          cases exit with
          | cleanup => exact hcleanup s' fun hok => absurd hok hrun
          | ret reply => exact hexit _ s' (by simp) hrun
          | crash => exact hexit _ s' (by simp) hrun

/-- What a method that returns OK has done, when it cannot reach its end otherwise. -/
theorem call_of_ends {method : Method Reply} {M : CallState → Prop}
    (hends : Ends P method (fun _ _ => False)
      (fun exit s => exit = .ret (.long .ok) → M s))
    {s : CallState} (hstart : P s) (hreply : (method.call s).reply = some (.long .ok)) :
    M (method.call s).state := by
  obtain ⟨exit, s', hrun, hdone⟩ := ends_false_run hends hstart
  unfold Method.call at hreply ⊢
  rw [hrun] at hreply ⊢
  cases exit with
  | ret reply =>
      obtain rfl := Option.some.inj hreply
      exact hdone rfl
  | cleanup => cases hreply
  | crash => cases hreply

/-- What a return of OK says about a call of `get`. -/
def GetReturns (engine : Engine) (policies : Policies) (args : GetArgs)
    (s : CallState) : Prop :=
  ∃ key, keyOf engine.keyInit args.key = some key ∧
    HoldsRecord engine.rt (engine.digested key)
      ((zvalToAsPolicyRead engine.init.read args.policy
        policies.read).policy.key = policyKeySend) s

theorem getCleanup_ends {M : CallState → Prop} :
    Ends (fun s => s.err.code = .ok → M s) getCleanup (fun _ _ => False)
      (fun exit s => exit = .ret (.long .ok) → s.err.code = .ok ∧ M s) := by
  intro s hs
  unfold getCleanup
  rw [run_bind_ok (run_get s)]
  by_cases hcode : s.err.code = .ok
  · rw [runIf_neg (by simpa using hcode)]
    intro _
    exact ⟨hcode, hs hcode⟩
  · rw [runIf_pos hcode]
    intro hok
    have hcode' : s.err.code = .ok := by
      injection hok with hreply
      exact Reply.long.inj hreply
    exact absurd hcode' hcode

theorem get_ends (args : GetArgs) :
    Ends (fun s => s.policies = policies) (get engine client oracle (some args))
      (fun _ _ => False)
      (fun exit s => exit = .ret (.long .ok) →
        GetReturns engine policies args s) := by
  have hsame : ∀ {β : Type} {body : Method β}, (∀ s, ∃ value s',
      body.run s = (.ok value, s') ∧ s'.policies = s.policies) →
      Ends (fun s => s.policies = policies) body
        (fun _ s => s.policies = policies) Exit.NotOk := by
    rintro β body hbody s rfl
    obtain ⟨value, s', hrun, hpolicies⟩ := hbody s
    rw [hrun]
    exact hpolicies
  have hcheck : ∀ s, ∃ value s',
      (checkObjectAndConnection client).run s = (.ok value, s') ∧
        s'.policies = s.policies := by
    intro s
    rcases @checkObjectAndConnection_run client s with
      ⟨-, hrun⟩ | ⟨-, code, message, -, hrun⟩
    · exact ⟨_, _, hrun, rfl⟩
    · exact ⟨_, _, hrun, rfl⟩
  have hreport : ∀ status : AsStatus, ∀ s, ∃ value s',
      (runIf (status ≠ .ok) reportErr).run s = (.ok value, s') ∧
        s'.policies = s.policies := by
    intro status s
    unfold runIf
    split <;> exact ⟨_, _, rfl, rfl⟩
  unfold get
  refine ends_bind (ends_notOk (hsame fun s => ⟨_, _, rfl, rfl⟩)) fun _ => ?_
  refine ends_bind (ends_notOk (hsame hcheck)) fun status => ?_
  refine ends_bind (ends_notOk (hsame (hreport status))) fun _ => ?_
  refine ends_bind (ends_notOk (ends_orFail (ends_failReturn (by decide))))
    fun args' => ends_given fun hargs => ?_
  obtain rfl := Option.some.inj hargs
  refine ends_bind (ends_notOk (hsame fun s => ⟨_, _, rfl, rfl⟩)) fun _ => ?_
  have hcrash : Ends (fun s => s.policies = policies)
      (runIf (client.hasClient = false) crash)
      (fun _ s => s.policies = policies) Exit.NotOk :=
    ends_ite (fun _ => ends_crash) fun _ => ends_pure fun _ h => h
  refine ends_bind (ends_notOk hcrash) fun _ => ?_
  refine ends_bind (ends_notOk (ends_requirePolicy (by decide)))
    fun policy => ends_given fun hpolicy => ?_
  refine ends_bind (ends_notOk (ends_requireKey (by decide)))
    fun key => ends_given fun hkey => ?_
  refine ends_withCleanup (getBody_ends policy key args.filter)
    (fun _ _ _ hexit hok => hexit.of_ok hok) ?_
  refine ends_weaken getCleanup_ends (fun _ h => h) (fun _ _ h => h) ?_
  intro exit s hholds hok
  obtain ⟨hcode, hrecord⟩ := hholds hok
  have hrecord := hrecord hcode
  rw [hpolicy] at hrecord
  exact ⟨key, hkey, hrecord⟩

theorem get_returns {args : GetArgs} {clientError : AsError}
    (hreply : ((get engine client oracle (some args)).call
      (.start policies clientError)).reply = some (.long .ok)) :
    GetReturns engine policies args ((get engine client oracle
      (some args)).call (.start policies clientError)).state := by
  have hends := @get_ends engine client oracle policies args
  exact call_of_ends hends rfl hreply

/-! ## What the batch reads return -/

theorem recordZval_keyEntry {rt : Runtime} {record : AsRecord} {key : AsKey}
    {showPk : Bool} {z : Zval} {table : HashTable}
    (hrecord : recordZval rt record key showPk = some z)
    (hentry : KeyEntry z table) : keyZval key showPk = some (.array table) := by
  unfold recordZval at hrecord
  cases hbins : decodeBins rt record.bins [] with
  | none => simp [hbins] at hrecord
  | some bins =>
      simp only [hbins] at hrecord
      obtain ⟨zKey, hkey, rfl⟩ := Option.map_eq_some_iff.mp hrecord
      obtain ⟨entries, hentries, hfind⟩ := hentry
      obtain rfl := Zval.array.inj hentries
      rw [hkey]
      exact hfind

theorem getManyRecord_keyEntry {rt : Runtime} {entry : AsKey × BatchResult}
    {z : Zval} {table : HashTable} (hrecord : getManyRecord rt entry = some z)
    (hentry : KeyEntry z table) :
    keyZval entry.1 true = some (.array table) := by
  unfold getManyRecord at hrecord
  by_cases hmissing : entry.2.result = .errRecordNotFound
  · rw [if_pos hmissing] at hrecord
    obtain ⟨zKey, hkey, rfl⟩ := Option.map_eq_some_iff.mp hrecord
    obtain ⟨entries, hentries, hfind⟩ := hentry
    obtain rfl := Zval.array.inj hentries
    rw [hkey]
    exact hfind
  · rw [if_neg hmissing] at hrecord
    exact recordZval_keyEntry hrecord hentry

theorem existsManyRecord_keyEntry {entry : AsKey × BatchResult} {z : Zval}
    {table : HashTable} (hrecord : existsManyRecord entry = some z)
    (hentry : KeyEntry z table) :
    keyZval entry.1 true = some (.array table) := by
  obtain ⟨zKey, hkey, hform⟩ := existsManyEntry_of_record hrecord
  obtain ⟨entries, hentries, hfind⟩ := hentry
  rw [hkey]
  rcases hform with ⟨-, rfl⟩ | ⟨-, rfl⟩
  · obtain rfl := Zval.array.inj hentries
    exact hfind
  · obtain rfl := Zval.array.inj hentries
    exact hfind

/-- The `i`th entry that a batch read returns, with the key it was read for. -/
def BatchEntry (engine : Engine) (zKeys : HashTable) (outcome : Outcome)
    (table : HashTable) (key : AsKey) : Prop :=
  ∃ (keys : List AsKey) (records : HashTable) (i : ℕ) (hi : i < keys.length)
    (z : Zval),
    outcome.reply = some (.long .ok) ∧
    Forall₂ (ConvertsTo engine.keyInit) (HashTable.values zKeys) keys ∧
    outcome.state.output = some (.array records) ∧
    (HashTable.values records)[i]? = some z ∧ KeyEntry z table ∧
    key = engine.digested keys[i]

theorem batchEntry_keyZval {zKeys table : HashTable} {outcome : Outcome}
    {key : AsKey} {answer : Answer}
    {records : AsKey × BatchResult → Option Zval} {lost : Option Zval → Prop}
    (hrecords : ∀ entry z, records entry = some z → KeyEntry z table →
      keyZval entry.1 true = some (.array table))
    (houtcome : BatchOutcome engine answer records lost outcome
      (keysEnd engine.keyInit (HashTable.values zKeys)))
    (hentry : BatchEntry engine zKeys outcome table key) :
    (∃ hash key', keyOf engine.keyInit hash = some key' ∧
      key = engine.digested key') ∧ keyZval key true = some (.array table) := by
  obtain ⟨keys, entries, i, hi, z, hreply, hkeys, houtput, hz, htable, rfl⟩ :=
    hentry
  rw [keysEnd_of_forall₂ hkeys] at houtcome
  unfold BatchOutcome at houtcome
  by_cases hcode : answer.err.code = .ok
  · simp only [hcode, if_true] at houtcome
    cases hzs : (keyResults engine keys answer).mapM records with
    | none =>
        rw [hzs] at houtcome
        exact absurd hreply (failsBlank_reply houtcome)
    | some zs =>
        rw [hzs] at houtcome
        have hreturned : outcome.state.output =
            some (.array (HashTable.ofValues zs)) := houtcome.2
        rw [houtput] at hreturned
        obtain rfl := Zval.array.inj (Option.some.inj hreturned)
        have hvalues : HashTable.values (HashTable.ofValues zs) = zs :=
          values_mapIdx zs _
        rw [hvalues] at hz
        obtain ⟨hi', rfl⟩ := List.getElem?_eq_some_iff.mp hz
        have hlength : i < (keyResults engine keys answer).length := by
          simpa [keyResults] using hi
        have hrecord := (mapM_eq_some_iff.mp hzs).get hlength hi'
        have hzKey : i < (HashTable.values zKeys).length := by
          rw [hkeys.length_eq]
          exact hi
        obtain ⟨hash, -, hkey⟩ := hkeys.get hzKey hi
        refine ⟨⟨hash, keys[i], hkey, rfl⟩, ?_⟩
        have hzval := hrecords _ _ hrecord htable
        simpa [keyResults] using hzval
  · simp only [hcode, if_false] at houtcome
    exact absurd hreply (failsBlank_reply houtcome)

theorem batchEntry_readsBack_iff (hinit : engine.InitsByNames)
    {zKeys table : HashTable} {outcome : Outcome} {key : AsKey}
    {answer : Answer} {records : AsKey × BatchResult → Option Zval}
    {lost : Option Zval → Prop}
    (hrecords : ∀ entry z, records entry = some z → KeyEntry z table →
      keyZval entry.1 true = some (.array table))
    (houtcome : BatchOutcome engine answer records lost outcome
      (keysEnd engine.keyInit (HashTable.values zKeys)))
    (hentry : BatchEntry engine zKeys outcome table key) :
    ReadsBack engine table key ↔ key.value ≠ .absent := by
  obtain ⟨⟨hash, key', hkey, rfl⟩, htable⟩ :=
    batchEntry_keyZval hrecords houtcome hentry
  rw [keyZval_readsBack_iff hinit (digested_held hinit hkey) htable]
  simp

theorem not_batchEntry_of_fails {zKeys table : HashTable} {outcome : Outcome}
    {key : AsKey} (hfails : outcome.FailsBlank) :
    ¬ BatchEntry engine zKeys outcome table key := by
  rintro ⟨keys, records, i, hi, z, hreply, -⟩
  exact failsBlank_reply hfails hreply

theorem getMany_readsBack_iff (hinit : engine.InitsByNames) {answer : Answer}
    {clientError : AsError} {args : GetManyArgs} {table : HashTable}
    {key : AsKey} (hanswer : ∀ n request, oracle.answer n request = answer)
    (hentry : BatchEntry engine args.keys
      ((getMany engine client oracle (some args)).call
        (.start policies clientError)) table key) :
    ReadsBack engine table key ↔ key.value ≠ .absent := by
  by_cases hpasses : BatchReadPasses engine client policies args.policy
  · have hpassed := @getMany_passed engine client oracle policies args answer
      clientError hanswer hpasses
    cases hfilter : batchBinNames args.filter with
    | error message =>
        simp only [hfilter] at hpassed
        exact absurd hentry (not_batchEntry_of_fails hpassed)
    | ok bins =>
        simp only [hfilter] at hpassed
        exact batchEntry_readsBack_iff hinit
          (fun _ _ => getManyRecord_keyEntry) hpassed hentry
  · have hrefused := @getMany_refused engine client oracle policies args
      clientError hpasses
    exact absurd hentry (not_batchEntry_of_fails hrefused)

theorem existsMany_readsBack_iff (hinit : engine.InitsByNames)
    {answer : Answer} {clientError : AsError} {args : ExistsManyArgs}
    {table : HashTable} {key : AsKey}
    (hanswer : ∀ n request, oracle.answer n request = answer)
    (hdelivers : answer.err.code = .ok → answer.delivers = true)
    (hentry : BatchEntry engine args.keys
      ((existsMany engine client oracle (some args)).call
        (.start policies clientError)) table key) :
    ReadsBack engine table key ↔ key.value ≠ .absent := by
  by_cases hpasses : BatchReadPasses engine client policies args.policy
  · have hpassed := @existsMany_passed engine client oracle policies args answer
      clientError hanswer hdelivers hpasses
    exact batchEntry_readsBack_iff hinit
      (fun _ _ => existsManyRecord_keyEntry) hpassed hentry
  · have hrefused := @existsMany_refused engine client oracle policies args
      clientError hpasses
    exact absurd hentry (not_batchEntry_of_fails hrefused)

end

/-! ## Every source of key arrays -/

/-- Where a program gets key arrays from. -/
inductive KeySource where
  | asKeyToZval (key : AsKey) (showPk : Bool)
  | initKey (args : InitKeyArgs)
  | get (args : GetArgs)
  | getMany (args : GetManyArgs)
  | existsMany (args : ExistsManyArgs)
  | callback (record : AsRecord) (key : AsKey)

section

variable (engine : Engine) (client : Client) (oracle : Oracle)
variable (policies : Policies) (clientError : AsError)

/-- The source gives the array for a key. -/
def KeySource.Gives (table : HashTable) (key : AsKey) : KeySource → Prop
  | .asKeyToZval key' showPk =>
      key = key' ∧ key.Held engine ∧ ∃ err,
        AerospikePhp.asKeyToZval key showPk err = ⟨.ok, some (.array table), err⟩
  | .initKey args =>
      key = args.key ∧ args.Named ∧
        ((AerospikePhp.initKey (some args)).call
          (.start policies clientError)).reply = some (.value (.array table))
  | .get args =>
      let outcome := (AerospikePhp.get engine client oracle (some args)).call
        (.start policies clientError)
      outcome.reply = some (.long .ok) ∧
      (∃ z, outcome.state.output = some z ∧ KeyEntry z table) ∧
      ∃ key', keyOf engine.keyInit args.key = some key' ∧
        key = engine.digested key'
  | .getMany args =>
      BatchEntry engine args.keys
        ((AerospikePhp.getMany engine client oracle (some args)).call
          (.start policies clientError)) table key
  | .existsMany args =>
      BatchEntry engine args.keys
        ((AerospikePhp.existsMany engine client oracle (some args)).call
          (.start policies clientError)) table key
  | .callback record key' =>
      key = key' ∧ key.Held engine ∧ ∃ z,
        executeUserCallback engine.rt record key .init = ⟨.ok, some z, .init⟩ ∧
        KeyEntry z table

/-- The names fit, or the primary key is there and shown. -/
def KeySource.Shows (key : AsKey) : KeySource → Prop
  | .asKeyToZval _ showPk => showPk = true ∧ key.value ≠ .absent
  | .initKey args => NamesFit args.ns args.set
  | .get args =>
      (zvalToAsPolicyRead engine.init.read args.policy
        policies.read).policy.key = policyKeySend ∧ key.value ≠ .absent
  | .getMany _ | .existsMany _ | .callback _ _ => key.value ≠ .absent

end

/-- A key array reads back exactly when the primary key is there and shown, and
one of `initKey` when its names fit. -/
theorem keys_readBack_iff (engine : Engine) (client : Client) (oracle : Oracle)
    (policies : Policies) (clientError : AsError) (answer : Answer)
    (hinit : engine.InitsByNames)
    (hanswer : ∀ n request, oracle.answer n request = answer)
    (hdelivers : answer.err.code = .ok → answer.delivers = true)
    (source : KeySource) (table : HashTable) (key : AsKey)
    (hgives : source.Gives engine client oracle policies clientError table key) :
    ReadsBack engine table key ↔ source.Shows engine policies key := by
  cases source with
  | asKeyToZval key' showPk =>
      obtain ⟨rfl, hheld, err, hconverted⟩ := hgives
      have hdecodes := asKeyToZval_decodes key showPk err
      cases hz : keyZval key showPk with
      | none =>
          rw [hz, hconverted] at hdecodes
          exact absurd rfl hdecodes.1
      | some z =>
          rw [hz, hconverted] at hdecodes
          have hsame : some (Zval.array table) = some z :=
            congrArg Converted.val hdecodes
          rw [← hsame] at hz
          exact keyZval_readsBack_iff hinit hheld hz
  | initKey args =>
      obtain ⟨rfl, hnamed, hreply⟩ := hgives
      exact initKey_readsBack_iff hinit hnamed hreply
  | get args =>
      obtain ⟨hreply, ⟨z, houtput, hentry⟩, key', hkey, rfl⟩ := hgives
      obtain ⟨key'', hkey', record, z', hrecord, houtput'⟩ := get_returns hreply
      rw [hkey] at hkey'
      obtain rfl := Option.some.inj hkey'
      rw [houtput] at houtput'
      obtain rfl := Option.some.inj houtput'
      have hheld := digested_held hinit hkey
      have htable := recordZval_keyEntry hrecord hentry
      rw [keyZval_readsBack_iff hinit hheld htable]
      simp [KeySource.Shows]
  | getMany args => exact getMany_readsBack_iff hinit hanswer hgives
  | existsMany args => exact existsMany_readsBack_iff hinit hanswer hdelivers hgives
  | callback record key' =>
      obtain ⟨rfl, hheld, z, hconverted, hentry⟩ := hgives
      have hdecodes := asRecordToZval_decodes engine.rt record key true
        (rfl : AsError.init.code = .ok)
      unfold executeUserCallback at hconverted
      cases hz : recordZval engine.rt record key true with
      | none =>
          rw [hz, hconverted] at hdecodes
          exact absurd rfl hdecodes.1
      | some z' =>
          rw [hz, hconverted] at hdecodes
          have hsame : some z = some z' := congrArg Converted.val hdecodes
          rw [← hsame] at hz
          have htable := recordZval_keyEntry hz hentry
          rw [keyZval_readsBack_iff hinit hheld htable]
          simp [KeySource.Shows]

/-- An engine that initialises keys as the client does. -/
def Engine.naming : Engine :=
  { Engine.plain with keyInit := fun key => decide (NamesFit key.ns key.set) }

theorem naming_initsByNames : Engine.naming.InitsByNames := by
  intro key
  exact decide_eq_true_iff

/-- The answers of a cluster that holds a record without bins. -/
def Oracle.holding : Oracle :=
  { Oracle.accepting with
    answer := fun _ _ => { err := .init, record := some ⟨0, 0, []⟩ } }

def keyOne : AsKey := ⟨"test", "demo", .integer 1, some "00000000000000000000"⟩

def keyOneTable (z : Zval) : HashTable :=
  [(.str "ns", .string "test"), (.str "set", .string "demo"), (.str "key", z),
    (.str "digest", .string "00000000000000000000")]

def getOne : GetArgs where
  key := [(.str "ns", .string "test"), (.str "set", .string "demo"),
    (.str "key", .long 1)]
  filter := none
  policy := none

theorem keyOne_held : keyOne.Held Engine.naming where
  ns := by decide
  set := by decide
  nsFits := by decide
  setFits := by decide
  value := trivial
  digest := rfl
  digested := rfl

theorem keys_readBack_iff_keyOne :
    ReadsBack Engine.naming (keyOneTable (.long 1)) keyOne ↔
      (KeySource.asKeyToZval keyOne true).Shows Engine.naming default keyOne :=
  keys_readBack_iff Engine.naming .connected .holding default .init
    (Oracle.holding.answer 0 (.batchRead none [])) naming_initsByNames
    (fun _ _ => rfl) (fun _ => rfl) (.asKeyToZval keyOne true) _ keyOne
    ⟨rfl, keyOne_held, .init, rfl⟩

/-- A record that is read with the default policy comes with a key that cannot
be used. -/
theorem getOne_not_readsBack :
    ¬ ∀ table key, (KeySource.get getOne).Gives Engine.naming .connected .holding
      default .init table key → ReadsBack Engine.naming table key := by
  intro hall
  have hreads := hall (keyOneTable .null) keyOne
    ⟨rfl, ⟨_, rfl, _, rfl, rfl⟩, ⟨"test", "demo", .integer 1, none⟩, rfl, rfl⟩
  have hnone : keyOf Engine.naming.keyInit (keyOneTable .null) = none := rfl
  exact not_readsBack_of_none hnone hreads

end AerospikePhp
