import AerospikePhp.CallOptions
import Mathlib.Tactic

/-!
# Integers among the options

The timeouts, the retries, the sleep between retries and the limit of records
per second that an options array gives, and the fields that the policy
converters make of them.  An integer of PHP has 64 bits and each of these fields
32.
-/

namespace AerospikePhp

inductive PolicyInteger where
  | totalTimeout | socketTimeout | maxRetries | sleepBetweenRetries
  | recordsPerSecond
  deriving DecidableEq, Repr

/-! ## The fields -/

def PolicyBase.integer (base : PolicyBase) : PolicyInteger → Option ℕ
  | .totalTimeout => some base.totalTimeout
  | .socketTimeout => some base.socketTimeout
  | .maxRetries => some base.maxRetries
  | .sleepBetweenRetries => some base.sleepBetweenRetries
  | .recordsPerSecond => none

def PolicyScan.integer (policy : PolicyScan) : PolicyInteger → Option ℕ
  | .recordsPerSecond => some policy.recordsPerSecond
  | field => policy.base.integer field

/-- Info and admin policies have nothing but a timeout. -/
def PolicyInfo.integer (policy : PolicyInfo) : PolicyInteger → Option ℕ
  | .totalTimeout => some policy.timeout
  | _ => none

/-! ## The options -/

/-- The key of a field in the options of every family. -/
def PolicyInteger.key : PolicyInteger → ZKey
  | .totalTimeout => .idx optTotalTimeout
  | .socketTimeout => .idx optSocketTimeout
  | .maxRetries => .idx optMaxRetries
  | .sleepBetweenRetries => .str "sleep_between_retries"
  | .recordsPerSecond => .idx optScanRpsLimit

/-- What the converters read into the timeout of a policy. -/
inductive OptionsKind where
  | read | write | scan | info | admin
  deriving DecidableEq, Repr

namespace OptionsKind

/-- The keys for the timeout before `OPT_TOTAL_TIMEOUT` was there, the one that
counts first. -/
def timeouts : OptionsKind → List ZKey
  | .read => [.idx optReadTimeout]
  | .write => [.idx optWriteTimeout]
  | .scan | .info => [.idx optReadTimeout, .idx optWriteTimeout]
  | .admin => [.idx optWriteTimeout]

/-- The keys for a field, the one that counts first. -/
def keys (kind : OptionsKind) (field : PolicyInteger) : List ZKey :=
  match kind, field with
  | .info, .totalTimeout | .admin, .totalTimeout => kind.timeouts
  | .info, _ | .admin, _ => []
  | _, .totalTimeout => field.key :: kind.timeouts
  | .read, .recordsPerSecond | .write, .recordsPerSecond => []
  | _, _ => [field.key]

end OptionsKind

theorem longOf_eq_some {entry : Option Zval} {n : Int64} :
    longOf entry = some n ↔ entry = some (.long n) := by
  constructor
  · intro hlong
    unfold longOf at hlong
    split at hlong
    · rw [Option.some.inj hlong]
    · cases hlong
  · rintro rfl
    rfl

def firstLong (hash : HashTable) : List ZKey → Option Int64
  | [] => none
  | key :: keys => longOf (HashTable.find hash key) <|> firstLong hash keys

/-- The integer that the options give for a field. -/
def givenInteger (kind : OptionsKind) (zPolicy : Option Zval)
    (field : PolicyInteger) : Option Int64 :=
  match zPolicy with
  | some (.array hash) => firstLong hash (kind.keys field)
  | _ => none

/-- Each integer that is given is there, cut to 32 bits. -/
def Carries (kind : OptionsKind) (zPolicy : Option Zval)
    (integer : PolicyInteger → Option ℕ) : Prop :=
  ∀ field n, givenInteger kind zPolicy field = some n →
    integer field = some (toUint32 n)

/-! ## The converters -/

section

variable {hash : HashTable}

/-- An entry that counts, or else what was there before. -/
theorem entryOr_of_first {first rest : Option Int64} {target : ℕ} {n : Int64}
    (hgiven : (first <|> rest) = some n)
    (hrest : rest = some n → target = toUint32 n) :
    entryOr first target = toUint32 n := by
  cases first with
  | none => exact hrest hgiven
  | some m =>
      obtain rfl : m = n := Option.some.inj hgiven
      rfl

theorem setUint32FromHashIndex_of_first {index : Int64} {keys : List ZKey}
    {target : ℕ} {n : Int64} (hgiven : firstLong hash (.idx index :: keys) = some n)
    (hrest : firstLong hash keys = some n → target = toUint32 n) :
    setUint32FromHashIndex hash index target = toUint32 n := by
  rw [setUint32FromHashIndex_eq]
  exact entryOr_of_first hgiven hrest

theorem setUint32FromHashKey_of_first {key : String} {target : ℕ} {n : Int64}
    (hgiven : firstLong hash [.str key] = some n) :
    setUint32FromHashKey hash key target = toUint32 n := by
  rw [setUint32FromHashKey_eq]
  exact entryOr_of_first hgiven fun hnone => by cases hnone

theorem firstLong_nil {target : ℕ} {n : Int64}
    (hgiven : firstLong hash [] = some n) : target = toUint32 n := by
  cases hgiven

/-- Kinds of options under which there is a base policy. -/
def OptionsKind.HasBase (kind : OptionsKind) : Prop :=
  kind = .read ∨ kind = .write ∨ kind = .scan

theorem setBasePolicyFromHash_carries {kind : OptionsKind} {base : PolicyBase}
    {field : PolicyInteger} {n : Int64} (hkind : kind.HasBase)
    (hfield : field ≠ .recordsPerSecond)
    (htimeout : ∀ m, firstLong hash kind.timeouts = some m →
      base.totalTimeout = toUint32 m)
    (hgiven : firstLong hash (kind.keys field) = some n) :
    (setBasePolicyFromHash hash base).integer field = some (toUint32 n) := by
  cases field with
  | totalTimeout =>
      have hkeys : kind.keys .totalTimeout =
          .idx optTotalTimeout :: kind.timeouts := by
        rcases hkind with rfl | rfl | rfl <;> rfl
      rw [hkeys] at hgiven
      exact congrArg some (setUint32FromHashIndex_of_first hgiven (htimeout n))
  | socketTimeout =>
      have hkeys : kind.keys .socketTimeout = [.idx optSocketTimeout] := by
        rcases hkind with rfl | rfl | rfl <;> rfl
      rw [hkeys] at hgiven
      exact congrArg some (setUint32FromHashIndex_of_first hgiven firstLong_nil)
  | maxRetries =>
      have hkeys : kind.keys .maxRetries = [.idx optMaxRetries] := by
        rcases hkind with rfl | rfl | rfl <;> rfl
      rw [hkeys] at hgiven
      exact congrArg some (setUint32FromHashIndex_of_first hgiven firstLong_nil)
  | sleepBetweenRetries =>
      have hkeys : kind.keys .sleepBetweenRetries =
          [.str "sleep_between_retries"] := by
        rcases hkind with rfl | rfl | rfl <;> rfl
      rw [hkeys] at hgiven
      exact congrArg some (setUint32FromHashKey_of_first hgiven)
  | recordsPerSecond => exact absurd rfl hfield

/-- A base policy is read last, after the timeout of the kind. -/
theorem carries_of_base {kind : OptionsKind} {zPolicy : Option Zval}
    {integer : PolicyInteger → Option ℕ} (hkind : kind.HasBase)
    (hread : ∀ hash, zPolicy = some (.array hash) →
      ∃ base : PolicyBase,
        (∀ m, firstLong hash kind.timeouts = some m →
          base.totalTimeout = toUint32 m) ∧
        ∀ field, field ≠ .recordsPerSecond →
          integer field = (setBasePolicyFromHash hash base).integer field)
    (hlimit : ∀ n, givenInteger kind zPolicy .recordsPerSecond = some n →
      integer .recordsPerSecond = some (toUint32 n)) :
    Carries kind zPolicy integer := by
  intro field n hgiven
  by_cases hfield : field = .recordsPerSecond
  · subst hfield
    exact hlimit n hgiven
  · unfold givenInteger at hgiven
    split at hgiven
    · next hash =>
        obtain ⟨base, htimeout, hinteger⟩ := hread hash rfl
        rw [hinteger field hfield]
        exact setBasePolicyFromHash_carries hkind hfield htimeout hgiven
    · cases hgiven

theorem no_limit {kind : OptionsKind} {zPolicy : Option Zval} {n : Int64}
    {integer : Option ℕ} (hkind : kind ≠ .scan)
    (hgiven : givenInteger kind zPolicy .recordsPerSecond = some n) :
    integer = some (toUint32 n) := by
  unfold givenInteger at hgiven
  split at hgiven
  · cases kind with
    | scan => exact absurd rfl hkind
    | read | write | info | admin => cases hgiven
  · cases hgiven

theorem checkedUint32_of_first {index : Int64} {target value : ℕ}
    (hchecked : checkedUint32FromHashIndex hash index target = some value)
    {keys : List ZKey} {n : Int64}
    (hgiven : firstLong hash (.idx index :: keys) = some n)
    (hrest : firstLong hash keys = some n → target = toUint32 n) :
    value = toUint32 n := by
  have hfind : HashTable.indexFind hash index = HashTable.find hash (.idx index) :=
    rfl
  unfold checkedUint32FromHashIndex at hchecked
  rw [hfind] at hchecked
  rw [firstLong] at hgiven
  cases hentry : HashTable.find hash (.idx index) with
  | none =>
      rw [hentry] at hchecked hgiven
      obtain rfl := Option.some.inj hchecked
      exact hrest hgiven
  | some z =>
      rw [hentry] at hchecked hgiven
      cases z with
      | long m =>
          obtain rfl := Option.some.inj hchecked
          obtain rfl : m = n := Option.some.inj hgiven
          rfl
      | undef | null | bool _ | double _ | string _ | array _ | object _ _
      | resource | reference _ => cases hchecked

end

section

variable {zPolicy : Option Zval} {rt : Runtime}

theorem zvalToAsPolicyRead_carries {init policy : PolicyRead} :
    Carries .read zPolicy
      (zvalToAsPolicyRead init zPolicy policy).policy.base.integer := by
  refine carries_of_base (.inl rfl) ?_ fun n => no_limit (by decide)
  rintro hash rfl
  exact ⟨_, fun m hgiven => setUint32FromHashIndex_of_first hgiven firstLong_nil,
    fun _ _ => rfl⟩

theorem zvalToAsPolicyWrite_carries {init policy : PolicyWrite} :
    Carries .write zPolicy
      (zvalToAsPolicyWrite init zPolicy policy).policy.base.integer := by
  refine carries_of_base (.inr (.inl rfl)) ?_ fun n => no_limit (by decide)
  rintro hash rfl
  exact ⟨_, fun m hgiven => setUint32FromHashIndex_of_first hgiven firstLong_nil,
    fun _ _ => rfl⟩

theorem zvalToAsPolicyOperate_carries {init policy : PolicyOperate} :
    Carries .write zPolicy
      (zvalToAsPolicyOperate rt init zPolicy policy).policy.base.integer := by
  refine carries_of_base (.inr (.inl rfl)) ?_ fun n => no_limit (by decide)
  rintro hash rfl
  exact ⟨_, fun m hgiven => setUint32FromHashIndex_of_first hgiven firstLong_nil,
    fun _ _ => rfl⟩

theorem zvalToAsPolicyApply_carries {init policy : PolicyApply} :
    Carries .write zPolicy
      (zvalToAsPolicyApply init zPolicy policy).policy.base.integer := by
  refine carries_of_base (.inr (.inl rfl)) ?_ fun n => no_limit (by decide)
  rintro hash rfl
  exact ⟨_, fun m hgiven => setUint32FromHashIndex_of_first hgiven firstLong_nil,
    fun _ _ => rfl⟩

theorem zvalToAsPolicyRemove_carries {init policy : PolicyRemove}
    {converted : ConvertedPolicy PolicyRemove}
    (hconverted : zvalToAsPolicyRemove rt init zPolicy policy = some converted)
    (hok : converted.status = .ok) :
    Carries .write zPolicy converted.policy.base.integer := by
  refine carries_of_base (.inr (.inl rfl)) ?_ fun n => no_limit (by decide)
  rintro hash rfl
  simp only [zvalToAsPolicyRemove] at hconverted
  let timeout :=
    setUint32FromHashIndex hash optWriteTimeout policy.base.totalTimeout
  refine ⟨{ policy.base with totalTimeout := timeout },
    fun m hgiven => setUint32FromHashIndex_of_first hgiven firstLong_nil, ?_⟩
  intro field _
  cases hgen : removeGenFromHash rt hash with
  | crash => simp [hgen] at hconverted
  | refused gen =>
      rw [hgen] at hconverted
      rw [← Option.some.inj hconverted] at hok
      cases hok
  | set gen generation =>
      rw [hgen] at hconverted
      rw [← Option.some.inj hconverted]
      rfl
  | unchanged =>
      rw [hgen] at hconverted
      rw [← Option.some.inj hconverted]
      rfl

theorem zvalToAsPolicyQuery_carries {init policy : PolicyQuery}
    (hok : (zvalToAsPolicyQuery init zPolicy policy).status = .ok) :
    Carries .read zPolicy
      (zvalToAsPolicyQuery init zPolicy policy).policy.base.integer := by
  refine carries_of_base (.inl rfl) ?_ fun n => no_limit (by decide)
  rintro hash rfl
  simp only [zvalToAsPolicyQuery, policyFromZval] at hok ⊢
  split at hok
  · cases hok
  · next timeout htimeout =>
      exact ⟨_, fun m hgiven => checkedUint32_of_first htimeout hgiven firstLong_nil,
        fun _ _ => rfl⟩

theorem zvalToAsPolicyBatch_carries {init policy : PolicyBatch}
    (hok : (zvalToAsPolicyBatch init zPolicy policy).status = .ok) :
    Carries .read zPolicy
      (zvalToAsPolicyBatch init zPolicy policy).policy.base.integer := by
  refine carries_of_base (.inl rfl) ?_ fun n => no_limit (by decide)
  rintro hash rfl
  simp only [zvalToAsPolicyBatch, policyFromZval] at hok ⊢
  split at hok
  · cases hok
  · next timeout htimeout =>
      exact ⟨_, fun m hgiven => checkedUint32_of_first htimeout hgiven firstLong_nil,
        fun _ _ => rfl⟩

/-- The read timeout counts, and is refused when it is no integer. -/
theorem scanTimeout_of_first {hash : HashTable} {target timeout : ℕ}
    (hread : scanTimeoutFromHash hash target = some timeout) {n : Int64}
    (hgiven : firstLong hash OptionsKind.scan.timeouts = some n) :
    timeout = toUint32 n := by
  unfold scanTimeoutFromHash at hread
  split at hread
  · next z hentry =>
      have hfind : HashTable.find hash (.idx optReadTimeout) = some z := hentry
      unfold checkedUint32FromHashIndex at hread
      rw [hentry] at hread
      rw [OptionsKind.timeouts, firstLong, hfind] at hgiven
      cases z with
      | long m =>
          obtain rfl := Option.some.inj hread
          obtain rfl : m = n := Option.some.inj hgiven
          rfl
      | undef | null | bool _ | double _ | string _ | array _ | object _ _
      | resource | reference _ => cases hread
  · next hentry =>
      have hfind : HashTable.find hash (.idx optReadTimeout) = none := hentry
      rw [OptionsKind.timeouts, firstLong, hfind] at hgiven
      exact checkedUint32_of_first hread hgiven firstLong_nil

theorem zvalToAsPolicyScan_carries {init policy : PolicyScan}
    (hok : (zvalToAsPolicyScan init zPolicy policy).status = .ok) :
    Carries .scan zPolicy
      (zvalToAsPolicyScan init zPolicy policy).policy.integer := by
  cases zPolicy with
  | none => exact fun field n hgiven => by cases hgiven
  | some z =>
      cases z with
      | array hash =>
          simp only [zvalToAsPolicyScan, policyFromZval] at hok ⊢
          split at hok
          · cases hok
          · next timeout htimeout =>
              split at hok
              · cases hok
              · next limit hlimit =>
                  refine carries_of_base (.inr (.inr rfl)) ?_ ?_
                  · rintro hash' hsame
                    obtain rfl := Zval.array.inj (Option.some.inj hsame)
                    refine ⟨{ policy.base with totalTimeout := timeout },
                      fun m => scanTimeout_of_first htimeout, ?_⟩
                    intro field hfield
                    cases field with
                    | recordsPerSecond => exact absurd rfl hfield
                    | totalTimeout | socketTimeout | maxRetries
                    | sleepBetweenRetries => rfl
                  · intro n hgiven
                    exact congrArg some
                      (setUint32FromHashIndex_of_first hgiven firstLong_nil)
      | undef | null | bool _ | long _ | double _ | string _ | object _ _
      | resource | reference _ => exact fun field n hgiven => by cases hgiven

/-- A read timeout overrides a write timeout. -/
theorem zvalToAsPolicyInfo_carries {init policy : PolicyInfo} :
    Carries .info zPolicy
      (zvalToAsPolicyInfo init zPolicy policy).policy.integer := by
  intro field n hgiven
  unfold givenInteger at hgiven
  split at hgiven
  · next hash =>
      cases field with
      | totalTimeout =>
          refine congrArg some (setUint32FromHashIndex_of_first hgiven ?_)
          exact fun hwrite => setUint32FromHashIndex_of_first hwrite firstLong_nil
      | socketTimeout | maxRetries | sleepBetweenRetries | recordsPerSecond =>
          cases hgiven
  · cases hgiven

theorem zvalToAsPolicyAdmin_carries {init policy : PolicyInfo}
    (hok : (zvalToAsPolicyAdmin init zPolicy policy).status = .ok) :
    Carries .admin zPolicy
      (zvalToAsPolicyAdmin init zPolicy policy).policy.integer := by
  intro field n hgiven
  unfold givenInteger at hgiven
  split at hgiven
  · next hash =>
      cases field with
      | totalTimeout =>
          simp only [zvalToAsPolicyAdmin, policyFromZval] at hok ⊢
          split at hok
          · cases hok
          · next timeout htimeout =>
              exact congrArg some
                (checkedUint32_of_first htimeout hgiven firstLong_nil)
      | socketTimeout | maxRetries | sleepBetweenRetries | recordsPerSecond =>
          cases hgiven
  · cases hgiven

end

end AerospikePhp
