import AerospikePhp.ConfigLayers
import AerospikePhp.Method
import AerospikePhp.PolicyConversions
import Mathlib.Tactic

/-!
# Default policies and options of a call

The documented options of a policy family may be given to the constructor, as
the default policy of the family, or to a call.  For seven families this comes
to the same policy.  The operate converter starts every call from a fresh
policy, so there the two agree only where the options say nothing new.
-/

namespace AerospikePhp

/-! ## The documented options -/

def optFailOnClusterChange : Int64 := 30

inductive OptionType where
  | integer | boolean
  deriving DecidableEq

def OptionType.Holds : OptionType → Zval → Prop
  | .integer, z => ∃ n, z = .long n
  | .boolean, z => ∃ b, z = .bool b

/-- The options of every family. -/
def baseOptions : List (ZKey × OptionType) :=
  [(.idx optSocketTimeout, .integer), (.idx optTotalTimeout, .integer),
    (.str "sleep_between_retries", .integer), (.idx optMaxRetries, .integer)]

namespace PolicyFamily

def documentedOptions : PolicyFamily → List (ZKey × OptionType)
  | .read => baseOptions ++
      [(.idx optPolicyKey, .integer), (.idx optPolicyReadModeAp, .integer),
        (.idx optPolicyReadModeSc, .integer), (.str "deserialize", .boolean)]
  | .write => baseOptions ++
      [(.idx optPolicyKey, .integer), (.idx optPolicyExists, .integer),
        (.idx optPolicyDurableDelete, .boolean),
        (.idx optPolicyCommitLevel, .integer),
        (.idx optPolicyReplica, .integer),
        (.idx compressionThreshold, .integer)]
  | .remove => baseOptions ++
      [(.idx optPolicyKey, .integer), (.idx optPolicyDurableDelete, .boolean),
        (.idx optPolicyCommitLevel, .integer),
        (.idx optPolicyReplica, .integer)]
  | .batch => baseOptions ++
      [(.idx optPolicyReadModeAp, .integer),
        (.idx optPolicyReadModeSc, .integer), (.str "deserialize", .boolean),
        (.idx optSendSetName, .boolean), (.idx optBatchConcurrent, .boolean),
        (.idx optAllowInline, .boolean)]
  | .operate => baseOptions ++
      [(.idx optPolicyKey, .integer), (.idx optPolicyExists, .integer),
        (.idx optPolicyDurableDelete, .boolean),
        (.idx optPolicyCommitLevel, .integer), (.str "deserialize", .boolean),
        (.idx optPolicyReadModeAp, .integer),
        (.idx optPolicyReadModeSc, .integer),
        (.idx optPolicyReplica, .integer)]
  | .query => baseOptions ++ [(.str "deserialize", .boolean)]
  | .scan => baseOptions ++
      [(.idx optPolicyDurableDelete, .boolean),
        (.idx optFailOnClusterChange, .boolean)]
  | .apply => baseOptions ++
      [(.idx optPolicyCommitLevel, .integer),
        (.idx optPolicyDurableDelete, .boolean),
        (.idx optPolicyKey, .integer), (.idx optPolicyReplica, .integer)]

/-- The entries are documented options of the family, with the type that they
ask for. -/
def Documented (family : PolicyFamily) (options : HashTable) : Prop :=
  ∀ entry ∈ options, ∃ type, (entry.1, type) ∈ family.documentedOptions ∧
    type.Holds entry.2

/-! ## The policy of a call -/

/-- The converter of the family; `none` where it crashes. -/
def convert (engine : Engine) (zPolicy : Option Zval) :
    (family : PolicyFamily) → family.Record →
      Option (ConvertedPolicy family.Record)
  | .read, policy => some (zvalToAsPolicyRead engine.init.read zPolicy policy)
  | .write, policy => some (zvalToAsPolicyWrite engine.init.write zPolicy policy)
  | .remove, policy =>
      zvalToAsPolicyRemove engine.rt engine.init.remove zPolicy policy
  | .batch, policy => some (zvalToAsPolicyBatch engine.init.batch zPolicy policy)
  | .operate, policy =>
      some (zvalToAsPolicyOperate engine.rt engine.init.operate zPolicy policy)
  | .query, policy => some (zvalToAsPolicyQuery engine.init.query zPolicy policy)
  | .scan, policy => some (zvalToAsPolicyScan engine.init.scan zPolicy policy)
  | .apply, policy => some (zvalToAsPolicyApply engine.init.apply zPolicy policy)

end PolicyFamily

/-- Whether a method converts its options when there are none, or hands NULL to
the C client, which then takes the configured policy. -/
inductive PolicyUse where
  | always
  | whenGiven
  deriving DecidableEq

/-- The policy with which the requests of a call are carried out. -/
def effectivePolicy (engine : Engine) (policies : Policies) (use : PolicyUse)
    (family : PolicyFamily) (zPolicy : Option Zval) : Option family.Record :=
  if use = .whenGiven ∧ zPolicy = none then some (family.get policies)
  else
    (family.convert engine zPolicy (family.get policies)).bind fun converted =>
      if converted.status = .ok then some converted.policy else none

/-! ## Documented options at a call -/

section

variable {engine : Engine} {family : PolicyFamily} {options : HashTable}

/-- A key that the family does not document is not among the options. -/
theorem find_of_documented (hdocumented : family.Documented options) {key : ZKey}
    (hnot : key ∉ family.documentedOptions.map Prod.fst) :
    HashTable.find options key = none := by
  unfold HashTable.find
  rw [Option.map_eq_none_iff, List.find?_eq_none]
  intro entry hentry hkey
  obtain ⟨type, htype, -⟩ := hdocumented entry hentry
  have hsame : entry.1 = key := by simpa using hkey
  exact hnot (List.mem_map.mpr ⟨_, hsame ▸ htype, rfl⟩)

theorem indexFind_of_documented (hdocumented : family.Documented options)
    {index : Int64}
    (hnot : ZKey.idx index ∉ family.documentedOptions.map Prod.fst) :
    HashTable.indexFind options index = none :=
  find_of_documented hdocumented hnot

/-- The policy that a call starts from when it has options. -/
def PolicyFamily.base (engine : Engine) :
    (family : PolicyFamily) → family.Record → family.Record
  | .operate, _ => engine.init.operate
  | .read, policy | .write, policy | .remove, policy | .batch, policy
  | .query, policy | .scan, policy | .apply, policy => policy

/-- Documented options are read as the constructor reads them. -/
theorem effectivePolicy_given (hdocumented : family.Documented options)
    (policies : Policies) (use : PolicyUse) :
    effectivePolicy engine policies use family (some (.array options)) =
      some (family.setRecord options
        (family.base engine (family.get policies))) := by
  have hnone : ∀ index : Int64,
      ZKey.idx index ∉ family.documentedOptions.map Prod.fst →
        HashTable.indexFind options index = none :=
    fun _ hnot => indexFind_of_documented hdocumented hnot
  have hread : ∀ index target,
      ZKey.idx index ∉ family.documentedOptions.map Prod.fst →
        setUint32FromHashIndex options index target = target := by
    intro index target hnot
    unfold setUint32FromHashIndex
    rw [hnone index hnot]
  have hchecked : ∀ index target,
      ZKey.idx index ∉ family.documentedOptions.map Prod.fst →
        checkedUint32FromHashIndex options index target = some target := by
    intro index target hnot
    unfold checkedUint32FromHashIndex
    rw [hnone index hnot]
  cases family with
  | read =>
      have htimeout := fun target => hread optReadTimeout target (by decide)
      simp [effectivePolicy, PolicyFamily.convert, zvalToAsPolicyRead,
        policyFromZval, asPolicyCopy, htimeout]
      rfl
  | write =>
      have htimeout := fun target => hread optWriteTimeout target (by decide)
      have hgen := hnone optPolicyGen (by decide)
      simp [effectivePolicy, PolicyFamily.convert, zvalToAsPolicyWrite,
        policyFromZval, asPolicyCopy, setGenFromWriteHash, htimeout, hgen]
      rfl
  | remove =>
      have htimeout := fun target => hread optWriteTimeout target (by decide)
      have hgen := hnone optPolicyGen (by decide)
      simp [effectivePolicy, PolicyFamily.convert, zvalToAsPolicyRemove,
        asPolicyCopy, removeGenFromHash, htimeout, hgen]
      rfl
  | batch =>
      have htimeout := fun target => hchecked optReadTimeout target (by decide)
      simp [effectivePolicy, PolicyFamily.convert, zvalToAsPolicyBatch,
        policyFromZval, asPolicyCopy, htimeout]
      rfl
  | operate =>
      have htimeout := fun target => hread optWriteTimeout target (by decide)
      have hgen := hnone optPolicyGen (by decide)
      simp [effectivePolicy, PolicyFamily.convert, zvalToAsPolicyOperate,
        policyFromZval, setGenFromOperateHash, htimeout, hgen]
      rfl
  | query =>
      have htimeout := fun target => hchecked optReadTimeout target (by decide)
      simp [effectivePolicy, PolicyFamily.convert, zvalToAsPolicyQuery,
        policyFromZval, asPolicyCopy, htimeout]
      rfl
  | scan =>
      have hreadTimeout := hnone optReadTimeout (by decide)
      have htimeout := fun target => hchecked optWriteTimeout target (by decide)
      have hlimit := fun target => hchecked optScanRpsLimit target (by decide)
      simp [effectivePolicy, PolicyFamily.convert, zvalToAsPolicyScan,
        policyFromZval, asPolicyCopy, scanTimeoutFromHash, hreadTimeout, htimeout,
        hlimit]
      rfl
  | apply =>
      have htimeout := fun target => hread optWriteTimeout target (by decide)
      simp [effectivePolicy, PolicyFamily.convert, zvalToAsPolicyApply,
        policyFromZval, asPolicyCopy, htimeout]
      rfl

/-- Without options a call takes the configured policy, unless it converts
operate options. -/
theorem effectivePolicy_none (policies : Policies) (use : PolicyUse) :
    effectivePolicy engine policies use family none =
      some (match use with
        | .always => family.base engine (family.get policies)
        | .whenGiven => family.get policies) := by
  cases use with
  | whenGiven => rfl
  | always => cases family <;> rfl

end

/-! ## The operate options -/

/-- The integer options of an operate policy, with their fields. -/
def operateIntegers : List (ZKey × (PolicyOperate → ℕ)) :=
  [(.idx optSocketTimeout, fun policy => policy.base.socketTimeout),
    (.idx optTotalTimeout, fun policy => policy.base.totalTimeout),
    (.str "sleep_between_retries", fun policy => policy.base.sleepBetweenRetries),
    (.idx optMaxRetries, fun policy => policy.base.maxRetries),
    (.idx optPolicyKey, fun policy => policy.key),
    (.idx optPolicyExists, fun policy => policy.exists),
    (.idx optPolicyCommitLevel, fun policy => policy.commitLevel),
    (.idx optPolicyReadModeAp, fun policy => policy.readModeAp),
    (.idx optPolicyReadModeSc, fun policy => policy.readModeSc),
    (.idx optPolicyReplica, fun policy => policy.replica)]

def operateBooleans : List (ZKey × (PolicyOperate → Bool)) :=
  [(.str "deserialize", fun policy => policy.deserialize),
    (.idx optPolicyDurableDelete, fun policy => policy.durableDelete)]

/-- Every option has the value that the policy has already. -/
def RepeatsPolicy (options : HashTable) (policy : PolicyOperate) : Prop :=
  (∀ option ∈ operateIntegers, ∀ n,
    HashTable.find options option.1 = some (.long n) →
      toUint32 n = option.2 policy) ∧
  ∀ option ∈ operateBooleans, ∀ b,
    HashTable.find options option.1 = some (.bool b) → b = option.2 policy

/-- The policies agree in every field that the options do not set. -/
def AgreeOutside (options : HashTable) (policy policy' : PolicyOperate) : Prop :=
  policy.gen = policy'.gen ∧
  (∀ option ∈ operateIntegers,
    (∃ n, HashTable.find options option.1 = some (.long n)) ∨
      option.2 policy = option.2 policy') ∧
  ∀ option ∈ operateBooleans,
    (∃ b, HashTable.find options option.1 = some (.bool b)) ∨
      option.2 policy = option.2 policy'

section

variable {options : HashTable} {policy policy' : PolicyOperate}

/-- What a boolean entry makes of a field. -/
def boolOr (entry : Option Zval) (target : Bool) : Bool :=
  match entry with
  | some (.bool b) => b
  | _ => target

theorem entryOr_eq_self_iff (entry : Option Zval) (target : ℕ) :
    entryOr (longOf entry) target = target ↔
      ∀ n, entry = some (.long n) → toUint32 n = target := by
  cases entry with
  | none => simp [longOf, entryOr]
  | some z => cases z <;> simp [longOf, entryOr]

theorem entryOr_eq_iff (entry : Option Zval) (target target' : ℕ) :
    entryOr (longOf entry) target = entryOr (longOf entry) target' ↔
      (∃ n, entry = some (.long n)) ∨ target = target' := by
  cases entry with
  | none => simp [longOf, entryOr]
  | some z => cases z <;> simp [longOf, entryOr]

theorem boolOr_eq_self_iff (entry : Option Zval) (target : Bool) :
    boolOr entry target = target ↔
      ∀ b, entry = some (.bool b) → b = target := by
  cases entry with
  | none => simp [boolOr]
  | some z => cases z <;> simp [boolOr]

theorem boolOr_eq_iff (entry : Option Zval) (target target' : Bool) :
    boolOr entry target = boolOr entry target' ↔
      (∃ b, entry = some (.bool b)) ∨ target = target' := by
  cases entry with
  | none => simp [boolOr]
  | some z => cases z <;> simp [boolOr]

/-- An operate policy is its generation policy and the fields of its options. -/
theorem policyOperate_eq_iff :
    policy = policy' ↔ policy.gen = policy'.gen ∧
      (∀ option ∈ operateIntegers, option.2 policy = option.2 policy') ∧
      ∀ option ∈ operateBooleans, option.2 policy = option.2 policy' := by
  obtain ⟨⟨_, _, _, _⟩, _, _, _, _, _, _, _, _, _⟩ := policy
  obtain ⟨⟨_, _, _, _⟩, _, _, _, _, _, _, _, _, _⟩ := policy'
  simp [operateIntegers, operateBooleans]
  tauto

theorem operateIntegers_set {option : ZKey × (PolicyOperate → ℕ)}
    (hoption : option ∈ operateIntegers) :
    option.2 (setOperatePolicyFromHash options policy) =
      entryOr (longOf (HashTable.find options option.1)) (option.2 policy) := by
  simp only [operateIntegers, List.mem_cons, List.not_mem_nil, or_false] at hoption
  rcases hoption with rfl | rfl | rfl | rfl | rfl | rfl | rfl | rfl | rfl | rfl <;>
    first
      | exact setUint32FromHashIndex_eq options _ _
      | exact setUint32FromHashKey_eq options _ _

theorem operateBooleans_set {option : ZKey × (PolicyOperate → Bool)}
    (hoption : option ∈ operateBooleans) :
    option.2 (setOperatePolicyFromHash options policy) =
      boolOr (HashTable.find options option.1) (option.2 policy) := by
  simp only [operateBooleans, List.mem_cons, List.not_mem_nil, or_false] at hoption
  rcases hoption with rfl | rfl <;> rfl

theorem setOperatePolicyFromHash_eq_self_iff :
    setOperatePolicyFromHash options policy = policy ↔
      RepeatsPolicy options policy := by
  rw [policyOperate_eq_iff]
  have hintegers : ∀ option ∈ operateIntegers,
      option.2 (setOperatePolicyFromHash options policy) = option.2 policy ↔
        ∀ n, HashTable.find options option.1 = some (.long n) →
          toUint32 n = option.2 policy := fun option hoption => by
    rw [operateIntegers_set hoption, entryOr_eq_self_iff]
  have hbooleans : ∀ option ∈ operateBooleans,
      option.2 (setOperatePolicyFromHash options policy) = option.2 policy ↔
        ∀ b, HashTable.find options option.1 = some (.bool b) →
          b = option.2 policy := fun option hoption => by
    rw [operateBooleans_set hoption, boolOr_eq_self_iff]
  exact (and_iff_right rfl).trans
    (and_congr (forall₂_congr hintegers) (forall₂_congr hbooleans))

theorem setOperatePolicyFromHash_eq_iff :
    setOperatePolicyFromHash options policy =
        setOperatePolicyFromHash options policy' ↔
      AgreeOutside options policy policy' := by
  rw [policyOperate_eq_iff]
  have hintegers : ∀ option ∈ operateIntegers,
      option.2 (setOperatePolicyFromHash options policy) =
          option.2 (setOperatePolicyFromHash options policy') ↔
        (∃ n, HashTable.find options option.1 = some (.long n)) ∨
          option.2 policy = option.2 policy' := fun option hoption => by
    rw [operateIntegers_set hoption, operateIntegers_set hoption, entryOr_eq_iff]
  have hbooleans : ∀ option ∈ operateBooleans,
      option.2 (setOperatePolicyFromHash options policy) =
          option.2 (setOperatePolicyFromHash options policy') ↔
        (∃ b, HashTable.find options option.1 = some (.bool b)) ∨
          option.2 policy = option.2 policy' := fun option hoption => by
    rw [operateBooleans_set hoption, operateBooleans_set hoption, boolOr_eq_iff]
  exact and_congr Iff.rfl
    (and_congr (forall₂_congr hintegers) (forall₂_congr hbooleans))

end

/-! ## Default policies and options of a call -/

/-- When the default policy and the options of a call mean the same. -/
def DefaultsAgree (engine : Engine) (policies : Policies) (family : PolicyFamily)
    (use : PolicyUse) (options : HashTable) : Prop :=
  family = .operate →
    match use with
    | .always => RepeatsPolicy options engine.init.operate
    | .whenGiven => AgreeOutside options policies.operate engine.init.operate

/-- A client without the default policy does with the options in a call what a
client with the default policy does without them. -/
def DefaultsMean (engine : Engine) (policies policies' : Policies)
    (family : PolicyFamily) (use : PolicyUse) (options : HashTable) : Prop :=
  effectivePolicy engine policies use family none =
    effectivePolicy engine policies' use family (some (.array options))

/-- The default policy of a family and the same documented options in a call
come to one policy exactly when the family is not the operate one, or its
options say nothing that a fresh policy does not say. -/
theorem defaultsMean_iff {engine : Engine} {lib : ClientLibrary} {ini : Ini}
    {zConfig : HashTable} {zOptions zOptions' : Option HashTable}
    {c c' : Configured} {family : PolicyFamily} {options : HashTable}
    (hconfigure : configure engine lib ini zConfig zOptions = .ok c)
    (hconfigure' : configure engine lib ini zConfig zOptions' = .ok c')
    (hsame : SameBut family zOptions zOptions')
    (hwith : subpolicy (zOptions.getD []) family = some options)
    (hwithout : subpolicy (zOptions'.getD []) family = none)
    (hdocumented : family.Documented options) (use : PolicyUse) :
    DefaultsMean engine c.config.policies c'.config.policies family use
        options ↔
      DefaultsAgree engine c'.config.policies family use options := by
  have hdefault := configure_default hconfigure hsame hconfigure' hwith hwithout
  unfold DefaultsMean
  rw [effectivePolicy_given hdocumented, effectivePolicy_none, hdefault,
    Option.some.injEq]
  cases family with
  | operate =>
      cases use with
      | always =>
          have hrepeats := @setOperatePolicyFromHash_eq_self_iff options
            engine.init.operate
          exact (eq_comm.trans hrepeats).trans
            ⟨fun h _ => h, fun h => h rfl⟩
      | whenGiven =>
          have hagree := @setOperatePolicyFromHash_eq_iff options
            c'.config.policies.operate engine.init.operate
          exact hagree.trans ⟨fun h _ => h, fun h => h rfl⟩
  | read | write | remove | batch | query | scan | apply =>
      cases use <;> exact ⟨fun _ hfamily => (by cases hfamily), fun _ => rfl⟩

/-- Constructor options with one default policy. -/
def withDefaultPolicy (family : PolicyFamily) (options : HashTable) :
    Option HashTable :=
  some [(.idx family.defaultPol, .array options)]

def fiveSeconds : HashTable := [(.idx optTotalTimeout, .long 5000)]

theorem fiveSeconds_documented (family : PolicyFamily) :
    family.Documented fiveSeconds := by
  intro entry hentry
  obtain rfl := List.mem_singleton.mp hentry
  refine ⟨.integer, ?_, 5000, rfl⟩
  cases family <;> decide

theorem sameBut_withDefaultPolicy (family : PolicyFamily) (options : HashTable) :
    SameBut family (withDefaultPolicy family options) none := by
  intro key hkey
  have hne : ZKey.idx family.defaultPol ≠ key := fun h => hkey h.symm
  simp [withDefaultPolicy, HashTable.find, hne]

/-- The client with this default policy, and the one without. -/
theorem configure_oneHost (family : PolicyFamily) :
    (∃ c, configure Engine.plain .plain .registered oneHost
      (withDefaultPolicy family fiveSeconds) = .ok c) ∧
    ∃ c, configure Engine.plain .plain .registered oneHost none = .ok c := by
  refine ⟨?_, _, rfl⟩
  cases family <;> exact ⟨_, rfl⟩

theorem defaultsMean_iff_read :
    ∃ c c', configure Engine.plain .plain .registered oneHost
        (withDefaultPolicy .read fiveSeconds) = .ok c ∧
      configure Engine.plain .plain .registered oneHost none = .ok c' ∧
      (DefaultsMean Engine.plain c.config.policies c'.config.policies .read
          .always fiveSeconds ↔
        DefaultsAgree Engine.plain c'.config.policies .read .always
          fiveSeconds) := by
  obtain ⟨⟨c, hconfigure⟩, c', hconfigure'⟩ := configure_oneHost .read
  refine ⟨c, c', hconfigure, hconfigure', ?_⟩
  exact defaultsMean_iff hconfigure hconfigure' (sameBut_withDefaultPolicy _ _)
    rfl rfl (fiveSeconds_documented _) _

/-- With a timeout for all operate calls, a call without options has none. -/
theorem operateTimeout_not_defaultsMean :
    ∃ c c', configure Engine.plain .plain .registered oneHost
        (withDefaultPolicy .operate fiveSeconds) = .ok c ∧
      configure Engine.plain .plain .registered oneHost none = .ok c' ∧
      ¬ DefaultsMean Engine.plain c.config.policies c'.config.policies .operate
        .always fiveSeconds := by
  obtain ⟨⟨c, hconfigure⟩, c', hconfigure'⟩ := configure_oneHost .operate
  refine ⟨c, c', hconfigure, hconfigure', fun hmean => ?_⟩
  unfold DefaultsMean at hmean
  rw [effectivePolicy_none, effectivePolicy_given (fiveSeconds_documented _)]
    at hmean
  have htimeout : (0 : ℕ) = 5000 := congrArg
    (fun policy : PolicyOperate => policy.base.totalTimeout)
    (Option.some.inj hmean)
  exact absurd htimeout (by decide)

end AerospikePhp
