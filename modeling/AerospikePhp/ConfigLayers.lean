import AerospikePhp.Config
import Mathlib.Tactic

/-!
# The layers of a configuration

Which entry decides each field of the read, write and operate policies of a
client that the constructor accepts.  The documented order of the layers is the
family's default policy, the global options, the config array, the INI settings
and the defaults of the C client; the constructor never looks at the global
option for the read mode of strong consistency.
-/

namespace AerospikePhp

/-! ## Entries -/

/-- The integer in an entry, if it is there and well typed. -/
def longOf : Option Zval → Option Int64
  | some (.long n) => some n
  | _ => none

/-- What an entry makes of a field. -/
def entryOr (entry : Option Int64) (target : ℕ) : ℕ :=
  match entry with
  | some n => toUint32 n
  | none => target

theorem setUint32FromHashIndex_eq (hash : HashTable) (index : Int64)
    (target : ℕ) :
    setUint32FromHashIndex hash index target =
      entryOr (longOf (hash.indexFind index)) target := by
  unfold setUint32FromHashIndex longOf
  cases hash.indexFind index with
  | none => rfl
  | some z => cases z <;> rfl

theorem setUint32FromHashKey_eq (hash : HashTable) (key : String)
    (target : ℕ) :
    setUint32FromHashKey hash key target =
      entryOr (longOf (hash.strFind key)) target := by
  unfold setUint32FromHashKey longOf
  cases hash.strFind key with
  | none => rfl
  | some z => cases z <;> rfl

theorem entryOr_orElse (first second : Option Int64) (target : ℕ) :
    entryOr (first <|> second) target = entryOr first (entryOr second target) := by
  cases first <;> rfl

/-! ## Policies by their family -/

namespace PolicyFamily

abbrev Record : PolicyFamily → Type
  | .read => PolicyRead
  | .write => PolicyWrite
  | .remove => PolicyRemove
  | .batch => PolicyBatch
  | .operate => PolicyOperate
  | .query => PolicyQuery
  | .scan => PolicyScan
  | .apply => PolicyApply

def get (policies : Policies) : (family : PolicyFamily) → family.Record
  | .read => policies.read
  | .write => policies.write
  | .remove => policies.remove
  | .batch => policies.batch
  | .operate => policies.operate
  | .query => policies.query
  | .scan => policies.scan
  | .apply => policies.apply

def setRecord (hash : HashTable) :
    (family : PolicyFamily) → family.Record → family.Record
  | .read => setReadPolicyFromHash hash
  | .write => setWritePolicyFromHash hash
  | .remove => setRemovePolicyFromHash hash
  | .batch => setBatchPolicyFromHash hash
  | .operate => setOperatePolicyFromHash hash
  | .query => setQueryPolicyFromHash hash
  | .scan => setScanPolicyFromHash hash
  | .apply => setApplyPolicyFromHash hash

theorem get_setFromHash (hash : HashTable) (policies : Policies)
    (family : PolicyFamily) :
    family.get (family.setFromHash hash policies) =
      family.setRecord hash (family.get policies) := by
  cases family <;> rfl

theorem get_setFromHash_of_ne (hash : HashTable) (policies : Policies)
    {family other : PolicyFamily} (hne : other ≠ family) :
    family.get (other.setFromHash hash policies) = family.get policies := by
  cases other <;> cases family <;> first | rfl | exact absurd rfl hne

end PolicyFamily

/-- The default policy of the family, if the options have one. -/
def subpolicy (options : HashTable) (family : PolicyFamily) : Option HashTable :=
  match options.indexFind family.defaultPol with
  | some (.array sub) => some sub
  | _ => none

/-- The policy of a family after its default policy is read. -/
def PolicyFamily.withDefault (options : HashTable) (family : PolicyFamily)
    (record : family.Record) : family.Record :=
  match subpolicy options family with
  | some sub => family.setRecord sub record
  | none => record

theorem setSubpolicy_get {options : HashTable} {family : PolicyFamily}
    {c c' : Configured} (hset : setSubpolicy options family c = some c') :
    family.get c'.config.policies =
      family.withDefault options (family.get c.config.policies) := by
  unfold setSubpolicy at hset
  unfold PolicyFamily.withDefault subpolicy
  split at hset
  · next hentry =>
      obtain rfl := Option.some.inj hset
      rw [hentry]
  · next sub hentry =>
      obtain rfl := Option.some.inj hset
      rw [hentry]
      exact PolicyFamily.get_setFromHash sub _ family
  · cases hset

theorem setSubpolicy_get_of_ne {options : HashTable}
    {family other : PolicyFamily} {c c' : Configured}
    (hset : setSubpolicy options other c = some c') (hne : other ≠ family) :
    family.get c'.config.policies = family.get c.config.policies := by
  unfold setSubpolicy at hset
  split at hset
  · obtain rfl := Option.some.inj hset
    rfl
  · obtain rfl := Option.some.inj hset
    exact PolicyFamily.get_setFromHash_of_ne _ _ hne
  · cases hset

/-- A list of families, each read from its own default policy. -/
theorem setSubpolicies_get {options : HashTable} {families : List PolicyFamily}
    {c c' : Configured}
    (hset : families.foldlM (fun c family => setSubpolicy options family c) c =
      some c')
    (hnodup : families.Nodup) (family : PolicyFamily) :
    family.get c'.config.policies =
      if family ∈ families then
        family.withDefault options (family.get c.config.policies)
      else family.get c.config.policies := by
  induction families generalizing c with
  | nil =>
      obtain rfl := Option.some.inj hset
      simp
  | cons other families ih =>
      rw [List.foldlM_cons] at hset
      obtain ⟨d, hfirst, hrest⟩ := Option.bind_eq_some_iff.mp hset
      have hget := ih hrest hnodup.of_cons
      rw [hget]
      by_cases hsame : other = family
      · subst hsame
        have hnot : other ∉ families := (List.nodup_cons.mp hnodup).1
        simp [hnot, setSubpolicy_get hfirst]
      · have hmem : family ∈ other :: families ↔ family ∈ families := by
          simp [Ne.symm hsame]
        simp only [hmem, setSubpolicy_get_of_ne hfirst hsame]

theorem setSubpoliciesFromHash_get {options : HashTable} {c c' : Configured}
    (hset : setSubpoliciesFromHash options c = some c')
    (family : PolicyFamily) :
    family.get c'.config.policies =
      family.withDefault options (family.get c.config.policies) := by
  have hfold : [PolicyFamily.read, .write, .remove, .batch, .operate, .query,
      .scan, .apply].foldlM (fun c family => setSubpolicy options family c) c =
        some c' := by
    simpa [setSubpoliciesFromHash] using hset
  have hget := setSubpolicies_get hfold (by decide) family
  rw [hget, if_pos]
  cases family <;> decide

/-! ## The global options -/

structure GlobalOption where
  index : Int64
  set : ℕ → Policies → Policies

/-- The global options that are integers for some of the policies, in the order
in which they are read. -/
def globalOptions : List GlobalOption :=
  [⟨optReadTimeout, setReadTimeouts⟩, ⟨optWriteTimeout, setWriteTimeouts⟩,
    ⟨optTotalTimeout, setTotalTimeouts⟩, ⟨optSocketTimeout, setSocketTimeouts⟩,
    ⟨optPolicyKey, setKeyPolicies⟩, ⟨optPolicyExists, setExistsPolicies⟩,
    ⟨optMaxRetries, setMaxRetries⟩, ⟨optPolicyCommitLevel, setCommitLevels⟩,
    ⟨optPolicyReadModeAp, setReadModesAp⟩, ⟨optPolicyReplica, setReplicas⟩]

/-- The last of the options that has an integer. -/
def lastGlobal (options : HashTable) : List Int64 → Option Int64
  | [] => none
  | index :: indices =>
      lastGlobal options indices <|> longOf (options.indexFind index)

theorem setLong_eq {σ : Type} {z : Option Zval} {set : Int64 → σ → σ}
    {state state' : σ} (hset : setLong z set state = some state') :
    state' = match longOf z with
      | some n => set n state
      | none => state := by
  unfold setLong at hset
  split at hset
  · exact (Option.some.inj hset).symm
  · exact (Option.some.inj hset).symm
  · cases hset

/-- A field that each option either writes or leaves alone. -/
theorem setGlobals_value {options : HashTable} {globals : List GlobalOption}
    {c c' : Configured} {value : Policies → ℕ} {indices : List Int64}
    (hset : globals.foldlM (fun c option =>
      setGlobal options option.index option.set c) c = some c')
    (hvalue : ∀ option ∈ globals, ∀ n policies,
      value (option.set n policies) =
        if option.index ∈ indices then n else value policies) :
    value c'.config.policies =
      entryOr (lastGlobal options
        ((globals.map GlobalOption.index).filter (· ∈ indices)))
        (value c.config.policies) := by
  induction globals generalizing c with
  | nil =>
      obtain rfl := Option.some.inj hset
      rfl
  | cons option globals ih =>
      rw [List.foldlM_cons] at hset
      obtain ⟨d, hfirst, hrest⟩ := Option.bind_eq_some_iff.mp hset
      have hothers := ih hrest fun other hmem =>
        hvalue other (List.mem_cons_of_mem _ hmem)
      have hwrites := hvalue option List.mem_cons_self
      have hd := setLong_eq hfirst
      have hfield : value d.config.policies =
          if option.index ∈ indices then
            entryOr (longOf (options.indexFind option.index))
              (value c.config.policies)
          else value c.config.policies := by
        rw [hd]
        cases longOf (options.indexFind option.index) with
        | none => simp [entryOr]
        | some n => exact hwrites (toUint32 n) c.config.policies
      rw [hothers, hfield]
      by_cases hmem : option.index ∈ indices
      · have hkept : (option.index :: globals.map GlobalOption.index).filter
            (· ∈ indices) = option.index ::
              (globals.map GlobalOption.index).filter (· ∈ indices) :=
          List.filter_cons_of_pos (by simpa using hmem)
        rw [if_pos hmem, List.map_cons, hkept, lastGlobal, entryOr_orElse]
      · simp [hmem]

/-! ## Fields -/

/-- A field of a policy that the layers decide. -/
inductive Setting where
  | totalTimeout | socketTimeout | maxRetries | sleepBetweenRetries
  | key | replica | readModeAp | readModeSc | commitLevel | «exists»
  | compressionThreshold
  deriving DecidableEq, Repr

namespace Setting

def ofBase (base : PolicyBase) : Setting → ℕ
  | .totalTimeout => base.totalTimeout
  | .socketTimeout => base.socketTimeout
  | .maxRetries => base.maxRetries
  | .sleepBetweenRetries => base.sleepBetweenRetries
  | _ => 0

def ofRead (policy : PolicyRead) : Setting → ℕ
  | .key => policy.key
  | .replica => policy.replica
  | .readModeAp => policy.readModeAp
  | .readModeSc => policy.readModeSc
  | setting => setting.ofBase policy.base

def ofOperate (policy : PolicyOperate) : Setting → ℕ
  | .key => policy.key
  | .replica => policy.replica
  | .readModeAp => policy.readModeAp
  | .readModeSc => policy.readModeSc
  | .commitLevel => policy.commitLevel
  | setting => setting.ofBase policy.base

def ofWrite (policy : PolicyWrite) : Setting → ℕ
  | .key => policy.key
  | .exists => policy.exists
  | .commitLevel => policy.commitLevel
  | .compressionThreshold => policy.compressionThreshold
  | setting => setting.ofBase policy.base

/-- The entry of a default policy for the field. -/
def entry (hash : HashTable) : Setting → Option Zval
  | .totalTimeout => hash.indexFind optTotalTimeout
  | .socketTimeout => hash.indexFind optSocketTimeout
  | .maxRetries => hash.indexFind optMaxRetries
  | .sleepBetweenRetries => hash.strFind "sleep_between_retries"
  | .key => hash.indexFind optPolicyKey
  | .replica => hash.indexFind optPolicyReplica
  | .readModeAp => hash.indexFind optPolicyReadModeAp
  | .readModeSc => hash.indexFind optPolicyReadModeSc
  | .commitLevel => hash.indexFind optPolicyCommitLevel
  | .exists => hash.indexFind optPolicyExists
  | .compressionThreshold =>
      hash.indexFind AerospikePhp.compressionThreshold

end Setting

/-- The families whose layers are described field by field. -/
inductive LayeredFamily where
  | read | operate | write
  deriving DecidableEq, Repr

namespace LayeredFamily

def family : LayeredFamily → PolicyFamily
  | .read => .read
  | .operate => .operate
  | .write => .write

def valueOf : (family : LayeredFamily) → family.family.Record → Setting → ℕ
  | .read => Setting.ofRead
  | .operate => Setting.ofOperate
  | .write => Setting.ofWrite

def value (family : LayeredFamily) (policies : Policies) (setting : Setting) :
    ℕ :=
  family.valueOf (family.family.get policies) setting

/-- The fields of each family that the documentation speaks of. -/
def settings : LayeredFamily → List Setting
  | .read =>
      [.totalTimeout, .socketTimeout, .maxRetries, .sleepBetweenRetries, .key,
        .replica, .readModeAp, .readModeSc]
  | .operate =>
      [.totalTimeout, .socketTimeout, .maxRetries, .sleepBetweenRetries, .key,
        .replica, .readModeAp, .readModeSc, .commitLevel]
  | .write =>
      [.totalTimeout, .socketTimeout, .maxRetries, .sleepBetweenRetries, .key,
        .exists, .commitLevel, .compressionThreshold]

/-- The global options for the field, the one that wins last. -/
def globals (family : LayeredFamily) : Setting → List Int64
  | .totalTimeout =>
      [if family = .read then optReadTimeout else optWriteTimeout,
        optTotalTimeout]
  | .socketTimeout => [optSocketTimeout]
  | .maxRetries => [optMaxRetries]
  | .sleepBetweenRetries => []
  | .key => [optPolicyKey]
  | .replica => [optPolicyReplica]
  | .readModeAp => [optPolicyReadModeAp]
  | .readModeSc => [optPolicyReadModeSc]
  | .commitLevel => [optPolicyCommitLevel]
  | .exists => [optPolicyExists]
  | .compressionThreshold => []

end LayeredFamily

section

variable (ini : Ini) (zConfig : HashTable) (zOptions : Option HashTable)
variable (family : LayeredFamily)

/-- The entry of the family's default policy. -/
def subpolicyEntry (setting : Setting) : Option Int64 :=
  match subpolicy (zOptions.getD []) family.family with
  | some sub => longOf (setting.entry sub)
  | none => none

def globalEntry (setting : Setting) : Option Int64 :=
  lastGlobal (zOptions.getD []) (family.globals setting)

def configEntry : Setting → Option Int64
  | .compressionThreshold => longOf (zConfig.strFind "compression_threshold")
  | _ => none

def iniEntry : Setting → Option Int64
  | .totalTimeout =>
      some (if family = .read then ini.readTimeout else ini.writeTimeout)
  | .key => some ini.keyPolicy
  | .compressionThreshold => some ini.compressionThreshold
  | _ => none

/-- The first layer that has an entry decides. -/
def decidingEntry (setting : Setting) : Option Int64 :=
  subpolicyEntry zOptions family setting <|>
    globalEntry zOptions family setting <|>
    configEntry zConfig setting <|> iniEntry ini family setting

end

/-! ## What the layers come to -/

section

variable {engine : Engine} {lib : ClientLibrary} {ini : Ini}
variable {zConfig : HashTable} {zOptions : Option HashTable} {c : Configured}

theorem setRecord_value {family : LayeredFamily} {setting : Setting}
    (hsetting : setting ∈ family.settings) (sub : HashTable)
    (record : family.family.Record) :
    family.valueOf (family.family.setRecord sub record) setting =
      entryOr (longOf (setting.entry sub)) (family.valueOf record setting) := by
  cases family with
  | read =>
      cases setting <;> first
        | exact setUint32FromHashIndex_eq _ _ _
        | exact setUint32FromHashKey_eq _ _ _
        | simp [LayeredFamily.settings] at hsetting
  | operate =>
      cases setting <;> first
        | exact setUint32FromHashIndex_eq _ _ _
        | exact setUint32FromHashKey_eq _ _ _
        | simp [LayeredFamily.settings] at hsetting
  | write =>
      cases setting <;> first
        | exact setUint32FromHashIndex_eq _ _ _
        | exact setUint32FromHashKey_eq _ _ _
        | simp [LayeredFamily.settings] at hsetting

theorem withDefault_value {family : LayeredFamily}
    {policies policies' : Policies} {setting : Setting}
    (hsetting : setting ∈ family.settings)
    (hget : family.family.get policies' =
      family.family.withDefault (zOptions.getD [])
        (family.family.get policies)) :
    family.value policies' setting =
      entryOr (subpolicyEntry zOptions family setting)
        (family.value policies setting) := by
  unfold LayeredFamily.value subpolicyEntry
  rw [hget, PolicyFamily.withDefault]
  cases subpolicy (zOptions.getD []) family.family with
  | none => rfl
  | some sub => exact setRecord_value hsetting sub _

/-- The fields that some global option writes, and those it leaves alone. -/
theorem globalOptions_value {family : LayeredFamily} {setting : Setting}
    (hsetting : setting ∈ family.settings) (hmode : setting ≠ .readModeSc) :
    ∀ option ∈ globalOptions, ∀ n policies,
      family.value (option.set n policies) setting =
        if option.index ∈ family.globals setting then n
        else family.value policies setting := by
  intro option hoption n policies
  simp only [globalOptions, List.mem_cons, List.not_mem_nil, or_false] at hoption
  cases family <;> cases setting <;> first
    | exact absurd rfl hmode
    | exact absurd hsetting (by decide)
    | rcases hoption with rfl | rfl | rfl | rfl | rfl | rfl | rfl | rfl | rfl |
        rfl <;> rfl

theorem globalIndices (family : LayeredFamily) (setting : Setting)
    (hmode : setting ≠ .readModeSc) :
    (globalOptions.map GlobalOption.index).filter
      (· ∈ family.globals setting) = family.globals setting := by
  cases family <;> cases setting <;> first | decide | exact absurd rfl hmode

/-- No options are as good as empty ones. -/
theorem setPolicyDefaultsFromHash_getD (rt : Runtime) (c : Configured) :
    setPolicyDefaultsFromHash rt zOptions c =
      setPolicyDefaultsFromHash rt (some (zOptions.getD [])) c := by
  cases zOptions with
  | none => rfl
  | some options => rfl

/-- The options in their three parts: what is not about policies, the global
options, and the default policies. -/
theorem setPolicyDefaultsFromHash_parts {rt : Runtime} {c c' : Configured}
    (hset : setPolicyDefaultsFromHash rt zOptions c = some c') :
    ∃ before after : Configured,
      before.config.policies = c.config.policies ∧
      (∃ globals : Configured,
        globalOptions.foldlM (fun c option => setGlobal (zOptions.getD [])
          option.index option.set c) before = some globals ∧
        after.config.policies = globals.config.policies) ∧
      setSubpoliciesFromHash (zOptions.getD []) after = some c' := by
  rw [setPolicyDefaultsFromHash_getD] at hset
  simp only [setPolicyDefaultsFromHash, bind, Option.bind_eq_some_iff] at hset
  obtain ⟨c₁, hconnect, c₂, hservices, c₃, hread, c₄, hwrite, c₅, htotal, c₆,
    hsocket, c₇, hkey, c₈, hexists, c₉, hretries, c₁₀, hcommit, c₁₁, hmode,
    c₁₂, hreplica, c₁₃, hserializer, hsub⟩ := hset
  refine ⟨c₂, c₁₃, ?_, ⟨c₁₂, ?_, ?_⟩, hsub⟩
  · have hfirst : c₁.config.policies = c.config.policies := by
      rw [setLong_eq hconnect]
      split <;> rfl
    have hsecond : c₂.config.policies = c₁.config.policies := by
      unfold setUseServicesAlternate at hservices
      split at hservices
      · rw [Option.some.inj hservices]
      · rw [← Option.some.inj hservices]
      · cases hservices
    rw [hsecond, hfirst]
  · simp [globalOptions, hread, hwrite, htotal, hsocket, hkey, hexists,
      hretries, hcommit, hmode, hreplica]
  · rw [setLong_eq hserializer]
    split <;> rfl

/-- What the policies do not touch is kept by all options but the connect
timeout, `USE_SERVICES_ALTERNATE` and the serializer. -/
theorem setGlobal_outside {β : Type} {f : Configured → β}
    (houtside : ∀ set c, f (c.withPolicies set) = f c) {hash : HashTable}
    {index : Int64} {set : ℕ → Policies → Policies} {c c' : Configured}
    (hset : setGlobal hash index set c = some c') : f c' = f c := by
  rw [setLong_eq hset]
  split
  · exact houtside _ c
  · rfl

theorem setSubpolicy_outside {β : Type} {f : Configured → β}
    (houtside : ∀ set c, f (c.withPolicies set) = f c) {hash : HashTable}
    {family : PolicyFamily} {c c' : Configured}
    (hset : setSubpolicy hash family c = some c') : f c' = f c := by
  unfold setSubpolicy at hset
  split at hset
  · rw [← Option.some.inj hset]
  · rw [← Option.some.inj hset]
    exact houtside _ c
  · cases hset

theorem setPolicyDefaultsFromHash_outside {β : Type} {f : Configured → β}
    (houtside : ∀ set c, f (c.withPolicies set) = f c) {rt : Runtime}
    {options : HashTable} {c c' : Configured}
    (hset : setPolicyDefaultsFromHash rt (some options) c = some c') :
    ∃ connected alternated between : Configured,
      setLong (options.indexFind optConnectTimeout)
        (fun n c => { c with config.connTimeoutMs := toUint32 n }) c =
          some connected ∧
      setUseServicesAlternate rt (options.indexFind useServicesAlternate)
        connected = some alternated ∧
      f between = f alternated ∧
      f c' = f (match longOf (options.indexFind optSerializer) with
        | some n => { between with serializerType := toInt32 n }
        | none => between) := by
  simp only [setPolicyDefaultsFromHash, bind, Option.bind_eq_some_iff] at hset
  obtain ⟨c₁, hconnect, c₂, hservices, c₃, hread, c₄, hwrite, c₅, htotal, c₆,
    hsocket, c₇, hkey, c₈, hexists, c₉, hretries, c₁₀, hcommit, c₁₁, hmode,
    c₁₂, hreplica, c₁₃, hserializer, hsub⟩ := hset
  have hglobals : f c₁₂ = f c₂ := by
    rw [setGlobal_outside houtside hreplica, setGlobal_outside houtside hmode,
      setGlobal_outside houtside hcommit, setGlobal_outside houtside hretries,
      setGlobal_outside houtside hexists, setGlobal_outside houtside hkey,
      setGlobal_outside houtside hsocket, setGlobal_outside houtside htotal,
      setGlobal_outside houtside hwrite, setGlobal_outside houtside hread]
  have hsubpolicies : f c' = f c₁₃ := by
    simp only [setSubpoliciesFromHash, bind, Option.bind_eq_some_iff] at hsub
    obtain ⟨d₁, hread, d₂, hwrite, d₃, hremove, d₄, hbatch, d₅, hoperate, d₆,
      hquery, d₇, hscan, happly⟩ := hsub
    rw [setSubpolicy_outside houtside happly,
      setSubpolicy_outside houtside hscan, setSubpolicy_outside houtside hquery,
      setSubpolicy_outside houtside hoperate,
      setSubpolicy_outside houtside hbatch,
      setSubpolicy_outside houtside hremove,
      setSubpolicy_outside houtside hwrite, setSubpolicy_outside houtside hread]
  refine ⟨c₁, c₂, c₁₂, hconnect, hservices, hglobals, ?_⟩
  rw [hsubpolicies, setLong_eq hserializer]

theorem setPolicyDefaultsFromHash_value {rt : Runtime} {c c' : Configured}
    (hset : setPolicyDefaultsFromHash rt zOptions c = some c')
    {family : LayeredFamily} {setting : Setting}
    (hsetting : setting ∈ family.settings) (hmode : setting ≠ .readModeSc) :
    family.value c'.config.policies setting =
      entryOr (subpolicyEntry zOptions family setting)
        (entryOr (globalEntry zOptions family setting)
          (family.value c.config.policies setting)) := by
  obtain ⟨before, after, hbefore, ⟨globals, hglobals, hafter⟩, hsub⟩ :=
    setPolicyDefaultsFromHash_parts hset
  have hwritten := @setGlobals_value (zOptions.getD []) globalOptions before
    globals (fun policies => family.value policies setting)
    (family.globals setting) hglobals (globalOptions_value hsetting hmode)
  rw [withDefault_value hsetting (setSubpoliciesFromHash_get hsub _), hafter,
    hwritten, globalIndices family setting hmode, hbefore]
  rfl

/-- No global option writes the read mode of strong consistency. -/
theorem setPolicyDefaultsFromHash_readModeSc {rt : Runtime} {c c' : Configured}
    (hset : setPolicyDefaultsFromHash rt zOptions c = some c')
    {family : LayeredFamily} (hsetting : .readModeSc ∈ family.settings) :
    family.value c'.config.policies .readModeSc =
      entryOr (subpolicyEntry zOptions family .readModeSc)
        (family.value c.config.policies .readModeSc) := by
  obtain ⟨before, after, hbefore, ⟨globals, hglobals, hafter⟩, hsub⟩ :=
    setPolicyDefaultsFromHash_parts hset
  have hkept : ∀ option ∈ globalOptions, ∀ n policies,
      family.value (option.set n policies) .readModeSc =
        if option.index ∈ [] then n else family.value policies .readModeSc := by
    intro option hoption n policies
    simp only [globalOptions, List.mem_cons, List.not_mem_nil,
      or_false] at hoption
    cases family <;> rcases hoption with rfl | rfl | rfl | rfl | rfl | rfl |
      rfl | rfl | rfl | rfl <;> rfl
  have hwritten := @setGlobals_value (zOptions.getD []) globalOptions before
    globals (fun policies => family.value policies .readModeSc) [] hglobals hkept
  have hnone : (globalOptions.map GlobalOption.index).filter
      (· ∈ ([] : List Int64)) = [] := by
    decide
  rw [withDefault_value hsetting (setSubpoliciesFromHash_get hsub _), hafter,
    hwritten, hnone, hbefore]
  rfl

/-! ## The layers below the options -/

theorem addHosts_policies {zHosts : List Zval} {config config' : AsConfig}
    (hadd : addHosts zHosts config = .ok config') :
    config'.policies = config.policies := by
  induction zHosts generalizing config with
  | nil =>
      obtain rfl := Except.ok.inj hadd
      rfl
  | cons z zHosts ih =>
      cases z with
      | array entry =>
          rw [addHosts] at hadd
          split at hadd
          · cases hadd
          · split at hadd
            · split at hadd
              · cases hadd
              · split at hadd
                · split at hadd
                  · rw [ih hadd]
                  · cases hadd
                · cases hadd
            · cases hadd
      | undef | null | bool _ | long _ | double _ | string _ | object _ _
      | resource | reference _ => simp [addHosts] at hadd

/-- A setting that is not about the field. -/
theorem setLong_keeps {β : Type} {f : AsConfig → β} {z : Option Zval}
    {set : Int64 → AsConfig → AsConfig} {config config' : AsConfig}
    (hset : setLong z set config = some config')
    (hkeeps : ∀ n config, f (set n config) = f config) :
    f config' = f config := by
  rw [setLong_eq hset]
  split
  · exact hkeeps _ _
  · rfl

theorem setShmFromHash_policies {z : Option Zval} {config config' : AsConfig}
    (hset : setShmFromHash z config = some config') :
    config'.policies = config.policies := by
  unfold setShmFromHash at hset
  split at hset
  · rw [Option.some.inj hset]
  · simp only [bind, Option.bind_eq_some_iff] at hset
    obtain ⟨c₁, hkey, c₂, hnodes, c₃, hnamespaces, htakeover⟩ := hset
    rw [setLong_keeps (f := AsConfig.policies) htakeover fun _ _ => rfl,
      setLong_keeps (f := AsConfig.policies) hnamespaces fun _ _ => rfl,
      setLong_keeps (f := AsConfig.policies) hnodes fun _ _ => rfl,
      setLong_keeps (f := AsConfig.policies) hkey fun _ _ => rfl]
  · cases hset

theorem setUserFromHash_keeps {β : Type} {f : AsConfig → β}
    {config config' : AsConfig}
    (hset : setUserFromHash lib zConfig config = some config')
    (hkeeps : ∀ config user password,
      f { config with user := user, password := password } = f config) :
    f config' = f config := by
  unfold setUserFromHash at hset
  split at hset
  · rw [Option.some.inj hset]
  · split at hset
    · rw [Option.some.inj hset]
    · split at hset
      · rw [← Option.some.inj hset]
        exact hkeeps _ _ _
      · cases hset
    · cases hset
  · cases hset

theorem setClusterName_keeps {β : Type} {f : AsConfig → β} {z : Option Zval}
    {config config' : AsConfig}
    (hset : setClusterName z config = some config')
    (hkeeps : ∀ config name, f { config with clusterName := name } = f config) :
    f config' = f config := by
  unfold setClusterName at hset
  split at hset
  · rw [Option.some.inj hset]
  · rw [← Option.some.inj hset]
    exact hkeeps _ _
  · cases hset

theorem setRackAware_keeps {β : Type} {f : AsConfig → β} {z : Option Zval}
    {config config' : AsConfig} (hset : setRackAware z config = some config')
    (hkeeps : ∀ config b, f { config with rackAware := b } = f config) :
    f config' = f config := by
  unfold setRackAware at hset
  split at hset
  · rw [Option.some.inj hset]
  · rw [← Option.some.inj hset]
    exact hkeeps _ _
  · cases hset

/-- Of the policies, the config array has the compression threshold only. -/
theorem setAsConfig_policies {config config' : AsConfig}
    (hset : setAsConfig lib ini zConfig config = some config') :
    config'.policies = { config.policies with
      write.compressionThreshold :=
        entryOr (longOf (zConfig.strFind "compression_threshold"))
          (toUint32 ini.compressionThreshold) } := by
  simp only [setAsConfig, bind, Option.bind_eq_some_iff] at hset
  obtain ⟨c₁, hshm, c₂, huser, c₃, hthreads, c₄, hpool, c₅, hthreshold, c₆,
    htender, c₇, hname, c₈, hrack, hrackId⟩ := hset
  have hbefore : c₄.policies = (setAsConfigFromIni ini config).policies := by
    rw [setLong_keeps (f := AsConfig.policies) hpool fun _ _ => rfl,
      setLong_keeps (f := AsConfig.policies) hthreads fun _ _ => rfl,
      setUserFromHash_keeps (f := AsConfig.policies) huser fun _ _ _ => rfl]
    have hpolicies := setShmFromHash_policies hshm
    split <;> exact hpolicies
  have hafter : config'.policies = c₅.policies := by
    rw [setLong_keeps (f := AsConfig.policies) hrackId fun _ _ => rfl,
      setRackAware_keeps (f := AsConfig.policies) hrack fun _ _ => rfl,
      setClusterName_keeps (f := AsConfig.policies) hname fun _ _ => rfl,
      setLong_keeps (f := AsConfig.policies) htender fun _ _ => rfl]
  rw [hafter, setLong_eq hthreshold]
  cases longOf (zConfig.strFind "compression_threshold") with
  | none => exact hbefore
  | some n =>
      show { c₄.policies with write.compressionThreshold := toUint32 n } = _
      rw [hbefore]
      rfl

/-- The policies of a new client before the options are read. -/
def basePolicies (engine : Engine) (lib : ClientLibrary) (ini : Ini)
    (zConfig : HashTable) : Policies :=
  { (setPolicyDefaultsFromIni ini (asConfigInit engine lib)).policies with
    write.compressionThreshold :=
      entryOr (longOf (zConfig.strFind "compression_threshold"))
        (toUint32 ini.compressionThreshold) }

theorem configure_parts
    (hconfigure : configure engine lib ini zConfig zOptions = .ok c) :
    ∃ before : Configured,
      before.config.policies = basePolicies engine lib ini zConfig ∧
      before.serializerType = toInt32 engine.iniSerializer ∧
      setPolicyDefaultsFromHash engine.rt zOptions before = some c := by
  unfold configure at hconfigure
  split at hconfigure
  · cases hconfigure
  · next zHosts hhosts =>
      cases hadd : addHostsFromZhash zHosts (asConfigInit engine lib) with
      | error message => simp [hadd, bind, Except.bind] at hconfigure
      | ok config =>
          simp only [hadd, bind, Except.bind] at hconfigure
          have hpolicies : config.policies = engine.init := by
            unfold addHostsFromZhash at hadd
            split at hadd
            · cases hadd
            · exact addHosts_policies hadd
          split at hconfigure
          · cases hconfigure
          · next config' hset =>
              split at hconfigure
              · cases hconfigure
              · next c' hdefaults =>
                  obtain rfl := Except.ok.inj hconfigure
                  refine ⟨_, ?_, rfl, hdefaults⟩
                  show config'.policies = _
                  rw [setAsConfig_policies hset]
                  unfold basePolicies setAsConfigFromIni
                    setPolicyDefaultsFromIni asConfigInit
                  simp only [hpolicies]
  · cases hconfigure

theorem basePolicies_value {family : LayeredFamily} {setting : Setting}
    (hsetting : setting ∈ family.settings) :
    family.value (basePolicies engine lib ini zConfig) setting =
      entryOr (configEntry zConfig setting <|> iniEntry ini family setting)
        (family.value engine.init setting) := by
  rw [entryOr_orElse]
  cases family <;> cases setting <;> first
    | exact absurd hsetting (by decide)
    | rfl

/-- Every field but the read mode of strong consistency follows its layers. -/
theorem configure_value
    (hconfigure : configure engine lib ini zConfig zOptions = .ok c)
    {family : LayeredFamily} {setting : Setting}
    (hsetting : setting ∈ family.settings) (hmode : setting ≠ .readModeSc) :
    family.value c.config.policies setting =
      entryOr (decidingEntry ini zConfig zOptions family setting)
        (family.value engine.init setting) := by
  obtain ⟨before, hbefore, -, hset⟩ := configure_parts hconfigure
  rw [setPolicyDefaultsFromHash_value hset hsetting hmode, hbefore,
    basePolicies_value hsetting]
  simp only [decidingEntry, entryOr_orElse]

theorem configure_readModeSc
    (hconfigure : configure engine lib ini zConfig zOptions = .ok c)
    {family : LayeredFamily} (hsetting : .readModeSc ∈ family.settings) :
    family.value c.config.policies .readModeSc =
      entryOr (subpolicyEntry zOptions family .readModeSc)
        (family.value engine.init .readModeSc) := by
  obtain ⟨before, hbefore, -, hset⟩ := configure_parts hconfigure
  rw [setPolicyDefaultsFromHash_readModeSc hset hsetting, hbefore,
    basePolicies_value hsetting]
  rfl

end

/-! ## The documented layers -/

/-- The field is the entry, or the default of the C client without one. -/
def FieldIs (value : ℕ) (entry : Option Int64) (default : ℕ) : Prop :=
  match entry with
  | some n => (value : ℤ) = n.toInt
  | none => value = default

/-- An integer that a field of 32 bits can hold. -/
def Fits (n : Int64) : Prop := 0 ≤ n.toInt ∧ n.toInt < 2 ^ 32

instance (n : Int64) : Decidable (Fits n) :=
  inferInstanceAs (Decidable (_ ∧ _))

/-- Options that differ in the default policy of one family at most. -/
def SameBut (family : PolicyFamily) (zOptions zOptions' : Option HashTable) :
    Prop :=
  ∀ key, key ≠ .idx family.defaultPol →
    HashTable.find (zOptions.getD []) key = HashTable.find (zOptions'.getD []) key

section

variable (engine : Engine) (lib : ClientLibrary) (ini : Ini)
variable (zConfig : HashTable) (zOptions : Option HashTable)

/-- The layers decide as documented, and the default policy of a family is of
no concern to the others. -/
def ConfigLayered (policies : Policies) : Prop :=
  (∀ (family : LayeredFamily), ∀ setting ∈ family.settings,
    FieldIs (family.value policies setting)
      (decidingEntry ini zConfig zOptions family setting)
      (family.value engine.init setting)) ∧
  ∀ family zOptions' c', SameBut family zOptions zOptions' →
    configure engine lib ini zConfig zOptions' = .ok c' →
    ∀ other ≠ family,
      PolicyFamily.get c'.config.policies other =
        PolicyFamily.get policies other

/-- What the deciding entry has to be.  The read mode of strong consistency has
no layer between the default policy and the C client. -/
def DecidesRightly (family : LayeredFamily) (setting : Setting) (n : Int64) :
    Prop :=
  if setting = .readModeSc ∧ subpolicyEntry zOptions family setting = none then
    (family.value engine.init setting : ℤ) = n.toInt
  else Fits n

end

section

variable {engine : Engine} {lib : ClientLibrary} {ini : Ini}
variable {zConfig : HashTable} {zOptions : Option HashTable} {c : Configured}

theorem fieldIs_entryOr_iff (entry : Option Int64) (default : ℕ) :
    FieldIs (entryOr entry default) entry default ↔ ∀ n, entry = some n → Fits n := by
  cases entry with
  | none => simp [FieldIs, entryOr]
  | some n =>
      have hfits : (toUint32 n : ℤ) = n.toInt ↔ Fits n := toUint32_eq_iff n
      simp [FieldIs, entryOr, hfits]

theorem configure_fieldIs_iff
    (hconfigure : configure engine lib ini zConfig zOptions = .ok c)
    {family : LayeredFamily} {setting : Setting}
    (hsetting : setting ∈ family.settings) :
    FieldIs (family.value c.config.policies setting)
        (decidingEntry ini zConfig zOptions family setting)
        (family.value engine.init setting) ↔
      ∀ n, decidingEntry ini zConfig zOptions family setting = some n →
        DecidesRightly engine zOptions family setting n := by
  unfold DecidesRightly
  by_cases hmode : setting = .readModeSc
  · subst hmode
    rw [configure_readModeSc hconfigure hsetting]
    cases hsub : subpolicyEntry zOptions family .readModeSc with
    | none =>
        generalize decidingEntry ini zConfig zOptions family .readModeSc = entry
        cases entry with
        | none => simp [FieldIs, entryOr]
        | some n => simp [FieldIs, entryOr]
    | some m =>
        have hdecides : decidingEntry ini zConfig zOptions family .readModeSc =
            some m := by
          rw [decidingEntry, hsub]
          rfl
        rw [hdecides, fieldIs_entryOr_iff]
        simp
  · simp only [hmode, false_and, if_false]
    rw [configure_value hconfigure hsetting hmode]
    exact fieldIs_entryOr_iff _ _

/-- The global options do not look at any other entry. -/
theorem setGlobals_congr {options options' : HashTable}
    {globals : List GlobalOption} {c c' d d' : Configured}
    (hset : globals.foldlM (fun c option =>
      setGlobal options option.index option.set c) c = some c')
    (hset' : globals.foldlM (fun c option =>
      setGlobal options' option.index option.set c) d = some d')
    (hsame : ∀ option ∈ globals,
      options.indexFind option.index = options'.indexFind option.index)
    (hpolicies : c.config.policies = d.config.policies) :
    c'.config.policies = d'.config.policies := by
  induction globals generalizing c d with
  | nil =>
      obtain rfl := Option.some.inj hset
      obtain rfl := Option.some.inj hset'
      exact hpolicies
  | cons option globals ih =>
      rw [List.foldlM_cons] at hset hset'
      obtain ⟨e, hfirst, hrest⟩ := Option.bind_eq_some_iff.mp hset
      obtain ⟨e', hfirst', hrest'⟩ := Option.bind_eq_some_iff.mp hset'
      apply ih hrest hrest' fun other hmem =>
        hsame other (List.mem_cons_of_mem _ hmem)
      rw [setLong_eq hfirst, setLong_eq hfirst',
        hsame option List.mem_cons_self]
      cases longOf (options'.indexFind option.index) with
      | none => exact hpolicies
      | some n =>
          show option.set _ c.config.policies = option.set _ d.config.policies
          rw [hpolicies]

/-- Up to the default policies, options that differ in one of these only come to
the same policies. -/
theorem configure_before_subpolicies
    (hconfigure : configure engine lib ini zConfig zOptions = .ok c)
    {family : PolicyFamily} {zOptions' : Option HashTable}
    {c' : Configured} (hsame : SameBut family zOptions zOptions')
    (hconfigure' : configure engine lib ini zConfig zOptions' = .ok c') :
    ∃ after after' : Configured,
      after'.config.policies = after.config.policies ∧
      setSubpoliciesFromHash (zOptions.getD []) after = some c ∧
      setSubpoliciesFromHash (zOptions'.getD []) after' = some c' := by
  obtain ⟨start, hstart, -, hset⟩ := configure_parts hconfigure
  obtain ⟨start', hstart', -, hset'⟩ := configure_parts hconfigure'
  obtain ⟨before, after, hbefore, ⟨globals, hglobals, hafter⟩, hsub⟩ :=
    setPolicyDefaultsFromHash_parts hset
  obtain ⟨before', after', hbefore', ⟨globals', hglobals', hafter'⟩, hsub'⟩ :=
    setPolicyDefaultsFromHash_parts hset'
  have hindices : ∀ option ∈ globalOptions,
      HashTable.indexFind (zOptions'.getD []) option.index =
        HashTable.indexFind (zOptions.getD []) option.index := by
    intro option hoption
    have hdiffers : ZKey.idx option.index ≠ .idx family.defaultPol := by
      simp only [globalOptions, List.mem_cons, List.not_mem_nil,
        or_false] at hoption
      cases family <;> rcases hoption with rfl | rfl | rfl | rfl | rfl | rfl |
        rfl | rfl | rfl | rfl <;> decide
    exact (hsame _ hdiffers).symm
  have hpolicies : before'.config.policies = before.config.policies := by
    rw [hbefore', hbefore, hstart', hstart]
  refine ⟨after, after', ?_, hsub, hsub'⟩
  rw [hafter', hafter, setGlobals_congr hglobals' hglobals hindices hpolicies]

theorem configure_others
    (hconfigure : configure engine lib ini zConfig zOptions = .ok c)
    {family other : PolicyFamily} {zOptions' : Option HashTable}
    {c' : Configured} (hsame : SameBut family zOptions zOptions')
    (hconfigure' : configure engine lib ini zConfig zOptions' = .ok c')
    (hne : other ≠ family) :
    PolicyFamily.get c'.config.policies other =
      PolicyFamily.get c.config.policies other := by
  obtain ⟨after, after', hafter, hsub, hsub'⟩ :=
    configure_before_subpolicies hconfigure hsame hconfigure'
  have hkey : ZKey.idx other.defaultPol ≠ .idx family.defaultPol := by
    intro hkeys
    apply hne
    revert hkeys
    cases other <;> cases family <;> decide
  have hsubpolicy : subpolicy (zOptions'.getD []) other =
      subpolicy (zOptions.getD []) other := by
    unfold subpolicy HashTable.indexFind
    rw [hsame _ hkey]
  rw [setSubpoliciesFromHash_get hsub', setSubpoliciesFromHash_get hsub, hafter]
  unfold PolicyFamily.withDefault
  rw [hsubpolicy]

/-- The default policy of a family is read over the policy that the client has
without it. -/
theorem configure_default
    (hconfigure : configure engine lib ini zConfig zOptions = .ok c)
    {family : PolicyFamily} {zOptions' : Option HashTable}
    {c' : Configured} (hsame : SameBut family zOptions zOptions')
    (hconfigure' : configure engine lib ini zConfig zOptions' = .ok c')
    {options : HashTable}
    (hwith : subpolicy (zOptions.getD []) family = some options)
    (hwithout : subpolicy (zOptions'.getD []) family = none) :
    family.get c.config.policies =
      family.setRecord options (family.get c'.config.policies) := by
  obtain ⟨after, after', hafter, hsub, hsub'⟩ :=
    configure_before_subpolicies hconfigure hsame hconfigure'
  rw [setSubpoliciesFromHash_get hsub', setSubpoliciesFromHash_get hsub, hafter]
  unfold PolicyFamily.withDefault
  rw [hwith, hwithout]

end

/-- An accepted configuration follows the documented layers exactly when every
entry that decides a field fits into it and no global option for the read mode
of strong consistency is passed over. -/
theorem configure_layered_iff (engine : Engine) (lib : ClientLibrary)
    (ini : Ini) (zConfig : HashTable) (zOptions : Option HashTable)
    (c : Configured)
    (hconfigure : configure engine lib ini zConfig zOptions = .ok c) :
    ConfigLayered engine lib ini zConfig zOptions c.config.policies ↔
      ∀ (family : LayeredFamily), ∀ setting ∈ family.settings, ∀ n,
        decidingEntry ini zConfig zOptions family setting = some n →
        DecidesRightly engine zOptions family setting n := by
  constructor
  · intro hlayered family setting hsetting
    exact (configure_fieldIs_iff hconfigure hsetting).mp
      (hlayered.1 family setting hsetting)
  · intro hdecides
    refine ⟨fun family setting hsetting => ?_, ?_⟩
    · exact (configure_fieldIs_iff hconfigure hsetting).mpr
        (hdecides family setting hsetting)
    · intro family zOptions' c' hsame hconfigure' other hne
      exact configure_others hconfigure hsame hconfigure' hne

/-- The INI settings as the extension registers them. -/
def Ini.registered : Ini where
  connectTimeout := 1000
  readTimeout := 1000
  writeTimeout := 1000
  keyPolicy := 0
  keyGen := 0
  compressionThreshold := 0
  luaUserPath := some "/usr/local/aerospike/usr-lua"
  shmUse := false
  shmKey := 0xA8000000
  shmMaxNodes := 16
  shmMaxNamespaces := 8
  shmTakeoverThresholdSec := 30
  threadPoolSize := 16
  maxThreads := 300

def ClientLibrary.plain : ClientLibrary := ⟨default, fun _ _ => true⟩

/-- The config array with one host. -/
def oneHost : HashTable :=
  [(.str "hosts", .array (HashTable.ofValues [.array
    [(.str "addr", .string "127.0.0.1"), (.str "port", .long 3000)]]))]

theorem configure_layered_iff_oneHost :
    ∃ c, configure Engine.plain .plain .registered oneHost none = .ok c ∧
      (ConfigLayered Engine.plain .plain .registered oneHost none
          c.config.policies ↔
        ∀ (family : LayeredFamily), ∀ setting ∈ family.settings, ∀ n,
          decidingEntry .registered oneHost none family setting = some n →
          DecidesRightly Engine.plain none family setting n) :=
  ⟨_, rfl, configure_layered_iff Engine.plain .plain .registered oneHost none _
    rfl⟩

/-- A linearised read mode among the global options is accepted and lost. -/
theorem readModeSc_not_layered :
    ∃ c, configure Engine.plain .plain .registered oneHost
        (some [(.idx optPolicyReadModeSc, .long 1)]) = .ok c ∧
      ¬ ConfigLayered Engine.plain .plain .registered oneHost
        (some [(.idx optPolicyReadModeSc, .long 1)]) c.config.policies := by
  refine ⟨_, rfl, fun hlayered => ?_⟩
  have hfield := hlayered.1 .read .readModeSc (by decide)
  have hzero : (0 : ℤ) = 1 := hfield
  omega

end AerospikePhp
