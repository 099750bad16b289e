import AerospikePhp.ConfigFields
import AerospikePhp.IntegerOptions
import Mathlib.Tactic

/-!
# Integers for the constructor

The timeouts, retries, sleeps, limits and ports that the constructor is given,
and the fields of the configuration that it makes of them.
-/

namespace AerospikePhp

namespace PolicyFamily

def integer : (family : PolicyFamily) → family.Record → PolicyInteger → Option ℕ
  | .read, policy => policy.base.integer
  | .write, policy => policy.base.integer
  | .remove, policy => policy.base.integer
  | .batch, policy => policy.base.integer
  | .operate, policy => policy.base.integer
  | .query, policy => policy.base.integer
  | .scan, policy => policy.integer
  | .apply, policy => policy.base.integer

/-- The global options that write the field, in the order in which they are
read. -/
def integerGlobals (family : PolicyFamily) : PolicyInteger → List Int64
  | .totalTimeout =>
      match family with
      | .read | .batch => [optReadTimeout, optTotalTimeout]
      | .write | .remove | .operate | .apply => [optWriteTimeout, optTotalTimeout]
      | .query | .scan => []
  | .socketTimeout =>
      match family with
      | .query | .scan => []
      | _ => [optSocketTimeout]
  | .maxRetries => [optMaxRetries]
  | .sleepBetweenRetries | .recordsPerSecond => []

/-- Only scans have a limit of records per second. -/
def HasInteger (family : PolicyFamily) (field : PolicyInteger) : Prop :=
  field = .recordsPerSecond → family = .scan

end PolicyFamily

section

variable (options : HashTable)

/-- The integer that the options give for a field of a default policy: in the
default policy itself, or else in a global option. -/
def configuredInteger (family : PolicyFamily) (field : PolicyInteger) :
    Option Int64 :=
  ((subpolicy options family).bind fun sub =>
      longOf (HashTable.find sub field.key)) <|>
    lastGlobal options (family.integerGlobals field)

end

section

variable {options : HashTable} {family : PolicyFamily} {field : PolicyInteger}

theorem setRecord_integer (sub : HashTable) (record : family.Record) :
    family.integer (family.setRecord sub record) field =
      (family.integer record field).map
        (entryOr (longOf (HashTable.find sub field.key))) := by
  cases family <;> cases field <;> first
    | exact congrArg some (setUint32FromHashIndex_eq _ _ _)
    | exact congrArg some (setUint32FromHashKey_eq _ _ _)
    | rfl

theorem withDefault_integer (record : family.Record) :
    family.integer (family.withDefault options record) field =
      (family.integer record field).map (entryOr
        ((subpolicy options family).bind fun sub =>
          longOf (HashTable.find sub field.key))) := by
  unfold PolicyFamily.withDefault
  cases subpolicy options family with
  | none =>
      show _ = (family.integer record field).map id
      rw [Option.map_id, id]
  | some sub => exact setRecord_integer sub record

theorem globalOptions_integer :
    ∀ option ∈ globalOptions, ∀ n policies,
      (family.integer (family.get (option.set n policies)) field).getD 0 =
        if option.index ∈ family.integerGlobals field then n
        else (family.integer (family.get policies) field).getD 0 := by
  intro option hoption n policies
  simp only [globalOptions, List.mem_cons, List.not_mem_nil, or_false] at hoption
  cases family <;> cases field <;>
    rcases hoption with rfl | rfl | rfl | rfl | rfl | rfl | rfl | rfl | rfl |
      rfl <;> rfl

/-- The default policies of the families leave the info policy alone. -/
theorem setSubpoliciesFromHash_info {c c' : Configured}
    (hset : setSubpoliciesFromHash options c = some c') :
    c'.config.policies.info = c.config.policies.info := by
  have hone : ∀ {family : PolicyFamily} {c c' : Configured},
      setSubpolicy options family c = some c' →
      c'.config.policies.info = c.config.policies.info := by
    intro family c c' hset
    unfold setSubpolicy at hset
    split at hset
    · rw [← Option.some.inj hset]
    · rw [← Option.some.inj hset]
      cases family <;> rfl
    · cases hset
  simp only [setSubpoliciesFromHash, bind, Option.bind_eq_some_iff] at hset
  obtain ⟨c₁, hread, c₂, hwrite, c₃, hremove, c₄, hbatch, c₅, hoperate, c₆,
    hquery, c₇, hscan, happly⟩ := hset
  rw [hone happly, hone hscan, hone hquery, hone hoperate, hone hbatch,
    hone hremove, hone hwrite, hone hread]

theorem integerGlobals_filter (family : PolicyFamily) (field : PolicyInteger) :
    (globalOptions.map GlobalOption.index).filter
      (· ∈ family.integerGlobals field) = family.integerGlobals field := by
  cases family <;> cases field <;> decide

/-- The timeout of the info policy is that of the reads. -/
theorem globalOptions_infoTimeout :
    ∀ option ∈ globalOptions, ∀ n (policies : Policies),
      (option.set n policies).info.timeout =
        if option.index ∈ [optReadTimeout, optTotalTimeout] then n
        else policies.info.timeout := by
  intro option hoption n policies
  simp only [globalOptions, List.mem_cons, List.not_mem_nil, or_false] at hoption
  rcases hoption with rfl | rfl | rfl | rfl | rfl | rfl | rfl | rfl | rfl | rfl <;>
    rfl

end

/-! ## The constructor -/

section

variable {engine : Engine} {lib : ClientLibrary} {ini : Ini}
variable {zConfig : HashTable} {zOptions : Option HashTable} {c : Configured}

theorem configure_integer
    (hconfigure : configure engine lib ini zConfig zOptions = .ok c)
    {family : PolicyFamily} {field : PolicyInteger} {n : Int64}
    (hfield : (family.integer (family.get c.config.policies) field).isSome)
    (hgiven : configuredInteger (zOptions.getD []) family field = some n) :
    family.integer (family.get c.config.policies) field = some (toUint32 n) := by
  obtain ⟨before, -, -, hset⟩ := configure_parts hconfigure
  obtain ⟨before', after, -, ⟨globals, hglobals, hafter⟩, hsub⟩ :=
    setPolicyDefaultsFromHash_parts hset
  have hget := setSubpoliciesFromHash_get hsub family
  have hwritten := @setGlobals_value (zOptions.getD []) globalOptions before'
    globals (fun policies =>
      (family.integer (family.get policies) field).getD 0)
    (family.integerGlobals field) hglobals globalOptions_integer
  rw [integerGlobals_filter] at hwritten
  rw [hget, withDefault_integer, hafter] at hfield ⊢
  rw [Option.isSome_map] at hfield
  obtain ⟨value, hvalue⟩ := Option.isSome_iff_exists.mp hfield
  rw [hvalue, Option.getD_some] at hwritten
  rw [hvalue, Option.map_some, entryOr_of_first hgiven]
  intro hglobal
  rw [hwritten, hglobal]
  rfl

end

/-- The integers that the constructor is given are those of the
configuration. -/
structure KeepsConfigIntegers (zConfig options : HashTable) (config : AsConfig) :
    Prop where
  policies : ∀ family field n, PolicyFamily.HasInteger family field →
    configuredInteger options family field = some n →
      ∃ v, family.integer (family.get config.policies) field = some v ∧
        (v : ℤ) = n.toInt
  info : ∀ n, lastGlobal options [optReadTimeout, optTotalTimeout] = some n →
    (config.policies.info.timeout : ℤ) = n.toInt
  connect : ∀ n, longOf (options.indexFind optConnectTimeout) = some n →
    (config.connTimeoutMs : ℤ) = n.toInt
  ports : ∀ zHosts, zConfig.strFind "hosts" = some (.array zHosts) →
    List.Forall₂ (fun z host => ∃ port, portOf z = some port ∧
      (host.port : ℤ) = port.toInt) (HashTable.values zHosts) config.hosts

/-- An integer that a port can hold. -/
def FitsPort (n : Int64) : Prop := 0 ≤ n.toInt ∧ n.toInt < 2 ^ 16

/-- The integers that the constructor is given fit their fields. -/
structure ConfigIntegersFit (zConfig options : HashTable) : Prop where
  policies : ∀ family field n, PolicyFamily.HasInteger family field →
    configuredInteger options family field = some n → Fits n
  info : ∀ n, lastGlobal options [optReadTimeout, optTotalTimeout] = some n →
    Fits n
  connect : ∀ n, longOf (options.indexFind optConnectTimeout) = some n → Fits n
  ports : ∀ zHosts, zConfig.strFind "hosts" = some (.array zHosts) →
    ∀ z ∈ HashTable.values zHosts, ∀ port, portOf z = some port → FitsPort port

section

variable {engine : Engine} {lib : ClientLibrary} {ini : Ini}
variable {zConfig : HashTable} {zOptions : Option HashTable} {c : Configured}

theorem integer_isSome {family : PolicyFamily} {field : PolicyInteger}
    (hfield : family.HasInteger field) (record : family.Record) :
    (family.integer record field).isSome := by
  cases family <;> cases field <;> first
    | rfl
    | exact absurd (hfield rfl) (by decide)

theorem configure_infoTimeout
    (hconfigure : configure engine lib ini zConfig zOptions = .ok c) {n : Int64}
    (hgiven : lastGlobal (zOptions.getD []) [optReadTimeout, optTotalTimeout] =
      some n) :
    c.config.policies.info.timeout = toUint32 n := by
  obtain ⟨before, -, -, hset⟩ := configure_parts hconfigure
  obtain ⟨before', after, -, ⟨globals, hglobals, hafter⟩, hsub⟩ :=
    setPolicyDefaultsFromHash_parts hset
  have hwritten := @setGlobals_value (zOptions.getD []) globalOptions before'
    globals (fun policies => policies.info.timeout)
    [optReadTimeout, optTotalTimeout] hglobals globalOptions_infoTimeout
  have hfilter : (globalOptions.map GlobalOption.index).filter
      (· ∈ [optReadTimeout, optTotalTimeout]) =
        [optReadTimeout, optTotalTimeout] := by
    decide
  rw [hfilter, hgiven] at hwritten
  rw [setSubpoliciesFromHash_info hsub, hafter, hwritten]
  rfl

theorem ports_kept_iff {zHosts : List Zval} {hosts : List AsHost}
    {ports : List Int64} (hports : zHosts.map portOf = ports.map some)
    (hsent : hosts.map AsHost.port = ports.map toUint16) :
    List.Forall₂ (fun z host => ∃ port, portOf z = some port ∧
        (host.port : ℤ) = port.toInt) zHosts hosts ↔
      ∀ z ∈ zHosts, ∀ port, portOf z = some port → FitsPort port := by
  induction ports generalizing zHosts hosts with
  | nil =>
      obtain rfl := List.map_eq_nil_iff.mp hports
      obtain rfl := List.map_eq_nil_iff.mp hsent
      simp
  | cons port ports ih =>
      obtain ⟨z, zHosts, rfl, hport, hports⟩ := List.map_eq_cons_iff.mp hports
      obtain ⟨host, hosts, rfl, hfirst, hsent⟩ := List.map_eq_cons_iff.mp hsent
      rw [List.forall₂_cons, ih hports hsent, List.forall_mem_cons, hport, hfirst]
      have hfits : (toUint16 port : ℤ) = port.toInt ↔ FitsPort port :=
        toUint16_eq_iff port
      simp [hfits]

/-- Every integer arrives exactly when each fits.  A new configuration has no
hosts. -/
theorem configure_keeps_iff (hinit : lib.configInit.hosts = [])
    (hconfigure : configure engine lib ini zConfig zOptions = .ok c) :
    KeepsConfigIntegers zConfig (zOptions.getD []) c.config ↔
      ConfigIntegersFit zConfig (zOptions.getD []) := by
  have hpolicies : ∀ family field n, PolicyFamily.HasInteger family field →
      configuredInteger (zOptions.getD []) family field = some n →
      ((∃ v, family.integer (family.get c.config.policies) field = some v ∧
        (v : ℤ) = n.toInt) ↔ Fits n) := by
    intro family field n hfield hgiven
    rw [configure_integer hconfigure (integer_isSome hfield _) hgiven]
    simp only [Option.some.injEq, exists_eq_left']
    exact toUint32_eq_iff n
  have hinfo : ∀ n,
      lastGlobal (zOptions.getD []) [optReadTimeout, optTotalTimeout] = some n →
      ((c.config.policies.info.timeout : ℤ) = n.toInt ↔ Fits n) := by
    intro n hgiven
    rw [configure_infoTimeout hconfigure hgiven]
    exact toUint32_eq_iff n
  obtain ⟨zHosts, config, shmKey, hhosts, hadd, hfields⟩ :=
    configure_fields hconfigure
  simp only [AsConfig.fields, Prod.mk.injEq] at hfields
  obtain ⟨hsame, hconnectTimeout, -⟩ := hfields
  have hconnect : ∀ n,
      longOf ((zOptions.getD []).indexFind optConnectTimeout) = some n →
      ((c.config.connTimeoutMs : ℤ) = n.toInt ↔ Fits n) := by
    intro n hgiven
    rw [hconnectTimeout, hgiven]
    exact toUint32_eq_iff n
  obtain ⟨ports, hports, hsent⟩ := addHosts_ports hadd
  have hsent' : c.config.hosts.map AsHost.port = ports.map toUint16 := by
    rw [hsame]
    simpa [asConfigInit, hinit] using hsent
  have hkept := ports_kept_iff hports hsent'
  constructor
  · intro hkeeps
    refine ⟨fun family field n hfield hgiven => ?_, fun n hgiven => ?_,
      fun n hgiven => ?_, fun zHosts' hhosts' => ?_⟩
    · exact (hpolicies family field n hfield hgiven).mp
        (hkeeps.policies family field n hfield hgiven)
    · exact (hinfo n hgiven).mp (hkeeps.info n hgiven)
    · exact (hconnect n hgiven).mp (hkeeps.connect n hgiven)
    · obtain rfl := Zval.array.inj (Option.some.inj (hhosts.symm.trans hhosts'))
      exact hkept.mp (hkeeps.ports zHosts hhosts)
  · intro hfit
    refine ⟨fun family field n hfield hgiven => ?_, fun n hgiven => ?_,
      fun n hgiven => ?_, fun zHosts' hhosts' => ?_⟩
    · exact (hpolicies family field n hfield hgiven).mpr
        (hfit.policies family field n hfield hgiven)
    · exact (hinfo n hgiven).mpr (hfit.info n hgiven)
    · exact (hconnect n hgiven).mpr (hfit.connect n hgiven)
    · obtain rfl := Zval.array.inj (Option.some.inj (hhosts.symm.trans hhosts'))
      exact hkept.mpr (hfit.ports zHosts hhosts)

end

end AerospikePhp
