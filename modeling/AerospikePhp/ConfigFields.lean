import AerospikePhp.ConfigLayers
import Mathlib.Tactic

/-!
# Hosts, connect timeout and shared memory key

The fields of a new configuration that are not in its policies: the hosts with
their ports, the connect timeout and the shared memory key.
-/

namespace AerospikePhp

/-- The port of an entry of the list of hosts. -/
def portOf : Zval → Option Int64
  | .array entry => longOf (HashTable.strFind entry "port")
  | _ => none

theorem addHosts_ports {zHosts : List Zval} {config config' : AsConfig}
    (hadd : addHosts zHosts config = .ok config') :
    ∃ ports : List Int64, zHosts.map portOf = ports.map some ∧
      config'.hosts.map AsHost.port =
        config.hosts.map AsHost.port ++ ports.map toUint16 := by
  induction zHosts generalizing config with
  | nil =>
      obtain rfl := Except.ok.inj hadd
      exact ⟨[], rfl, by simp⟩
  | cons z zHosts ih =>
      cases z with
      | array entry =>
          rw [addHosts] at hadd
          split at hadd
          · cases hadd
          · split at hadd
            · next zName zPort hname hport =>
                split at hadd
                · cases hadd
                · split at hadd
                  · split at hadd
                    · next port =>
                        obtain ⟨ports, hports, hsent⟩ := ih hadd
                        refine ⟨port :: ports, ?_, ?_⟩
                        · simp [hports, portOf, hport, longOf]
                        · simp [hsent]
                    · cases hadd
                  · cases hadd
            · cases hadd
      | undef | null | bool _ | long _ | double _ | string _ | object _ _
      | resource | reference _ => simp [addHosts] at hadd

/-- The fields next to the policies. -/
def AsConfig.fields (config : AsConfig) : List AsHost × ℕ × ℤ :=
  (config.hosts, config.connTimeoutMs, config.shmKey)

theorem setShmFromHash_fields {z : Option Zval} {config config' : AsConfig}
    (hset : setShmFromHash z config = some config')
    (hkey : ∃ n, config.shmKey = toInt32 n) :
    ∃ n, config'.fields = (config.hosts, config.connTimeoutMs, toInt32 n) := by
  obtain ⟨n, hkey⟩ := hkey
  unfold setShmFromHash at hset
  split at hset
  · obtain rfl := Option.some.inj hset
    exact ⟨n, by rw [AsConfig.fields, hkey]⟩
  · simp only [bind, Option.bind_eq_some_iff] at hset
    obtain ⟨c₁, hshm, c₂, hnodes, c₃, hnamespaces, htakeover⟩ := hset
    have hrest : config'.fields = c₁.fields := by
      rw [setLong_keeps (f := AsConfig.fields) htakeover fun _ _ => rfl,
        setLong_keeps (f := AsConfig.fields) hnamespaces fun _ _ => rfl,
        setLong_keeps (f := AsConfig.fields) hnodes fun _ _ => rfl]
    rw [hrest, setLong_eq hshm]
    split
    · next m _ => exact ⟨m, rfl⟩
    · refine ⟨n, ?_⟩
      rw [AsConfig.fields, ← hkey]
  · cases hset

section

variable {engine : Engine} {lib : ClientLibrary} {ini : Ini}
variable {zConfig : HashTable} {zOptions : Option HashTable} {c : Configured}

theorem setAsConfig_fields {config config' : AsConfig}
    (hset : setAsConfig lib ini zConfig config = some config') :
    ∃ n, config'.fields = (config.hosts, config.connTimeoutMs, toInt32 n) := by
  simp only [setAsConfig, bind, Option.bind_eq_some_iff] at hset
  obtain ⟨c₁, hshm, c₂, huser, c₃, hthreads, c₄, hpool, c₅, hthreshold, c₆,
    htender, c₇, hname, c₈, hrack, hrackId⟩ := hset
  obtain ⟨n, hfields⟩ := setShmFromHash_fields hshm ⟨ini.shmKey, rfl⟩
  refine ⟨n, ?_⟩
  rw [setLong_keeps (f := AsConfig.fields) hrackId fun _ _ => rfl,
    setRackAware_keeps (f := AsConfig.fields) hrack fun _ _ => rfl,
    setClusterName_keeps (f := AsConfig.fields) hname fun _ _ => rfl,
    setLong_keeps (f := AsConfig.fields) htender fun _ _ => rfl,
    setLong_keeps (f := AsConfig.fields) hthreshold fun _ _ => rfl,
    setLong_keeps (f := AsConfig.fields) hpool fun _ _ => rfl,
    setLong_keeps (f := AsConfig.fields) hthreads fun _ _ => rfl,
    setUserFromHash_keeps (f := AsConfig.fields) huser fun _ _ _ => rfl]
  split <;> exact hfields

/-- Of the options, only the connect timeout is about these fields. -/
theorem setPolicyDefaultsFromHash_fields {rt : Runtime} {c c' : Configured}
    (hset : setPolicyDefaultsFromHash rt zOptions c = some c') :
    c'.config.fields =
      (c.config.hosts,
        entryOr (longOf ((zOptions.getD []).indexFind optConnectTimeout))
          c.config.connTimeoutMs,
        c.config.shmKey) := by
  cases zOptions with
  | none =>
      obtain rfl := Option.some.inj hset
      rfl
  | some options =>
      obtain ⟨connected, alternated, between, hconnect, hservices, hbetween,
        hafter⟩ := setPolicyDefaultsFromHash_outside
          (f := fun c => c.config.fields) (fun _ _ => rfl) hset
      have halternated : alternated.config.fields = connected.config.fields := by
        unfold setUseServicesAlternate at hservices
        split at hservices
        · rw [Option.some.inj hservices]
        · rw [← Option.some.inj hservices]
          rfl
        · cases hservices
      have hserializer : c'.config.fields = between.config.fields := by
        rw [hafter]
        split <;> rfl
      rw [hserializer, hbetween, halternated, setLong_eq hconnect]
      show _ = (_, entryOr (longOf (options.indexFind optConnectTimeout)) _, _)
      cases longOf (options.indexFind optConnectTimeout) <;> rfl

theorem configure_fields
    (hconfigure : configure engine lib ini zConfig zOptions = .ok c) :
    ∃ zHosts config n,
      zConfig.strFind "hosts" = some (.array zHosts) ∧
      addHosts (HashTable.values zHosts) (asConfigInit engine lib) = .ok config ∧
      c.config.fields =
        (config.hosts,
          entryOr (longOf ((zOptions.getD []).indexFind optConnectTimeout))
            (toUint32 ini.connectTimeout),
          toInt32 n) := by
  unfold configure at hconfigure
  split at hconfigure
  · cases hconfigure
  · next zHosts hhosts =>
      cases hadd : addHostsFromZhash zHosts (asConfigInit engine lib) with
      | error message => simp [hadd, bind, Except.bind] at hconfigure
      | ok config =>
          simp only [hadd, bind, Except.bind] at hconfigure
          have hadded : addHosts (HashTable.values zHosts)
              (asConfigInit engine lib) = .ok config := by
            unfold addHostsFromZhash at hadd
            split at hadd
            · cases hadd
            · exact hadd
          split at hconfigure
          · cases hconfigure
          · next config' hset =>
              obtain ⟨n, hfields⟩ := setAsConfig_fields hset
              split at hconfigure
              · cases hconfigure
              · next c' hdefaults =>
                  obtain rfl := Except.ok.inj hconfigure
                  refine ⟨zHosts, config, n, hhosts, hadded, ?_⟩
                  rw [setPolicyDefaultsFromHash_fields hdefaults]
                  simp only [AsConfig.fields, Prod.mk.injEq] at hfields
                  simp only [hfields.1, hfields.2.1, hfields.2.2]
                  rfl
  · cases hconfigure

end

end AerospikePhp
