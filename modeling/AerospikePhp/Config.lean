import AerospikePhp.Method
import Mathlib.Tactic

/-!
# The configuration of a client

How the constructor builds an `as_config`: the defaults of the C client, the
INI settings, the config array, the global options and at last the default
policy of each family.  `none` and the error results stand for the exceptions
that the constructor throws.
-/

namespace AerospikePhp

/-! ## Option keys -/

def optConnectTimeout : Int64 := 1
def useServicesAlternate : Int64 := 21
def optTlsConfig : Int64 := 34
def optTlsEnable : Int64 := 35
def optTlsCafile : Int64 := 36
def optTlsCapath : Int64 := 37
def optTlsProtocols : Int64 := 38
def optTlsCipherSuite : Int64 := 39
def optTlsCrlCheck : Int64 := 40
def optTlsCrlCheckAll : Int64 := 41
def optTlsCertBlacklist : Int64 := 42
def optTlsLogSessionInfo : Int64 := 43
def optTlsKeyfile : Int64 := 44
def optTlsCertfile : Int64 := 45
def optReadDefaultPol : Int64 := 46
def optWriteDefaultPol : Int64 := 47
def optRemoveDefaultPol : Int64 := 48
def optBatchDefaultPol : Int64 := 49
def optOperateDefaultPol : Int64 := 50
def optQueryDefaultPol : Int64 := 51
def optScanDefaultPol : Int64 := 52
def optApplyDefaultPol : Int64 := 53

/-! ## The structures -/

structure AsHost where
  name : String
  tlsName : Option String
  port : ℕ
  deriving DecidableEq, Repr

structure TlsConfig where
  enable : Bool
  cafile : Option String
  capath : Option String
  protocols : Option String
  cipherSuite : Option String
  crlCheck : Bool
  crlCheckAll : Bool
  certBlacklist : Option String
  logSessionInfo : Bool
  keyfile : Option String
  certfile : Option String
  deriving DecidableEq, Repr, Inhabited

structure AsConfig where
  hosts : List AsHost
  user : String
  password : String
  clusterName : Option String
  tls : TlsConfig
  policies : Policies
  connTimeoutMs : ℕ
  useServicesAlternate : Bool
  useShm : Bool
  shmKey : ℤ
  shmMaxNodes : ℕ
  shmMaxNamespaces : ℕ
  shmTakeoverThresholdSec : ℕ
  maxConnsPerNode : ℕ
  threadPoolSize : ℕ
  tenderInterval : ℕ
  rackAware : Bool
  rackId : ℤ
  luaUserPath : String
  deriving DecidableEq, Repr, Inhabited

/-- The INI settings that the constructor reads, next to
`aerospike.serializer`. -/
structure Ini where
  connectTimeout : Int64
  readTimeout : Int64
  writeTimeout : Int64
  keyPolicy : Int64
  keyGen : Int64
  compressionThreshold : Int64
  luaUserPath : Option String
  shmUse : Bool
  shmKey : Int64
  shmMaxNodes : Int64
  shmMaxNamespaces : Int64
  shmTakeoverThresholdSec : Int64
  threadPoolSize : Int64
  maxThreads : Int64

/-- What the constructor takes from the C client. -/
structure ClientLibrary where
  /-- The result of `as_config_init`, up to the policies. -/
  configInit : AsConfig
  /-- Whether `as_config_set_user` takes the user and the password. -/
  setUser : String → String → Bool

/-- A configuration and the serializer type of the client object. -/
structure Configured where
  config : AsConfig
  serializerType : SerializerType

section

variable (engine : Engine) (lib : ClientLibrary) (ini : Ini)

def asConfigInit : AsConfig :=
  { lib.configInit with policies := engine.init }

/-! ## Hosts -/

/-- The TLS name of a host entry, if it has one; `none` when it is no string. -/
def tlsNameFromHash (entry : HashTable) : Option (Option String) :=
  if HashTable.numElements entry = 3 then
    match entry.strFind "tls_name" with
    | none => some none
    | some (.string name) => some (some (cString name))
    | some _ => none
  else some none

/-- The loop of `add_hosts_from_zhash`. -/
def addHosts : List Zval → AsConfig → Except String AsConfig
  | [], config => .ok config
  | .array entry :: zHosts, config =>
      if HashTable.numElements entry < 2 ∨ 3 < HashTable.numElements entry then
        .error "host entry must contain 2 or 3 elements"
      else
        match HashTable.strFind entry "addr",
            HashTable.strFind entry "port" with
        | some zName, some zPort =>
            match tlsNameFromHash entry with
            | none => .error "TLS name must be a string"
            | some tlsName =>
                match zName with
                | .string name =>
                    match zPort with
                    | .long port =>
                        addHosts zHosts { config with
                          hosts := config.hosts ++
                            [⟨cString name, tlsName, toUint16 port⟩] }
                    | _ => .error "port must be a number"
                | _ => .error "hostname must be a string"
        | _, _ => .error "host entry must contain the keys 'addr' and 'port'"
  | _ :: _, _ => .error "host entry must be an array"

def addHostsFromZhash (zHosts : HashTable) (config : AsConfig) :
    Except String AsConfig :=
  if HashTable.hashtableIsList zHosts = false then
    .error "Hosts entry must be an array"
  else addHosts (HashTable.values zHosts) config

/-! ## INI settings -/

def asConfigPathMaxSize : ℕ := 256

def setPolicyDefaultsFromIni (config : AsConfig) : AsConfig :=
  { config with
    connTimeoutMs := toUint32 ini.connectTimeout
    policies := { config.policies with
      read.base.totalTimeout := toUint32 ini.readTimeout
      info.timeout := toUint32 ini.readTimeout
      batch.base.totalTimeout := toUint32 ini.readTimeout
      write.base.totalTimeout := toUint32 ini.writeTimeout
      operate.base.totalTimeout := toUint32 ini.writeTimeout
      remove.base.totalTimeout := toUint32 ini.writeTimeout
      apply.base.totalTimeout := toUint32 ini.writeTimeout
      read.key := toUint32 ini.keyPolicy
      write.key := toUint32 ini.keyPolicy
      operate.key := toUint32 ini.keyPolicy
      remove.key := toUint32 ini.keyPolicy
      write.compressionThreshold := toUint32 ini.compressionThreshold
      write.gen := toUint32 ini.keyGen
      operate.gen := toUint32 ini.keyGen
      remove.gen := toUint32 ini.keyGen }
    luaUserPath :=
      match ini.luaUserPath with
      | some path =>
          if strlen path < asConfigPathMaxSize then cString path
          else config.luaUserPath
      | none => config.luaUserPath }

def setAsConfigFromIni (config : AsConfig) : AsConfig :=
  { config with
    useShm := ini.shmUse
    shmKey := toInt32 ini.shmKey
    shmMaxNamespaces := toUint32 ini.shmMaxNamespaces
    shmTakeoverThresholdSec := toUint32 ini.shmTakeoverThresholdSec
    shmMaxNodes := toUint32 ini.shmMaxNodes
    threadPoolSize := toUint32 ini.threadPoolSize
    maxConnsPerNode := toUint32 ini.maxThreads
    policies.write.compressionThreshold := toUint32 ini.compressionThreshold }

/-! ## The config array -/

/-- An entry that must be an integer when it is there. -/
def setLong {σ : Type} (z : Option Zval) (set : Int64 → σ → σ) (state : σ) :
    Option σ :=
  match z with
  | none => some state
  | some (.long n) => some (set n state)
  | some _ => none

def setShmFromHash (z : Option Zval) (config : AsConfig) : Option AsConfig :=
  match z with
  | none => some config
  | some (.array shm) => do
      let config := { config with useShm := true }
      let config ← setLong (HashTable.strFind shm "shm_key")
        (fun n config => { config with shmKey := toInt32 n }) config
      let config ← setLong (HashTable.strFind shm "shm_max_nodes")
        (fun n config => { config with shmMaxNodes := toUint32 n }) config
      let config ← setLong (HashTable.strFind shm "shm_max_namespaces")
        (fun n config => { config with shmMaxNamespaces := toUint32 n }) config
      setLong (HashTable.strFind shm "shm_takeover_threshold_sec")
        (fun n config => { config with shmTakeoverThresholdSec := toUint32 n })
        config
  | some _ => none

def setTlsString (tls : HashTable) (index : Int64) (target : Option String) :
    Option String :=
  match tls.indexFind index with
  | some (.string s) => some (cString s)
  | _ => target

def setTlsConfig (hash : HashTable) (tls : TlsConfig) : TlsConfig where
  enable := setBoolFromHashIndex hash optTlsEnable tls.enable
  cafile := setTlsString hash optTlsCafile tls.cafile
  capath := setTlsString hash optTlsCapath tls.capath
  protocols := setTlsString hash optTlsProtocols tls.protocols
  cipherSuite := setTlsString hash optTlsCipherSuite tls.cipherSuite
  crlCheck := setBoolFromHashIndex hash optTlsCrlCheck tls.crlCheck
  crlCheckAll := setBoolFromHashIndex hash optTlsCrlCheckAll tls.crlCheckAll
  certBlacklist := setTlsString hash optTlsCertBlacklist tls.certBlacklist
  logSessionInfo :=
    setBoolFromHashIndex hash optTlsLogSessionInfo tls.logSessionInfo
  keyfile := setTlsString hash optTlsKeyfile tls.keyfile
  certfile := setTlsString hash optTlsCertfile tls.certfile

/-- The user is set only together with a password. -/
def setUserFromHash (hash : HashTable) (config : AsConfig) : Option AsConfig :=
  match hash.strFind "user" with
  | none => some config
  | some (.string user) =>
      match hash.strFind "pass" with
      | none => some config
      | some (.string password) =>
          if lib.setUser (cString user) (cString password) then
            some { config with
              user := cString user
              password := cString password }
          else none
      | some _ => none
  | some _ => none

def setClusterName (z : Option Zval) (config : AsConfig) : Option AsConfig :=
  match z with
  | none => some config
  | some (.string name) =>
      some { config with clusterName := some (cString name) }
  | some _ => none

def setRackAware (z : Option Zval) (config : AsConfig) : Option AsConfig :=
  match z with
  | none => some config
  | some (.bool b) => some { config with rackAware := b }
  | some _ => none

def setAsConfig (hash : HashTable) (config : AsConfig) : Option AsConfig := do
  let config := setAsConfigFromIni ini config
  let config ← setShmFromHash (hash.strFind "shm") config
  let config :=
    match hash.indexFind optTlsConfig with
    | some (.array tls) => { config with tls := setTlsConfig tls config.tls }
    | _ => config
  let config ← setUserFromHash lib hash config
  let config ← setLong (hash.strFind "max_threads")
    (fun n config => { config with maxConnsPerNode := toUint32 n }) config
  let config ← setLong (hash.strFind "thread_pool_size")
    (fun n config => { config with threadPoolSize := toUint32 n }) config
  let config ← setLong (hash.strFind "compression_threshold")
    (fun n config =>
      { config with policies.write.compressionThreshold := toUint32 n }) config
  let config ← setLong (hash.strFind "tender_interval")
    (fun n config => { config with tenderInterval := toUint32 n }) config
  let config ← setClusterName (hash.strFind "cluster_name") config
  let config ← setRackAware (hash.strFind "rack_aware") config
  setLong (hash.strFind "rack_id")
    (fun n config => { config with rackId := toInt32 n }) config

/-! ## The options -/

/-- The policy families that have a default policy among the options. -/
inductive PolicyFamily where
  | read | write | remove | batch | operate | query | scan | apply
  deriving DecidableEq, Repr

namespace PolicyFamily

def defaultPol : PolicyFamily → Int64
  | .read => optReadDefaultPol
  | .write => optWriteDefaultPol
  | .remove => optRemoveDefaultPol
  | .batch => optBatchDefaultPol
  | .operate => optOperateDefaultPol
  | .query => optQueryDefaultPol
  | .scan => optScanDefaultPol
  | .apply => optApplyDefaultPol

/-- The `set_*_policy_from_hash` of the family, on the client's policies. -/
def setFromHash (hash : HashTable) (policies : Policies) :
    PolicyFamily → Policies
  | .read => { policies with read := setReadPolicyFromHash hash policies.read }
  | .write =>
      { policies with write := setWritePolicyFromHash hash policies.write }
  | .remove =>
      { policies with remove := setRemovePolicyFromHash hash policies.remove }
  | .batch =>
      { policies with batch := setBatchPolicyFromHash hash policies.batch }
  | .operate =>
      { policies with operate := setOperatePolicyFromHash hash policies.operate }
  | .query =>
      { policies with query := setQueryPolicyFromHash hash policies.query }
  | .scan => { policies with scan := setScanPolicyFromHash hash policies.scan }
  | .apply =>
      { policies with apply := setApplyPolicyFromHash hash policies.apply }

end PolicyFamily

def Configured.withPolicies (set : Policies → Policies) (c : Configured) :
    Configured :=
  { c with config.policies := set c.config.policies }

def setSubpolicy (hash : HashTable) (family : PolicyFamily) (c : Configured) :
    Option Configured :=
  match hash.indexFind family.defaultPol with
  | none => some c
  | some (.array sub) =>
      some (c.withPolicies fun policies => family.setFromHash sub policies)
  | some _ => none

def setSubpoliciesFromHash (hash : HashTable) (c : Configured) :
    Option Configured := do
  let c ← setSubpolicy hash .read c
  let c ← setSubpolicy hash .write c
  let c ← setSubpolicy hash .remove c
  let c ← setSubpolicy hash .batch c
  let c ← setSubpolicy hash .operate c
  let c ← setSubpolicy hash .query c
  let c ← setSubpolicy hash .scan c
  setSubpolicy hash .apply c

/-! The policies that each global option writes. -/

def setReadTimeouts (timeout : ℕ) (policies : Policies) : Policies :=
  { policies with
    read.base.totalTimeout := timeout
    info.timeout := timeout
    batch.base.totalTimeout := timeout }

def setWriteTimeouts (timeout : ℕ) (policies : Policies) : Policies :=
  { policies with
    write.base.totalTimeout := timeout
    operate.base.totalTimeout := timeout
    remove.base.totalTimeout := timeout
    apply.base.totalTimeout := timeout }

def setTotalTimeouts (timeout : ℕ) (policies : Policies) : Policies :=
  setWriteTimeouts timeout (setReadTimeouts timeout policies)

def setSocketTimeouts (timeout : ℕ) (policies : Policies) : Policies :=
  { policies with
    read.base.socketTimeout := timeout
    batch.base.socketTimeout := timeout
    write.base.socketTimeout := timeout
    operate.base.socketTimeout := timeout
    remove.base.socketTimeout := timeout
    apply.base.socketTimeout := timeout }

def setKeyPolicies (key : ℕ) (policies : Policies) : Policies :=
  { policies with
    read.key := key
    write.key := key
    operate.key := key
    remove.key := key }

def setExistsPolicies (value : ℕ) (policies : Policies) : Policies :=
  { policies with write.exists := value }

def setMaxRetries (retries : ℕ) (policies : Policies) : Policies :=
  { policies with
    write.base.maxRetries := retries
    operate.base.maxRetries := retries
    remove.base.maxRetries := retries
    read.base.maxRetries := retries
    apply.base.maxRetries := retries
    query.base.maxRetries := retries
    scan.base.maxRetries := retries
    batch.base.maxRetries := retries }

def setCommitLevels (level : ℕ) (policies : Policies) : Policies :=
  { policies with
    write.commitLevel := level
    remove.commitLevel := level
    operate.commitLevel := level
    apply.commitLevel := level }

def setReadModesAp (mode : ℕ) (policies : Policies) : Policies :=
  { policies with
    read.readModeAp := mode
    operate.readModeAp := mode
    batch.readModeAp := mode }

def setReplicas (replica : ℕ) (policies : Policies) : Policies :=
  { policies with
    read.replica := replica
    operate.replica := replica }

/-- A global option that is an integer for some of the policies. -/
def setGlobal (hash : HashTable) (index : Int64)
    (set : ℕ → Policies → Policies) (c : Configured) : Option Configured :=
  setLong (hash.indexFind index)
    (fun n c => c.withPolicies (set (toUint32 n))) c

/-- The value is read as an integer, although it is a boolean. -/
def setUseServicesAlternate (rt : Runtime) (z : Option Zval) (c : Configured) :
    Option Configured :=
  match z with
  | none => some c
  | some (.bool b) =>
      some { c with config.useServicesAlternate := rt.zLval (.bool b) ≠ 0 }
  | some _ => none

def setPolicyDefaultsFromHash (rt : Runtime) (zOptions : Option HashTable)
    (c : Configured) : Option Configured :=
  match zOptions with
  | none => some c
  | some hash => do
      let c ← setLong (hash.indexFind optConnectTimeout)
        (fun n c => { c with config.connTimeoutMs := toUint32 n }) c
      let c ← setUseServicesAlternate rt (hash.indexFind useServicesAlternate) c
      let c ← setGlobal hash optReadTimeout setReadTimeouts c
      let c ← setGlobal hash optWriteTimeout setWriteTimeouts c
      let c ← setGlobal hash optTotalTimeout setTotalTimeouts c
      let c ← setGlobal hash optSocketTimeout setSocketTimeouts c
      let c ← setGlobal hash optPolicyKey setKeyPolicies c
      let c ← setGlobal hash optPolicyExists setExistsPolicies c
      let c ← setGlobal hash optMaxRetries setMaxRetries c
      let c ← setGlobal hash optPolicyCommitLevel setCommitLevels c
      let c ← setGlobal hash optPolicyReadModeAp setReadModesAp c
      let c ← setGlobal hash optPolicyReplica setReplicas c
      let c ← setLong (hash.indexFind optSerializer)
        (fun n c => { c with serializerType := toInt32 n }) c
      setSubpoliciesFromHash hash c

/-! ## The constructor, up to `aerospike_new` -/

/-- The configuration, or the text of the exception. -/
def configure (zConfig : HashTable) (zOptions : Option HashTable) :
    Except String Configured :=
  match zConfig.strFind "hosts" with
  | none => .error "An entry for hosts must be included in the config array"
  | some (.array zHosts) => do
      let config ← addHostsFromZhash zHosts (asConfigInit engine lib)
      let config := setPolicyDefaultsFromIni ini config
      let config := setAsConfigFromIni ini config
      match setAsConfig lib ini zConfig config with
      | none => .error "Invalid configuration values"
      | some config =>
          match setPolicyDefaultsFromHash engine.rt zOptions
              ⟨config, toInt32 engine.iniSerializer⟩ with
          | none => .error "Invalid policy values"
          | some c => .ok c
  | some _ => .error "hosts entry must be an array"

end

end AerospikePhp
