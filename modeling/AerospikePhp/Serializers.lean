import AerospikePhp.Calls
import AerospikePhp.ConfigLayers
import Mathlib.Tactic

/-!
# Which serializer a call uses

The type of the serializer may be set in the options of the call, in those of
the constructor and in the INI file.  The methods that convert PHP values come
to it in three ways, none of which looks at what the constructor was given, and
one of which does not look at the options of the call either.
-/

namespace AerospikePhp

open Procedure Method

/-! ## The layers -/

/-- The `OPT_SERIALIZER` entry in the options of a call. -/
def policySerializer : Option Zval → Option Zval
  | some (.array hash) => HashTable.indexFind hash optSerializer
  | _ => none

/-- The type that the constructor leaves in the client object. -/
def constructorSerializer (ini : Int64) (zOptions : Option HashTable) :
    SerializerType :=
  match zOptions.bind fun options =>
      HashTable.indexFind options optSerializer with
  | some (.long n) => toInt32 n
  | _ => toInt32 ini

/-- The serializer that the layers come to, if the options of the call do not
hold something else than an integer. -/
def effectiveSerializer (ini : Int64) (zOptions : Option HashTable)
    (zPolicy : Option Zval) : Option SerializerType :=
  match policySerializer zPolicy with
  | some (.long n) => some (toInt32 n)
  | some _ => none
  | none => some (constructorSerializer ini zOptions)

/-- How a method comes to the serializer of the values that it converts. -/
inductive SerializerReading where
  /-- `set_serializer_from_policy_hash`, and its status. -/
  | checked
  /-- `set_serializer_from_policy_hash`, whatever its status. -/
  | unchecked
  /-- `INI_INT("aerospike.serializer")`. -/
  | iniOnly
  deriving DecidableEq

structure SerializerSite where
  reading : SerializerReading
  policy : Option Zval

/-- The options are null or an array, which every converter asks for. -/
def ReadableOptions : Option Zval → Prop
  | none | some .null | some (.array _) => True
  | some _ => False

instance : DecidablePred ReadableOptions := fun zPolicy => by
  unfold ReadableOptions
  split <;> infer_instance

namespace SerializerSite

/-- The serializer with which the values are converted; `none` when the method
ends before that. -/
def used (ini : Int64) (site : SerializerSite) : Option SerializerType :=
  if ReadableOptions site.policy then
    let serializer := setSerializerFromPolicyHash ini (toInt32 ini) site.policy
    match site.reading with
    | .checked => if serializer.1 = .ok then some serializer.2 else none
    | .unchecked => some serializer.2
    | .iniOnly => some (toInt32 ini)
  else none

/-- The layers that the method does not look at say nothing new. -/
def Finds (ini : Int64) (zOptions : Option HashTable) (site : SerializerSite) :
    Prop :=
  ReadableOptions site.policy →
    match policySerializer site.policy with
    | some (.long n) => site.reading = .iniOnly → toInt32 n = toInt32 ini
    | some _ => site.reading = .checked
    | none => constructorSerializer ini zOptions = toInt32 ini

end SerializerSite

/-- The calls that convert PHP values. -/
def Call.serializerSite : Call → Option SerializerSite
  | .put (some args) => some ⟨.checked, args.policy⟩
  | .operate (some args) => some ⟨.unchecked, args.policy⟩
  | .operateOrdered (some args) => some ⟨.unchecked, args.policy⟩
  | .listAppend (some args) => some ⟨.checked, args.1.policy⟩
  | .listMerge (some args) => some ⟨.checked, args.1.policy⟩
  | .listInsert (some args) => some ⟨.checked, args.1.policy⟩
  | .listInsertItems (some args) => some ⟨.checked, args.1.policy⟩
  | .listSet (some args) => some ⟨.checked, args.1.policy⟩
  | .apply (some args) => some ⟨.checked, args.policy⟩
  | .scanApply (some args) => some ⟨.iniOnly, args.policy⟩
  | .queryApply (some args) => some ⟨.iniOnly, args.policy⟩
  | .aggregate (some args) => some ⟨.iniOnly, args.policy⟩
  | _ => none

/-! ## One layer only -/

def bareHash (hash : HashTable) : HashTable :=
  hash.filter fun entry => entry.1 ≠ .idx optSerializer

/-- The options without their `OPT_SERIALIZER` entry. -/
def barePolicy : Option Zval → Option Zval
  | some (.array hash) => some (.array (bareHash hash))
  | zPolicy => zPolicy

def ListArgs.bare (args : ListArgs) : ListArgs :=
  { args with policy := barePolicy args.policy }

/-- The call without its `OPT_SERIALIZER` option. -/
def Call.bare : Call → Call
  | .put (some args) =>
      .put (some { args with policy := barePolicy args.policy })
  | .operate (some args) =>
      .operate (some { args with policy := barePolicy args.policy })
  | .operateOrdered (some args) =>
      .operateOrdered (some { args with policy := barePolicy args.policy })
  | .listAppend (some args) => .listAppend (some (args.1.bare, args.2))
  | .listMerge (some args) => .listMerge (some (args.1.bare, args.2))
  | .listInsert (some args) => .listInsert (some (args.1.bare, args.2))
  | .listInsertItems (some args) => .listInsertItems (some (args.1.bare, args.2))
  | .listSet (some args) => .listSet (some (args.1.bare, args.2))
  | .apply (some args) =>
      .apply (some { args with policy := barePolicy args.policy })
  | .scanApply (some args) =>
      .scanApply (some { args with policy := barePolicy args.policy })
  | .queryApply (some args) =>
      .queryApply (some { args with policy := barePolicy args.policy })
  | .aggregate (some args) =>
      .aggregate (some { args with policy := barePolicy args.policy })
  | call => call

def Engine.withSerializer (engine : Engine) (n : Int64) : Engine :=
  { engine with iniSerializer := n }

/-- Whatever the call converts, it converts with the serializer of the layers:
it does what the call without the option does when only the INI file names that
serializer. -/
def Call.UsesEffective (engine : Engine) (zOptions : Option HashTable)
    (call : Call) : Prop :=
  ∀ site t, call.serializerSite = some site →
    site.used engine.iniSerializer = some t →
    effectiveSerializer engine.iniSerializer zOptions site.policy = some t ∧
      ∀ n, toInt32 n = t → ∀ client oracle policies clientError,
        call.run engine client oracle policies clientError =
          call.bare.run (engine.withSerializer n) client oracle policies
            clientError

/-- The condition on the options of the call and of the constructor. -/
def Call.FindsSerializer (engine : Engine) (zOptions : Option HashTable)
    (call : Call) : Prop :=
  ∀ site, call.serializerSite = some site →
    site.Finds engine.iniSerializer zOptions

/-! ## The constructor -/

section

variable {c c' : Configured}

theorem setPolicyDefaultsFromHash_serializerType {rt : Runtime}
    {options : HashTable}
    (hset : setPolicyDefaultsFromHash rt (some options) c = some c') :
    c'.serializerType =
      match longOf (options.indexFind optSerializer) with
      | some n => toInt32 n
      | none => c.serializerType := by
  obtain ⟨connected, alternated, between, hconnect, hservices, hbetween, hlast⟩ :=
    setPolicyDefaultsFromHash_outside (f := Configured.serializerType)
      (fun _ _ => rfl) hset
  have hconnected : connected.serializerType = c.serializerType := by
    rw [setLong_eq hconnect]
    split <;> rfl
  have halternated : alternated.serializerType = connected.serializerType := by
    unfold setUseServicesAlternate at hservices
    split at hservices
    · rw [Option.some.inj hservices]
    · rw [← Option.some.inj hservices]
    · cases hservices
  rw [hlast]
  cases longOf (options.indexFind optSerializer) with
  | none => rw [hbetween, halternated, hconnected]
  | some n => rfl

end

/-- The client object does hold the constructor's serializer. -/
theorem configure_serializerType {engine : Engine} {lib : ClientLibrary}
    {ini : Ini} {zConfig : HashTable} {zOptions : Option HashTable}
    {configured : Configured}
    (hconfigure : configure engine lib ini zConfig zOptions = .ok configured) :
    configured.serializerType =
      constructorSerializer engine.iniSerializer zOptions := by
  obtain ⟨before, -, hbefore, hset⟩ := configure_parts hconfigure
  cases zOptions with
  | none =>
      rw [← Option.some.inj hset, hbefore]
      rfl
  | some options =>
      rw [setPolicyDefaultsFromHash_serializerType hset, hbefore]
      unfold constructorSerializer
      rw [Option.bind_some]
      cases HashTable.indexFind options optSerializer with
      | none => rfl
      | some z => cases z <;> rfl

/-! ## The converters do not see the option -/

section

variable {zPolicy : Option Zval}

@[simp] theorem find_bareHash {hash : HashTable} {key : ZKey}
    (hne : key ≠ .idx optSerializer) :
    HashTable.find (bareHash hash) key = HashTable.find hash key := by
  unfold HashTable.find bareHash
  rw [List.find?_filter]
  congr 2
  funext entry
  by_cases hkey : entry.1 = key
  · simp [hkey, hne]
  · simp [hkey]

@[simp] theorem indexFind_bareHash {hash : HashTable} {index : Int64}
    (hne : index ≠ optSerializer) :
    HashTable.indexFind (bareHash hash) index = HashTable.indexFind hash index :=
  find_bareHash fun hkey => hne (ZKey.idx.inj hkey)

@[simp] theorem strFind_bareHash {hash : HashTable} {name : String} :
    HashTable.strFind (bareHash hash) name = HashTable.strFind hash name :=
  find_bareHash ZKey.noConfusion

/-- What reads an array in the same way without the option does so with all
options. -/
theorem read_bare {α : Type} (read : Option Zval → α)
    (harray : ∀ hash, read (some (.array (bareHash hash))) =
      read (some (.array hash))) :
    read (barePolicy zPolicy) = read zPolicy := by
  cases zPolicy with
  | none => rfl
  | some z => cases z <;> first | rfl | exact harray _

@[simp] theorem setUint32FromHashIndex_bareHash {hash : HashTable}
    {index : Int64} (hne : index ≠ optSerializer) (target : ℕ) :
    setUint32FromHashIndex (bareHash hash) index target =
      setUint32FromHashIndex hash index target := by
  unfold setUint32FromHashIndex
  rw [indexFind_bareHash hne]

@[simp] theorem setUint32FromHashKey_bareHash {hash : HashTable} {key : String}
    (target : ℕ) :
    setUint32FromHashKey (bareHash hash) key target =
      setUint32FromHashKey hash key target := by
  unfold setUint32FromHashKey
  rw [strFind_bareHash]

@[simp] theorem setBoolFromHashIndex_bareHash {hash : HashTable}
    {index : Int64} (hne : index ≠ optSerializer) (target : Bool) :
    setBoolFromHashIndex (bareHash hash) index target =
      setBoolFromHashIndex hash index target := by
  unfold setBoolFromHashIndex
  rw [indexFind_bareHash hne]

@[simp] theorem setBoolFromHashKey_bareHash {hash : HashTable} {key : String}
    (target : Bool) :
    setBoolFromHashKey (bareHash hash) key target =
      setBoolFromHashKey hash key target := by
  unfold setBoolFromHashKey
  rw [strFind_bareHash]

@[simp] theorem checkedUint32FromHashIndex_bareHash {hash : HashTable}
    {index : Int64} (hne : index ≠ optSerializer) (target : ℕ) :
    checkedUint32FromHashIndex (bareHash hash) index target =
      checkedUint32FromHashIndex hash index target := by
  unfold checkedUint32FromHashIndex
  rw [indexFind_bareHash hne]

@[simp] theorem setBasePolicyFromHash_bareHash (hash : HashTable)
    (base : PolicyBase) :
    setBasePolicyFromHash (bareHash hash) base =
      setBasePolicyFromHash hash base := by
  simp (disch := decide) [setBasePolicyFromHash]

@[simp] theorem zvalToAsPolicyWrite_bare (init : PolicyWrite) :
    zvalToAsPolicyWrite init (barePolicy zPolicy) =
      zvalToAsPolicyWrite init zPolicy := by
  refine read_bare (zvalToAsPolicyWrite init) fun hash => ?_
  funext defaultPolicy
  simp (disch := decide) [zvalToAsPolicyWrite, policyFromZval,
    setWritePolicyFromHash, setGenFromWriteHash, setExistsFromHash,
    setCommitLevelFromHash, setKeyFromHash, setReplicaFromHash]

@[simp] theorem zvalToAsPolicyOperate_bare (rt : Runtime)
    (init : PolicyOperate) :
    zvalToAsPolicyOperate rt init (barePolicy zPolicy) =
      zvalToAsPolicyOperate rt init zPolicy := by
  refine read_bare (zvalToAsPolicyOperate rt init) fun hash => ?_
  funext defaultPolicy
  simp (disch := decide) [zvalToAsPolicyOperate, policyFromZval,
    setOperatePolicyFromHash, setGenFromOperateHash, setExistsFromHash,
    setCommitLevelFromHash, setKeyFromHash, setReplicaFromHash,
    setReadModeApFromHash, setReadModeScFromHash]

@[simp] theorem zvalToAsPolicyApply_bare (init : PolicyApply) :
    zvalToAsPolicyApply init (barePolicy zPolicy) =
      zvalToAsPolicyApply init zPolicy := by
  refine read_bare (zvalToAsPolicyApply init) fun hash => ?_
  funext defaultPolicy
  simp (disch := decide) [zvalToAsPolicyApply, policyFromZval,
    setApplyPolicyFromHash, setCommitLevelFromHash, setKeyFromHash,
    setReplicaFromHash]

@[simp] theorem zvalToAsPolicyScan_bare (init : PolicyScan) :
    zvalToAsPolicyScan init (barePolicy zPolicy) =
      zvalToAsPolicyScan init zPolicy := by
  refine read_bare (zvalToAsPolicyScan init) fun hash => ?_
  funext defaultPolicy
  simp (disch := decide) [zvalToAsPolicyScan, policyFromZval,
    scanTimeoutFromHash, setScanPolicyFromHash]

@[simp] theorem zvalToAsPolicyQuery_bare (init : PolicyQuery) :
    zvalToAsPolicyQuery init (barePolicy zPolicy) =
      zvalToAsPolicyQuery init zPolicy := by
  refine read_bare (zvalToAsPolicyQuery init) fun hash => ?_
  funext defaultPolicy
  simp (disch := decide) [zvalToAsPolicyQuery, policyFromZval,
    setQueryPolicyFromHash]

@[simp] theorem setRecordGenerationFromWritePolicy_bare (gen : ℕ) :
    setRecordGenerationFromWritePolicy (barePolicy zPolicy) gen =
      setRecordGenerationFromWritePolicy zPolicy gen := by
  refine read_bare (setRecordGenerationFromWritePolicy · gen) fun hash => ?_
  simp (disch := decide) [setRecordGenerationFromWritePolicy]

@[simp] theorem setRecordGeneration_bare (record : AsRecord) :
    setRecordGeneration (barePolicy zPolicy) record =
      setRecordGeneration zPolicy record := by
  unfold setRecordGeneration
  rw [setRecordGenerationFromWritePolicy_bare]

@[simp] theorem setOperationsGenerationFromOperatePolicy_bare (gen : ℕ) :
    setOperationsGenerationFromOperatePolicy (barePolicy zPolicy) gen =
      setOperationsGenerationFromOperatePolicy zPolicy gen := by
  refine read_bare (setOperationsGenerationFromOperatePolicy · gen)
    fun hash => ?_
  simp (disch := decide) [setOperationsGenerationFromOperatePolicy,
    setRecordGenerationFromWritePolicy]

@[simp] theorem setOperationsTtlFromOperatePolicy_bare (ttl : ℕ) :
    setOperationsTtlFromOperatePolicy (barePolicy zPolicy) ttl =
      setOperationsTtlFromOperatePolicy zPolicy ttl := by
  refine read_bare (setOperationsTtlFromOperatePolicy · ttl) fun hash => ?_
  simp (disch := decide) [setOperationsTtlFromOperatePolicy]

@[simp] theorem setScanOptionsFromPolicyHash_bare (scan : AsScan) :
    setScanOptionsFromPolicyHash scan (barePolicy zPolicy) =
      setScanOptionsFromPolicyHash scan zPolicy := by
  refine read_bare (setScanOptionsFromPolicyHash scan ·) fun hash => ?_
  simp (disch := decide) [setScanOptionsFromPolicyHash,
    setScanOptionsFromPolicyHash.setNoBins]

@[simp] theorem whenGiven_bare {α : Type} (load : Method α) :
    whenGiven (barePolicy zPolicy) load = whenGiven zPolicy load :=
  read_bare (whenGiven · load) fun _ => rfl

@[simp] theorem whenGiven_nonNull_bare {α : Type} (load : Method α) :
    whenGiven (nonNull (barePolicy zPolicy)) load =
      whenGiven (nonNull zPolicy) load :=
  read_bare (fun z => whenGiven (nonNull z) load) fun _ => rfl

end

/-! ## Calls with one layer -/

section

variable {engine : Engine} {ini n : Int64} {t : SerializerType}
variable {zPolicy : Option Zval}

theorem find_bareHash_self (hash : HashTable) :
    HashTable.indexFind (bareHash hash) optSerializer = none := by
  unfold HashTable.indexFind HashTable.find bareHash
  rw [Option.map_eq_none_iff, List.find?_eq_none]
  intro entry hentry
  simpa using (List.mem_filter.mp hentry).2

/-- Without the option the serializer is that of the INI file. -/
theorem setSerializer_bare (hreadable : ReadableOptions zPolicy)
    (old : SerializerType) :
    setSerializerFromPolicyHash n old (barePolicy zPolicy) =
      (.ok, toInt32 n) := by
  cases zPolicy with
  | none => rfl
  | some z =>
      cases z with
      | null => rfl
      | array hash =>
          show setSerializerFromPolicyHash n old (some (.array (bareHash hash))) = _
          simp [setSerializerFromPolicyHash, find_bareHash_self]
      | _ => exact hreadable.elim

theorem readable_of_used {site : SerializerSite}
    (hused : site.used ini = some t) : ReadableOptions site.policy := by
  by_contra hnot
  simp [SerializerSite.used, hnot] at hused

theorem setSerializer_of_checked
    (hused : SerializerSite.used ini ⟨.checked, zPolicy⟩ = some t) :
    setSerializerFromPolicyHash ini (toInt32 ini) zPolicy = (.ok, t) := by
  have hreadable := readable_of_used hused
  simp only [SerializerSite.used, if_pos hreadable, Option.ite_none_right_eq_some,
    Option.some.injEq] at hused
  exact Prod.ext hused.1 hused.2

theorem callSerializer_of_unchecked
    (hused : SerializerSite.used engine.iniSerializer ⟨.unchecked, zPolicy⟩ =
      some t) : callSerializer engine zPolicy = t := by
  have hreadable := readable_of_used hused
  simp only [SerializerSite.used, if_pos hreadable, Option.some.injEq] at hused
  exact hused

theorem iniSerializerType_of_iniOnly
    (hused : SerializerSite.used engine.iniSerializer ⟨.iniOnly, zPolicy⟩ =
      some t) : iniSerializerType engine = t := by
  have hreadable := readable_of_used hused
  simp only [SerializerSite.used, if_pos hreadable, Option.some.injEq] at hused
  exact hused

theorem callSerializer_bare (hreadable : ReadableOptions zPolicy) :
    callSerializer (engine.withSerializer n) (barePolicy zPolicy) =
      toInt32 n := by
  unfold callSerializer
  rw [setSerializer_bare hreadable]
  rfl

variable {client : Client} {oracle : Oracle}

@[congr] theorem runIf_congr {condition condition' : Prop}
    [Decidable condition] [Decidable condition'] {statement : Method Unit}
    (hsame : condition = condition') :
    runIf condition statement = runIf condition' statement := by
  subst hsame
  congr

@[simp] theorem orFail_some_bind {α β : Type} (value : α) (failure : Method α)
    (next : α → Method β) : (orFail (some value) failure >>= next) = next value :=
  rfl

@[simp] theorem requireKey_withSerializer (zKey : HashTable)
    (failure : Method AsKey) :
    requireKey (engine.withSerializer n) zKey failure =
      requireKey engine zKey failure := rfl

@[simp] theorem rt_withSerializer : (engine.withSerializer n).rt = engine.rt :=
  rfl

@[simp] theorem init_withSerializer :
    (engine.withSerializer n).init = engine.init := rfl

@[simp] theorem iniSerializer_withSerializer :
    (engine.withSerializer n).iniSerializer = n := rfl

theorem put_bare {args : PutArgs}
    (hused : SerializerSite.used engine.iniSerializer ⟨.checked, args.policy⟩ =
      some t) (hn : toInt32 n = t) :
    put engine client oracle (some args) =
      put (engine.withSerializer n) client oracle
        (some { args with policy := barePolicy args.policy }) := by
  have hserializer := setSerializer_of_checked hused
  have hbare := @setSerializer_bare n args.policy (readable_of_used hused)
  simp only [put, putBody, orFail_some_bind, requireKey_withSerializer,
    rt_withSerializer, init_withSerializer, iniSerializer_withSerializer,
    hserializer, hbare, hn, zvalToAsPolicyWrite_bare, setRecordGeneration_bare,
    whenGiven_bare]

/-! The pieces of the methods. -/

theorem requireOperatePolicy_bare (failure : Method Unit) :
    requireOperatePolicy (engine.withSerializer n) (barePolicy zPolicy) failure =
      requireOperatePolicy engine zPolicy failure := by
  unfold requireOperatePolicy
  rw [zvalToAsPolicyOperate_bare]
  rfl

theorem requireGeneration_bare (failure : Method Unit) :
    requireGeneration (barePolicy zPolicy) failure =
      requireGeneration zPolicy failure := by
  simp only [requireGeneration, setOperationsGenerationFromOperatePolicy_bare]

theorem requireTtl_bare (failure : Method Unit) :
    requireTtl (barePolicy zPolicy) failure = requireTtl zPolicy failure := by
  simp only [requireTtl, setOperationsTtlFromOperatePolicy_bare]

theorem addAllOperations_withSerializer :
    addAllOperations (engine.withSerializer n) oracle =
      addAllOperations engine oracle := rfl

theorem operate_bare {args : OperateArgs}
    (hused : SerializerSite.used engine.iniSerializer ⟨.unchecked, args.policy⟩ =
      some t) (hn : toInt32 n = t) :
    operate engine client oracle (some args) =
      operate (engine.withSerializer n) client oracle
        (some { args with policy := barePolicy args.policy }) := by
  have hserializer := callSerializer_of_unchecked hused
  have hbare := @callSerializer_bare engine n _ (readable_of_used hused)
  simp only [operate, operateBody, orFail_some_bind, requireKey_withSerializer,
    requireOperatePolicy_bare, requireGeneration_bare, requireTtl_bare,
    addAllOperations_withSerializer, rt_withSerializer, hserializer, hbare, hn]

theorem operateOrdered_bare {args : OperateArgs}
    (hused : SerializerSite.used engine.iniSerializer ⟨.unchecked, args.policy⟩ =
      some t) (hn : toInt32 n = t) :
    operateOrdered engine client oracle (some args) =
      operateOrdered (engine.withSerializer n) client oracle
        (some { args with policy := barePolicy args.policy }) := by
  have hserializer := callSerializer_of_unchecked hused
  have hbare := @callSerializer_bare engine n _ (readable_of_used hused)
  simp only [operateOrdered, operateOrderedBody, orFail_some_bind,
    requireKey_withSerializer, requireOperatePolicy_bare, requireGeneration_bare,
    requireTtl_bare, whenGiven_bare, addAllOperations_withSerializer,
    rt_withSerializer, hserializer, hbare, hn]

theorem listBody_bare (args : ListArgs) :
    listBody (engine.withSerializer n) oracle args.bare =
      listBody engine oracle args := by
  funext makeOperation notAdded useResult
  simp only [listBody, setupListOperationVariables, ListArgs.bare,
    requireKey_withSerializer, requireOperatePolicy_bare, requireGeneration_bare,
    requireTtl_bare]

theorem requireSerializer_bare
    (hused : SerializerSite.used engine.iniSerializer ⟨.checked, zPolicy⟩ =
      some t) (hn : toInt32 n = t) (failure : Method Unit) :
    requireSerializer engine zPolicy failure =
      requireSerializer (engine.withSerializer n) (barePolicy zPolicy)
        failure := by
  have hserializer := setSerializer_of_checked hused
  have hbare := @setSerializer_bare n zPolicy (readable_of_used hused)
  simp only [requireSerializer, iniSerializer_withSerializer, hserializer, hbare,
    hn]

theorem convertItem_bare
    (hused : SerializerSite.used engine.iniSerializer ⟨.checked, zPolicy⟩ =
      some t) (hn : toInt32 n = t) (z : Zval)
    (badSerializer notConverted : Method Unit) :
    convertItem engine zPolicy z badSerializer notConverted =
      convertItem (engine.withSerializer n) (barePolicy zPolicy) z badSerializer
        notConverted := by
  unfold convertItem
  rw [requireSerializer_bare hused hn]
  rfl

theorem convertItems_bare
    (hused : SerializerSite.used engine.iniSerializer ⟨.checked, zPolicy⟩ =
      some t) (hn : toInt32 n = t) (items : HashTable) (notList : String)
    (notConverted : Method Unit) :
    convertItems engine zPolicy items notList notConverted =
      convertItems (engine.withSerializer n) (barePolicy zPolicy) items notList
        notConverted := by
  unfold convertItems
  rw [requireSerializer_bare hused hn]
  rfl

section

variable {args : ListArgs}
variable (hused : SerializerSite.used engine.iniSerializer
  ⟨.checked, args.policy⟩ = some t) (hn : toInt32 n = t)

include hused hn

theorem listAppend_bare (z : Zval) :
    listAppend engine client oracle (some (args, z)) =
      listAppend (engine.withSerializer n) client oracle
        (some (args.bare, z)) := by
  simp only [listAppend, appendItem, orFail_some_bind, listBody_bare,
    convertItem_bare hused hn]
  rfl

theorem listMerge_bare (items : HashTable) :
    listMerge engine client oracle (some (args, items)) =
      listMerge (engine.withSerializer n) client oracle
        (some (args.bare, items)) := by
  simp only [listMerge, mergeItems, orFail_some_bind, listBody_bare,
    convertItems_bare hused hn]
  rfl

theorem listInsert_bare (index : Int64) (z : Zval) :
    listInsert engine client oracle (some (args, index, z)) =
      listInsert (engine.withSerializer n) client oracle
        (some (args.bare, index, z)) := by
  simp only [listInsert, insertItem, orFail_some_bind, listBody_bare,
    convertItem_bare hused hn]
  rfl

theorem listInsertItems_bare (index : Int64) (items : HashTable) :
    listInsertItems engine client oracle (some (args, index, items)) =
      listInsertItems (engine.withSerializer n) client oracle
        (some (args.bare, index, items)) := by
  simp only [listInsertItems, insertItems, orFail_some_bind, listBody_bare,
    convertItems_bare hused hn]
  rfl

theorem listSet_bare (index : Int64) (z : Zval) :
    listSet engine client oracle (some (args, index, z)) =
      listSet (engine.withSerializer n) client oracle
        (some (args.bare, index, z)) := by
  simp only [listSet, setItem, orFail_some_bind, listBody_bare,
    convertItem_bare hused hn]
  rfl

end

theorem apply_bare {args : ApplyArgs}
    (hused : SerializerSite.used engine.iniSerializer ⟨.checked, args.policy⟩ =
      some t) (hn : toInt32 n = t) :
    apply engine client oracle (some args) =
      apply (engine.withSerializer n) client oracle
        (some { args with policy := barePolicy args.policy }) := by
  have hserializer : setSerializerFromPolicyHash engine.iniSerializer
      (iniSerializerType engine) args.policy = (.ok, t) :=
    setSerializer_of_checked hused
  have hbare : setSerializerFromPolicyHash (engine.withSerializer n).iniSerializer
      (iniSerializerType (engine.withSerializer n)) (barePolicy args.policy) =
        (.ok, t) := by
    rw [← hn]
    exact setSerializer_bare (readable_of_used hused) _
  have hargs : applyArgs (engine.withSerializer n) = applyArgs engine := rfl
  simp only [apply, applyBody, orFail_some_bind, requireKey_withSerializer,
    rt_withSerializer, init_withSerializer, hserializer, hbare, hargs,
    zvalToAsPolicyApply_bare]

theorem iniSerializerType_withSerializer :
    iniSerializerType (engine.withSerializer n) = toInt32 n := rfl

theorem scanApply_bare {args : ScanApplyArgs}
    (hused : SerializerSite.used engine.iniSerializer ⟨.iniOnly, args.policy⟩ =
      some t) (hn : toInt32 n = t) :
    scanApply engine client oracle (some args) =
      scanApply (engine.withSerializer n) client oracle
        (some { args with policy := barePolicy args.policy }) := by
  have hserializer := iniSerializerType_of_iniOnly hused
  have hargs : requireArgs (engine.withSerializer n) = requireArgs engine := rfl
  simp only [scanApply, scanApplyBody, orFail_some_bind, init_withSerializer,
    setScanOptionsFromPolicyHash_bare, zvalToAsPolicyScan_bare, hserializer,
    iniSerializerType_withSerializer, hargs, hn]

theorem queryApply_bare {args : UdfQueryArgs}
    (hused : SerializerSite.used engine.iniSerializer ⟨.iniOnly, args.policy⟩ =
      some t) (hn : toInt32 n = t) :
    queryApply engine client oracle (some args) =
      queryApply (engine.withSerializer n) client oracle
        (some { args with policy := barePolicy args.policy }) := by
  have hserializer := iniSerializerType_of_iniOnly hused
  have hargs : requireArgs (engine.withSerializer n) = requireArgs engine := rfl
  have hpredicate : addPredicate (engine.withSerializer n) oracle =
      addPredicate engine oracle := rfl
  simp only [queryApply, queryApplyBody, orFail_some_bind, init_withSerializer,
    zvalToAsPolicyWrite_bare, hserializer, iniSerializerType_withSerializer,
    hargs, hpredicate, hn]
  rfl

theorem aggregateCallback_withSerializer (values : List AsVal)
    (table : HashTable) :
    aggregateCallback (engine.withSerializer n) values table =
      aggregateCallback engine values table := by
  induction values generalizing table with
  | nil => rfl
  | cons value values ih =>
      unfold aggregateCallback
      simp only [ih, rt_withSerializer]

theorem aggregate_bare {args : UdfQueryArgs}
    (hused : SerializerSite.used engine.iniSerializer ⟨.iniOnly, args.policy⟩ =
      some t) (hn : toInt32 n = t) :
    aggregate engine client oracle (some args) =
      aggregate (engine.withSerializer n) client oracle
        (some { args with policy := barePolicy args.policy }) := by
  have hserializer := iniSerializerType_of_iniOnly hused
  have hargs : requireCleanArgs (engine.withSerializer n) =
      requireCleanArgs engine := rfl
  have hpredicate : addPredicate (engine.withSerializer n) oracle =
      addPredicate engine oracle := rfl
  simp only [aggregate, aggregateBody, orFail_some_bind, init_withSerializer,
    zvalToAsPolicyQuery_bare, whenGiven_nonNull_bare, hserializer,
    iniSerializerType_withSerializer, hargs, hpredicate,
    aggregateCallback_withSerializer, hn]
  rfl

end

/-- A call that converts with a serializer does what it does without the option
when the INI file names that serializer. -/
theorem run_bare {engine : Engine} {call : Call} {site : SerializerSite}
    {t : SerializerType} (hsite : call.serializerSite = some site)
    (hused : site.used engine.iniSerializer = some t) {n : Int64}
    (hn : toInt32 n = t) (client : Client) (oracle : Oracle) (policies : Policies)
    (clientError : AsError) :
    call.run engine client oracle policies clientError =
      call.bare.run (engine.withSerializer n) client oracle policies
        clientError := by
  have hmethod : call.method engine client oracle =
      call.bare.method (engine.withSerializer n) client oracle := by
    unfold Call.serializerSite at hsite
    split at hsite <;> cases hsite
    · exact put_bare hused hn
    · exact operate_bare hused hn
    · exact operateOrdered_bare hused hn
    · exact listAppend_bare hused hn _
    · exact listMerge_bare hused hn _
    · exact listInsert_bare hused hn _ _
    · exact listInsertItems_bare hused hn _ _
    · exact listSet_bare hused hn _ _
    · exact apply_bare hused hn
    · exact scanApply_bare hused hn
    · exact queryApply_bare hused hn
    · exact aggregate_bare hused hn
  unfold Call.run
  rw [hmethod]

/-! ## The layers that are found -/

theorem setSerializer_eq {ini : Int64} {old : SerializerType}
    {zPolicy : Option Zval} (hreadable : ReadableOptions zPolicy) :
    setSerializerFromPolicyHash ini old zPolicy =
      match policySerializer zPolicy with
      | none => (.ok, toInt32 ini)
      | some (.long n) => (.ok, toInt32 n)
      | some _ => (.errParam, old) := by
  cases zPolicy with
  | none => rfl
  | some z =>
      cases z with
      | null => rfl
      | array hash =>
          show (match HashTable.indexFind hash optSerializer with
            | none => (AsStatus.ok, toInt32 ini)
            | some (.long n) => (.ok, toInt32 n)
            | some _ => (.errParam, old)) = _
          rfl
      | _ => exact hreadable.elim

/-- The serializer that is used is the one of the layers exactly when those that
the method does not look at say nothing new. -/
theorem SerializerSite.finds_iff (ini : Int64) (zOptions : Option HashTable)
    (site : SerializerSite) :
    (∀ t, site.used ini = some t →
      effectiveSerializer ini zOptions site.policy = some t) ↔
      site.Finds ini zOptions := by
  obtain ⟨reading, zPolicy⟩ := site
  by_cases hreadable : ReadableOptions zPolicy
  · have hread := @setSerializer_eq ini (toInt32 ini) zPolicy hreadable
    simp only [SerializerSite.used, hread, SerializerSite.Finds,
      effectiveSerializer, hreadable, true_implies]
    cases policySerializer zPolicy with
    | none => cases reading <;> simp
    | some z => cases z <;> cases reading <;> simp
  · have hnone : SerializerSite.used ini ⟨reading, zPolicy⟩ = none := if_neg hreadable
    simp [hnone, SerializerSite.Finds, hreadable]

/-- Every value is converted with the serializer of the layers exactly when the
call finds it. -/
theorem usesEffective_iff (engine : Engine) (zOptions : Option HashTable)
    (call : Call) :
    call.UsesEffective engine zOptions ↔ call.FindsSerializer engine zOptions := by
  constructor
  · intro huses site hsite
    refine (site.finds_iff engine.iniSerializer zOptions).mp fun t hused => ?_
    exact (huses site t hsite hused).1
  · intro hfinds site t hsite hused
    have heffective :=
      (site.finds_iff engine.iniSerializer zOptions).mpr (hfinds site hsite)
    exact ⟨heffective t hused, fun n hn => run_bare hsite hused hn⟩

/-- The PHP serializer is given to the constructor, and nothing to the call. -/
def givenToConstructor : Option HashTable :=
  some [(.idx optSerializer, .long 1)]

/-- `put` of an object, without options. -/
def putObject : PutArgs where
  key := [(.str "ns", .string "test"), (.str "set", .string "demo"),
    (.str "key", .long 1)]
  store := .array [(.str "bin", .object "stdClass" [])]
  ttl := none
  policy := none

theorem givenToConstructor_not_usesEffective :
    ¬ Call.UsesEffective .plain givenToConstructor (.put (some putObject)) := by
  intro huses
  have hused : SerializerSite.used Engine.plain.iniSerializer
      ⟨.checked, putObject.policy⟩ = some serializerNone := by decide
  have heffective := (huses _ _ rfl hused).1
  exact absurd heffective (by decide)

end AerospikePhp
