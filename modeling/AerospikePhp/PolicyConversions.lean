import AerospikePhp.Policy
import Mathlib.Tactic

/-!
# The policy converters

Every converter starts from a freshly initialised local policy, copies the
default policy and the local one into each other, and then lets the options
array override single fields.  Which of the two is the source of the copy is
the whole difference between a call that reads the client's configuration and
a call that overwrites it.
-/

namespace AerospikePhp

/-- What a converter leaves behind: its status, the local policy, and the
default policy, which belongs to the client. -/
structure ConvertedPolicy (P : Type) where
  status : AsStatus
  policy : P
  defaultPolicy : P

/-- The converters after the copy: NULL and null leave the policy as it is, an
array is read, and anything else is refused. -/
def policyFromZval {P : Type} (zPolicy : Option Zval) (policy defaultPolicy : P)
    (readHash : HashTable → P → AsStatus × P) : ConvertedPolicy P :=
  match zPolicy with
  | none | some .null => ⟨.ok, policy, defaultPolicy⟩
  | some (.array hash) =>
      let read := readHash hash policy
      ⟨read.1, read.2, defaultPolicy⟩
  | some _ => ⟨.errParam, policy, defaultPolicy⟩

/-- A timeout that must be an integer when it is there. -/
def checkedUint32FromHashIndex (hash : HashTable) (index : Int64) (target : ℕ) :
    Option ℕ :=
  match hash.indexFind index with
  | none => some target
  | some (.long n) => some (toUint32 n)
  | some _ => none

def zvalToAsPolicyRead (init : PolicyRead) (zPolicy : Option Zval)
    (defaultPolicy : PolicyRead) : ConvertedPolicy PolicyRead :=
  policyFromZval zPolicy (asPolicyCopy defaultPolicy init) defaultPolicy
    fun hash policy =>
      let timeout :=
        setUint32FromHashIndex hash optReadTimeout policy.base.totalTimeout
      (.ok, setReadPolicyFromHash hash
        { policy with base.totalTimeout := timeout })

/-- The generation policy of a write: the first element of a nonempty
`OPT_POLICY_GEN` array, when it is an integer. -/
def setGenFromWriteHash (hash : HashTable) (gen : ℕ) : ℕ :=
  match hash.indexFind optPolicyGen with
  | some (.array genAry) =>
      if 0 < HashTable.numElements genAry then
        setUint32FromHashIndex genAry 0 gen
      else gen
  | _ => gen

def zvalToAsPolicyWrite (init : PolicyWrite) (zPolicy : Option Zval)
    (defaultPolicy : PolicyWrite) : ConvertedPolicy PolicyWrite :=
  policyFromZval zPolicy (asPolicyCopy defaultPolicy init) defaultPolicy
    fun hash policy =>
      let timeout :=
        setUint32FromHashIndex hash optWriteTimeout policy.base.totalTimeout
      (.ok, setWritePolicyFromHash hash
        { policy with
          base.totalTimeout := timeout
          gen := setGenFromWriteHash hash policy.gen })

/-- What `zval_to_as_policy_remove` makes of the `OPT_POLICY_GEN` entry. -/
inductive RemoveGen where
  | unchanged
  | set (gen generation : ℕ)
  | refused (gen : ℕ)
  | crash

/-- An array of two elements is read at `0` and `1` without a check that these
keys are there. -/
def removeGenFromHash (rt : Runtime) (hash : HashTable) : RemoveGen :=
  match hash.indexFind optPolicyGen with
  | some (.array genAry) =>
      if HashTable.numElements genAry = 2 then
        match HashTable.indexFind genAry 0 with
        | none => .crash
        | some zGen =>
            match HashTable.indexFind genAry 1 with
            | none => .crash
            | some (.long generation) =>
                .set (toUint32 (rt.zLval zGen)) (toUint16 generation)
            | some _ => .refused (toUint32 (rt.zLval zGen))
      else .unchanged
  | _ => .unchanged

/-- `none` stands for a read through a NULL pointer. -/
def zvalToAsPolicyRemove (rt : Runtime) (init : PolicyRemove)
    (zPolicy : Option Zval) (defaultPolicy : PolicyRemove) :
    Option (ConvertedPolicy PolicyRemove) :=
  let policy := asPolicyCopy defaultPolicy init
  match zPolicy with
  | none | some .null => some ⟨.ok, policy, defaultPolicy⟩
  | some (.array hash) =>
      let timeout :=
        setUint32FromHashIndex hash optWriteTimeout policy.base.totalTimeout
      let policy := { policy with base.totalTimeout := timeout }
      match removeGenFromHash rt hash with
      | .crash => none
      | .refused gen =>
          some ⟨.errParam, { policy with gen := gen }, defaultPolicy⟩
      | .set gen generation =>
          some ⟨.ok, setRemovePolicyFromHash hash
            { policy with gen := gen, generation := generation },
            defaultPolicy⟩
      | .unchanged =>
          some ⟨.ok, setRemovePolicyFromHash hash policy, defaultPolicy⟩
  | some _ => some ⟨.errParam, policy, defaultPolicy⟩

/-- The generation policy of an operate call: whatever the first element of the
`OPT_POLICY_GEN` array holds. -/
def setGenFromOperateHash (rt : Runtime) (hash : HashTable) (gen : ℕ) : ℕ :=
  match hash.indexFind optPolicyGen with
  | some (.array genAry) =>
      match HashTable.indexFind genAry 0 with
      | some zGen => toUint32 (rt.zLval zGen)
      | none => gen
  | _ => gen

/-- Here the copy goes the other way: the local policy, as
`as_policy_operate_init` left it, is copied over the default policy. -/
def zvalToAsPolicyOperate (rt : Runtime) (init : PolicyOperate)
    (zPolicy : Option Zval) (defaultPolicy : PolicyOperate) :
    ConvertedPolicy PolicyOperate :=
  policyFromZval zPolicy init (asPolicyCopy init defaultPolicy)
    fun hash policy =>
      let policy := { policy with gen := setGenFromOperateHash rt hash policy.gen }
      let timeout :=
        setUint32FromHashIndex hash optWriteTimeout policy.base.totalTimeout
      (.ok, setOperatePolicyFromHash hash
        { policy with base.totalTimeout := timeout })

def zvalToAsPolicyInfo (init : PolicyInfo) (zPolicy : Option Zval)
    (defaultPolicy : PolicyInfo) : ConvertedPolicy PolicyInfo :=
  policyFromZval zPolicy (asPolicyCopy defaultPolicy init) defaultPolicy
    fun hash policy =>
      let timeout := setUint32FromHashIndex hash optWriteTimeout policy.timeout
      (.ok, ⟨setUint32FromHashIndex hash optReadTimeout timeout⟩)

def zvalToAsPolicyApply (init : PolicyApply) (zPolicy : Option Zval)
    (defaultPolicy : PolicyApply) : ConvertedPolicy PolicyApply :=
  policyFromZval zPolicy (asPolicyCopy defaultPolicy init) defaultPolicy
    fun hash policy =>
      let timeout :=
        setUint32FromHashIndex hash optWriteTimeout policy.base.totalTimeout
      (.ok, setApplyPolicyFromHash hash
        { policy with base.totalTimeout := timeout })

/-- The read timeout of a scan or, when there is none, the write timeout. -/
def scanTimeoutFromHash (hash : HashTable) (target : ℕ) : Option ℕ :=
  match hash.indexFind optReadTimeout with
  | some _ => checkedUint32FromHashIndex hash optReadTimeout target
  | none => checkedUint32FromHashIndex hash optWriteTimeout target

def zvalToAsPolicyScan (init : PolicyScan) (zPolicy : Option Zval)
    (defaultPolicy : PolicyScan) : ConvertedPolicy PolicyScan :=
  policyFromZval zPolicy (asPolicyCopy defaultPolicy init) defaultPolicy
    fun hash policy =>
      match scanTimeoutFromHash hash policy.base.totalTimeout with
      | none => (.errParam, policy)
      | some timeout =>
          let policy := { policy with base.totalTimeout := timeout }
          match checkedUint32FromHashIndex hash optScanRpsLimit
              policy.recordsPerSecond with
          | none => (.errParam, policy)
          | some limit =>
              (.ok, setScanPolicyFromHash hash
                { policy with recordsPerSecond := limit })

def zvalToAsPolicyQuery (init : PolicyQuery) (zPolicy : Option Zval)
    (defaultPolicy : PolicyQuery) : ConvertedPolicy PolicyQuery :=
  policyFromZval zPolicy (asPolicyCopy defaultPolicy init) defaultPolicy
    fun hash policy =>
      match checkedUint32FromHashIndex hash optReadTimeout
          policy.base.totalTimeout with
      | none => (.errParam, policy)
      | some timeout =>
          (.ok, setQueryPolicyFromHash hash
            { policy with base.totalTimeout := timeout })

def zvalToAsPolicyBatch (init : PolicyBatch) (zPolicy : Option Zval)
    (defaultPolicy : PolicyBatch) : ConvertedPolicy PolicyBatch :=
  policyFromZval zPolicy (asPolicyCopy defaultPolicy init) defaultPolicy
    fun hash policy =>
      match checkedUint32FromHashIndex hash optReadTimeout
          policy.base.totalTimeout with
      | none => (.errParam, policy)
      | some timeout =>
          (.ok, setBatchPolicyFromHash hash
            { policy with base.totalTimeout := timeout })

def zvalToAsPolicyAdmin (init : PolicyInfo) (zPolicy : Option Zval)
    (defaultPolicy : PolicyInfo) : ConvertedPolicy PolicyInfo :=
  policyFromZval zPolicy (asPolicyCopy defaultPolicy init) defaultPolicy
    fun hash policy =>
      match checkedUint32FromHashIndex hash optWriteTimeout policy.timeout with
      | none => (.errParam, policy)
      | some timeout => (.ok, ⟨timeout⟩)

/-! ## Options that are not part of a policy -/

/-- `set_record_generation_from_write_policy`: the generation to store in the
record, if any, or `AEROSPIKE_ERR_PARAM`. -/
def setRecordGenerationFromWritePolicy (zPolicy : Option Zval) (gen : ℕ) :
    AsStatus × ℕ :=
  match zPolicy with
  | some (.array hash) =>
      match HashTable.indexFind hash optPolicyGen with
      | none => (.ok, gen)
      | some (.array genAry) =>
          if HashTable.numElements genAry ≠ 2 then (.ok, gen)
          else
            match HashTable.indexFind genAry 1 with
            | some (.long generation) => (.ok, toUint16 generation)
            | _ => (.errParam, gen)
      | some _ => (.errParam, gen)
  | _ => (.ok, gen)

/-- `set_operations_generation_from_operate_policy`, which differs from the
above in refusing a policy that is neither null nor an array. -/
def setOperationsGenerationFromOperatePolicy (zPolicy : Option Zval) (gen : ℕ) :
    AsStatus × ℕ :=
  match zPolicy with
  | none | some .null => (.ok, gen)
  | some (.array hash) => setRecordGenerationFromWritePolicy (some (.array hash)) gen
  | some _ => (.errParam, gen)

def setOperationsTtlFromOperatePolicy (zPolicy : Option Zval) (ttl : ℕ) :
    AsStatus × ℕ :=
  match zPolicy with
  | none | some .null => (.ok, ttl)
  | some (.array hash) =>
      match HashTable.indexFind hash optTtl with
      | none => (.ok, ttl)
      | some (.long n) => (.ok, toUint32 n)
      | some _ => (.errParam, ttl)
  | some _ => (.errParam, ttl)

/-- `ini` is the value of `aerospike.serializer`. -/
def setSerializerFromPolicyHash (ini : Int64) (serializerType : SerializerType)
    (zPolicy : Option Zval) : AsStatus × SerializerType :=
  match zPolicy with
  | none | some .null => (.ok, toInt32 ini)
  | some (.array hash) =>
      match HashTable.indexFind hash optSerializer with
      | none => (.ok, toInt32 ini)
      | some (.long n) => (.ok, toInt32 n)
      | some _ => (.errParam, serializerType)
  | some _ => (.errParam, serializerType)

end AerospikePhp
