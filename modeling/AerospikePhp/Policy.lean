import AerospikePhp.Value
import Mathlib.Tactic

/-!
# Policies and their conversion

The policy structures of the C client, with the fields the extension sets, and
the converters that read a PHP options array into one of them.  A converter is
given a pointer to a local policy and a pointer to the default policy of the
same type, which lies in the client's live configuration; what it leaves in
both is part of its result.
-/

namespace AerospikePhp

/-! ## The keys of an options array -/

def optReadTimeout : Int64 := 2
def optWriteTimeout : Int64 := 3
def optPolicyExists : Int64 := 5
def optSerializer : Int64 := 6
def optScanRpsLimit : Int64 := 8
def optScanConcurrently : Int64 := 10
def optScanNobins : Int64 := 11
def optPolicyKey : Int64 := 13
def optPolicyGen : Int64 := 14
def optPolicyReplica : Int64 := 15
def optPolicyReadModeAp : Int64 := 16
def optPolicyReadModeSc : Int64 := 17
def optPolicyCommitLevel : Int64 := 18
def optTtl : Int64 := 19
def compressionThreshold : Int64 := 22
def optPolicyDurableDelete : Int64 := 23
def optSocketTimeout : Int64 := 24
def optMapOrder : Int64 := 25
def optMapWriteMode : Int64 := 26
def optMapWriteFlags : Int64 := 27
def optTotalTimeout : Int64 := 28
def optMaxRetries : Int64 := 29
def optBatchConcurrent : Int64 := 31
def optAllowInline : Int64 := 32
def optSendSetName : Int64 := 33
def optQueryNobins : Int64 := 54

/-! ## The policies

A C enumeration is stored as an unsigned 32-bit integer.
-/

structure PolicyBase where
  totalTimeout : ℕ
  socketTimeout : ℕ
  maxRetries : ℕ
  sleepBetweenRetries : ℕ
  deriving DecidableEq, Repr, Inhabited

structure PolicyRead where
  base : PolicyBase
  key : ℕ
  replica : ℕ
  readModeAp : ℕ
  readModeSc : ℕ
  deserialize : Bool
  deriving DecidableEq, Repr, Inhabited

structure PolicyWrite where
  base : PolicyBase
  key : ℕ
  replica : ℕ
  commitLevel : ℕ
  gen : ℕ
  «exists» : ℕ
  compressionThreshold : ℕ
  durableDelete : Bool
  deriving DecidableEq, Repr, Inhabited

structure PolicyRemove where
  base : PolicyBase
  key : ℕ
  replica : ℕ
  commitLevel : ℕ
  gen : ℕ
  generation : ℕ
  durableDelete : Bool
  deriving DecidableEq, Repr, Inhabited

structure PolicyOperate where
  base : PolicyBase
  key : ℕ
  replica : ℕ
  readModeAp : ℕ
  readModeSc : ℕ
  commitLevel : ℕ
  gen : ℕ
  «exists» : ℕ
  deserialize : Bool
  durableDelete : Bool
  deriving DecidableEq, Repr, Inhabited

structure PolicyApply where
  base : PolicyBase
  key : ℕ
  replica : ℕ
  commitLevel : ℕ
  durableDelete : Bool
  deriving DecidableEq, Repr, Inhabited

structure PolicyScan where
  base : PolicyBase
  recordsPerSecond : ℕ
  durableDelete : Bool
  deriving DecidableEq, Repr, Inhabited

structure PolicyQuery where
  base : PolicyBase
  deserialize : Bool
  deriving DecidableEq, Repr, Inhabited

structure PolicyBatch where
  base : PolicyBase
  readModeAp : ℕ
  readModeSc : ℕ
  concurrent : Bool
  allowInline : Bool
  sendSetName : Bool
  deserialize : Bool
  deriving DecidableEq, Repr, Inhabited

/-- `as_policy_info`, and `as_policy_admin` likewise. -/
structure PolicyInfo where
  timeout : ℕ
  deriving DecidableEq, Repr, Inhabited

/-- `as_config.policies`, and the values of the `as_policy_*_init` functions
alike. -/
structure Policies where
  read : PolicyRead
  write : PolicyWrite
  remove : PolicyRemove
  operate : PolicyOperate
  apply : PolicyApply
  scan : PolicyScan
  query : PolicyQuery
  batch : PolicyBatch
  info : PolicyInfo
  admin : PolicyInfo
  deriving DecidableEq, Repr, Inhabited

/-- `as_policy_*_copy(src, trg)`: the new contents of `trg`. -/
def asPolicyCopy {P : Type} (src _trg : P) : P := src

/-! ## Reading one field -/

def setUint32FromHashIndex (hash : HashTable) (index : Int64) (target : ℕ) : ℕ :=
  match hash.indexFind index with
  | some (.long n) => toUint32 n
  | _ => target

def setUint32FromHashKey (hash : HashTable) (key : String) (target : ℕ) : ℕ :=
  match hash.strFind key with
  | some (.long n) => toUint32 n
  | _ => target

def setBoolFromHashIndex (hash : HashTable) (index : Int64) (target : Bool) :
    Bool :=
  match hash.indexFind index with
  | some (.bool b) => b
  | _ => target

def setBoolFromHashKey (hash : HashTable) (key : String) (target : Bool) :
    Bool :=
  match hash.strFind key with
  | some (.bool b) => b
  | _ => target

def setKeyFromHash (hash : HashTable) (target : ℕ) : ℕ :=
  setUint32FromHashIndex hash optPolicyKey target

def setReplicaFromHash (hash : HashTable) (target : ℕ) : ℕ :=
  setUint32FromHashIndex hash optPolicyReplica target

def setReadModeApFromHash (hash : HashTable) (target : ℕ) : ℕ :=
  setUint32FromHashIndex hash optPolicyReadModeAp target

def setReadModeScFromHash (hash : HashTable) (target : ℕ) : ℕ :=
  setUint32FromHashIndex hash optPolicyReadModeSc target

def setExistsFromHash (hash : HashTable) (target : ℕ) : ℕ :=
  setUint32FromHashIndex hash optPolicyExists target

def setCommitLevelFromHash (hash : HashTable) (target : ℕ) : ℕ :=
  setUint32FromHashIndex hash optPolicyCommitLevel target

def setBasePolicyFromHash (hash : HashTable) (base : PolicyBase) : PolicyBase where
  sleepBetweenRetries :=
    setUint32FromHashKey hash "sleep_between_retries" base.sleepBetweenRetries
  maxRetries := setUint32FromHashIndex hash optMaxRetries base.maxRetries
  totalTimeout := setUint32FromHashIndex hash optTotalTimeout base.totalTimeout
  socketTimeout :=
    setUint32FromHashIndex hash optSocketTimeout base.socketTimeout

/-! ## Reading a whole policy

The `set_*_policy_from_hash` functions, which the constructor uses too.
-/

def setReadPolicyFromHash (hash : HashTable) (policy : PolicyRead) :
    PolicyRead where
  readModeAp := setReadModeApFromHash hash policy.readModeAp
  deserialize := setBoolFromHashKey hash "deserialize" policy.deserialize
  readModeSc := setReadModeScFromHash hash policy.readModeSc
  key := setKeyFromHash hash policy.key
  replica := setReplicaFromHash hash policy.replica
  base := setBasePolicyFromHash hash policy.base

def setWritePolicyFromHash (hash : HashTable) (policy : PolicyWrite) :
    PolicyWrite where
  gen := policy.gen
  compressionThreshold :=
    setUint32FromHashIndex hash compressionThreshold policy.compressionThreshold
  «exists» := setExistsFromHash hash policy.exists
  commitLevel := setCommitLevelFromHash hash policy.commitLevel
  durableDelete :=
    setBoolFromHashIndex hash optPolicyDurableDelete policy.durableDelete
  key := setKeyFromHash hash policy.key
  replica := setReplicaFromHash hash policy.replica
  base := setBasePolicyFromHash hash policy.base

def setRemovePolicyFromHash (hash : HashTable) (policy : PolicyRemove) :
    PolicyRemove where
  gen := policy.gen
  generation := policy.generation
  commitLevel := setCommitLevelFromHash hash policy.commitLevel
  durableDelete :=
    setBoolFromHashIndex hash optPolicyDurableDelete policy.durableDelete
  key := setKeyFromHash hash policy.key
  replica := setReplicaFromHash hash policy.replica
  base := setBasePolicyFromHash hash policy.base

def setBatchPolicyFromHash (hash : HashTable) (policy : PolicyBatch) :
    PolicyBatch where
  concurrent := setBoolFromHashIndex hash optBatchConcurrent policy.concurrent
  allowInline := setBoolFromHashIndex hash optAllowInline policy.allowInline
  sendSetName := setBoolFromHashIndex hash optSendSetName policy.sendSetName
  readModeAp := setReadModeApFromHash hash policy.readModeAp
  deserialize := setBoolFromHashKey hash "deserialize" policy.deserialize
  readModeSc := setReadModeScFromHash hash policy.readModeSc
  base := setBasePolicyFromHash hash policy.base

def setOperatePolicyFromHash (hash : HashTable) (policy : PolicyOperate) :
    PolicyOperate where
  gen := policy.gen
  readModeAp := setReadModeApFromHash hash policy.readModeAp
  deserialize := setBoolFromHashKey hash "deserialize" policy.deserialize
  readModeSc := setReadModeScFromHash hash policy.readModeSc
  «exists» := setExistsFromHash hash policy.exists
  commitLevel := setCommitLevelFromHash hash policy.commitLevel
  durableDelete :=
    setBoolFromHashIndex hash optPolicyDurableDelete policy.durableDelete
  key := setKeyFromHash hash policy.key
  replica := setReplicaFromHash hash policy.replica
  base := setBasePolicyFromHash hash policy.base

def setQueryPolicyFromHash (hash : HashTable) (policy : PolicyQuery) :
    PolicyQuery where
  deserialize := setBoolFromHashKey hash "deserialize" policy.deserialize
  base := setBasePolicyFromHash hash policy.base

def setScanPolicyFromHash (hash : HashTable) (policy : PolicyScan) :
    PolicyScan where
  durableDelete :=
    setBoolFromHashIndex hash optPolicyDurableDelete policy.durableDelete
  recordsPerSecond :=
    setUint32FromHashIndex hash optScanRpsLimit policy.recordsPerSecond
  base := setBasePolicyFromHash hash policy.base

def setApplyPolicyFromHash (hash : HashTable) (policy : PolicyApply) :
    PolicyApply where
  commitLevel := setCommitLevelFromHash hash policy.commitLevel
  durableDelete :=
    setBoolFromHashIndex hash optPolicyDurableDelete policy.durableDelete
  key := setKeyFromHash hash policy.key
  replica := setReplicaFromHash hash policy.replica
  base := setBasePolicyFromHash hash policy.base

end AerospikePhp
