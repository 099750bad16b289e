import AerospikePhp.Operations
import AerospikePhp.PolicyConversions
import AerospikePhp.Records
import Mathlib.Tactic

/-!
# Requests to the cluster

The calls of the C client that send something, with the arguments the
extension gives them.  A policy that is `none` is a NULL pointer, for which the
client takes the policy of its configuration.
-/

namespace AerospikePhp

/-- The `as_index_type` values that a predicate can name. -/
inductive IndexType where
  | list | mapKeys | mapValues
  deriving DecidableEq, Repr

/-- The argument of one `as_query_where` call. -/
inductive WhereClause where
  | integerEquals (bin : String) (value : Int64)
  | stringEquals (bin value : String)
  | integerRange (bin : String) (min max : Int64)
  | containsInteger (type : IndexType) (bin : String) (value : Int64)
  | containsString (type : IndexType) (bin value : String)
  | range (type : IndexType) (bin : String) (min max : Int64)
  | geoWithin (bin region : String)
  | geoContains (bin point : String)
  deriving DecidableEq, Repr

/-- The function that a scan or a query applies.  The arguments are a pointer
and can be NULL, which the client takes for no arguments. -/
structure UdfCall where
  module : String
  function : String
  args : Option (List AsVal)

structure AsQuery where
  ns : String
  set : String
  select : List String := []
  noBins : Bool := false
  wheres : List WhereClause := []
  apply : Option UdfCall := none

structure AsScan where
  ns : String
  set : String
  select : List String := []
  noBins : Bool := false
  concurrent : Bool := false
  apply : Option UdfCall := none

structure AsOperations where
  ops : List Operation := []
  gen : ℕ := 0
  ttl : ℕ := 0

/-- An element of an `as_batch_read_records`. -/
structure BatchRead where
  key : AsKey
  /-- `none` for `read_all_bins`. -/
  binNames : Option (List String)

structure Privilege where
  code : Int64
  ns : String
  set : String
  deriving DecidableEq, Repr

/-- The user administration calls. -/
inductive AdminCommand where
  | createRole (role : String) (privileges : List Privilege)
  | queryRole (role : String)
  | queryRoles
  | dropRole (role : String)
  | createUser (user password : String) (roles : List String)
  | dropUser (user : String)
  | grantPrivileges (role : String) (privileges : List Privilege)
  | revokePrivileges (role : String) (privileges : List Privilege)
  | changePassword (user password : String)
  | setPassword (user password : String)
  | grantRoles (user : String) (roles : List String)
  | revokeRoles (user : String) (roles : List String)
  | queryUser (user : String)
  | queryUsers

/-- The calls under an info policy. -/
inductive InfoCommand where
  | infoHost (host : String) (port : ℕ) (request : String)
  | infoForeach (request : String)
  | scanInfo (scanId : ℕ)
  | jobInfo (module : String) (jobId : ℕ)
  | indexCreate (ns set bin name : String) (indexType dataType : Int64)
  | indexRemove (ns name : String)
  | truncate (ns : String) (set : Option String) (nanos : ℕ)
  | udfGet (module : String) (language : Int64)
  | udfPut (module : String) (language : Int64) (content : List UInt8)
  | udfPutWait (module : String)
  | udfRemove (module : String)
  | udfList

inductive Request where
  | keyGet (policy : PolicyRead) (key : AsKey)
  | keySelect (policy : PolicyRead) (key : AsKey) (bins : List String)
  | keyExists (policy : PolicyRead) (key : AsKey)
  | keyPut (policy : Option PolicyWrite) (key : AsKey) (record : AsRecord)
  | keyRemove (policy : PolicyRemove) (key : AsKey)
  | keyOperate (policy : Option PolicyOperate) (key : AsKey)
      (operations : AsOperations)
  | keyApply (policy : PolicyApply) (key : AsKey) (call : UdfCall)
  | batchRead (policy : Option PolicyBatch) (reads : List BatchRead)
  | batchExists (policy : Option PolicyBatch) (keys : List AsKey)
  | scanForeach (policy : PolicyScan) (scan : AsScan)
  | scanBackground (policy : PolicyScan) (scan : AsScan)
  | scanWait (scanId : ℕ)
  | queryForeach (policy : Option PolicyQuery) (query : AsQuery)
  | queryBackground (policy : PolicyWrite) (query : AsQuery)
  | info (policy : Option PolicyInfo) (command : InfoCommand)
  | indexCreateWait
  | admin (policy : Option PolicyInfo) (command : AdminCommand)

/-! ## Answers -/

/-- What the client delivers for one key of a batch. -/
structure BatchResult where
  result : AsStatus
  record : AsRecord
  deriving Inhabited

/-- The answer of a node to `aerospike_info_foreach`. -/
structure NodeAnswer where
  name : String
  address : String
  response : Option String

/-- The answer to one request: the error object, which the client resets when
a call starts and which holds the status the call returns, and what the call
delivers through its out-parameters and callbacks. -/
structure Answer where
  err : AsError
  record : Option AsRecord := none
  value : Option AsVal := none
  /-- The results of a batch, by the place of the key. -/
  results : ℕ → BatchResult := fun _ => default
  /-- `aerospike_batch_exists` calls its callback with the results. -/
  delivers : Bool := true
  /-- The values an aggregation streams to its callback. -/
  stream : List AsVal := []
  jobId : ℕ := 0
  /-- Progress, records read and status of a job. -/
  job : ℕ × ℕ × ℕ := (0, 0, 0)
  response : Option String := none
  nodes : List NodeAnswer := []
  files : List (String × Int64) := []
  content : String := ""
  role : Option (List Privilege) := none
  roles : List (String × List Privilege) := []
  user : Option (List String) := none
  users : List (String × List String) := []

end AerospikePhp
