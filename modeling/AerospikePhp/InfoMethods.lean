import AerospikePhp.KeyMethods
import Mathlib.Tactic

/-!
# Information about the cluster

The info commands, the secondary indexes, `truncate`, `getNodes`, and the
registered UDF modules.  All but `getNodes` run under an info policy.
-/

namespace AerospikePhp

open Procedure Method

section

variable (engine : Engine) (client : Client) (oracle : Oracle)

/-- `zval_to_as_policy_info`, given the info policy of the client's
configuration. -/
def requireInfoPolicy (zPolicy : Option Zval) (message : String) :
    Method PolicyInfo :=
  requirePolicy infoField (zvalToAsPolicyInfo engine.init.info zPolicy)
    (failReturn .errParam message)

/-- Report the error of the last call, if any, and return its code. -/
def reportAndReturn : Method Reply := do
  let s ← Proc.get
  runIf (s.err.code ≠ .ok) reportErr
  returnErrCode

/-! ## Info commands -/

structure HostInfoArgs where
  request : String
  host : Option HashTable
  policy : Option Zval

/-- The host that an array `["addr" => …, "port" => …]` names, or the text of
the error. -/
def hostOfHash (host : HashTable) : Except String (String × ℕ) :=
  match HashTable.strFind host "addr" with
  | none => .error "Host entry must contain an addr"
  | some (.string addr) =>
      match HashTable.strFind host "port" with
      | none => .error "Host entry must contain a port"
      | some (.long port) => .ok (cString addr, toUint16 port)
      | some _ => .error "port entry must be an integer"
  | some _ => .error "addr entry must be a string"

/-- The destination: the host given or else the first one configured. -/
def requireHost (host : Option HashTable) : Method (String × ℕ) :=
  match host with
  | none => pure oracle.firstHost
  | some host =>
      match hostOfHash host with
      | .ok destination => pure destination
      | .error message => failCleanup .errParam message

def infoBody (policy : Option PolicyInfo) (args : HostInfoArgs) :
    Method Unit := do
  let host ← requireHost oracle args.host
  let answer ← issue oracle
    (.info policy (.infoHost host.1 host.2 (cString args.request)))
  cleanupOnError
  forSome answer.response fun response => setOutput (.string response)

def info (args : Option HostInfoArgs) : Method Reply := do
  resetClientError
  requireConnection client
  let args ← orFail args (failReturn .errParam "Invalid arguments to info")
  setOutput .null
  let policy ← whenGiven args.policy
    (requireInfoPolicy engine args.policy "Invalid policy.")
  withCleanup (infoBody oracle policy args) cleanupErr

/-- `update_client_error(..., code, message, false); RETURN_NULL();` -/
def failNull {α : Type} (code : AsStatus) (message : String) : Method α := do
  updateClientError code message
  Proc.exit (.ret .null)

/-- The pair that an element of a list of hosts holds. -/
def hostPair : Zval → Option (String × Int64)
  | .array pair =>
      if HashTable.numElements pair ≠ 2 then none
      else
        match HashTable.strFind pair "addr", HashTable.strFind pair "port" with
        | some (.string addr), some (.long port) => some (addr, port)
        | _, _ => none
  | _ => none

/-- `is_valid_hosts_list`, with the pairs of a list that is valid. -/
def hostPairs (filter : HashTable) : Option (List (String × Int64)) :=
  match HashTable.strFind filter "hosts" with
  | some (.array hosts) => (HashTable.values hosts).mapM hostPair
  | _ => none

/-- `AS_HOSTNAME_SIZE`. -/
def asHostnameSize : ℕ := 256

/-- `snprintf` into a buffer of `AS_HOSTNAME_SIZE` bytes. -/
def hostAddress (host : String × Int64) : String :=
  String.ofList ((cString host.1 ++ ":" ++ toString host.2.toInt).toList.take
    (asHostnameSize - 1))

def nodeInHostsList (address : String) (hosts : List (String × Int64)) : Bool :=
  hosts.any fun host => hostAddress host = address

/-- `AerospikeClient_Info_each` over the nodes. -/
def infoEach (filter : Option (List (String × Int64))) :
    List NodeAnswer → HashTable → HashTable
  | [], table => table
  | node :: nodes, table =>
      if (match filter with
          | some hosts => nodeInHostsList node.address hosts
          | none => true) then
        infoEach filter nodes (HashTable.update table (assocKey node.name)
          (match node.response with
            | some response => .string response
            | none => .null))
      else infoEach filter nodes table

structure InfoManyArgs where
  request : String
  hosts : Option HashTable
  policy : Option Zval

/-- The hosts to which the answers are restricted, when they are given. -/
def requireHostsFilter (hosts : Option HashTable) :
    Method (Option (List (String × Int64))) :=
  match hosts with
  | none => pure none
  | some hosts => do
      let pairs ← orFail (hostPairs hosts)
        (failNull .errParam "Invalid list of hosts.")
      pure (some pairs)

/-- `infoMany` returns an array, or null where it fails. -/
def infoMany (args : Option InfoManyArgs) : Method Reply := do
  resetClientError
  let status ← checkObjectAndConnection client
  runIf (status ≠ .ok) do
    reportErr
    Proc.exit (.ret .null)
  let args ← orFail args
    (failNull .errParam "Invalid parameters for infoMany.")
  let filter ← requireHostsFilter args.hosts
  let policy ← whenGiven args.policy
    (requirePolicy infoField (zvalToAsPolicyInfo engine.init.info args.policy)
      (failNull .errParam "Invalid policy for infoMany."))
  let answer ← issue oracle
    (.info policy (.infoForeach (cString args.request)))
  let s ← Proc.get
  runIf (s.err.code ≠ .ok) do
    reportErr
    Proc.exit (.ret .null)
  Proc.exit (.ret (.value (.array (infoEach filter answer.nodes []))))

/-- The address and the port that a node's address string joins with its last
colon. -/
def splitAddress (address : String) : Option (String × String) :=
  let reversed := address.toList.reverse
  match reversed.dropWhile (· ≠ ':') with
  | [] => none
  | _ :: host => some (String.ofList host.reverse,
      String.ofList (reversed.takeWhile (· ≠ ':')).reverse)

/-- The loop over the nodes, which stops at an address without a colon. -/
def nodesTable : List String → HashTable → HashTable
  | [], table => table
  | address :: addresses, table =>
      match splitAddress address with
      | none => table
      | some (addr, port) =>
          nodesTable addresses (table.push (.array
            [(.str "addr", .string addr), (.str "port", .string port)]))

def getNodes : Method Reply := do
  resetClientError
  requireConnection client
  let nodes ← orFail oracle.nodes (failReturn .errCluster "Invalid cluster")
  Proc.exit (.ret (.value (.array (nodesTable nodes []))))

/-! ## Indexes and truncation -/

structure AddIndexArgs where
  ns : String
  set : String
  bin : String
  name : String
  indexType : Int64
  dataType : Int64
  policy : Option Zval

/-- The second request waits for the index that the first one creates. -/
def addIndex (args : Option AddIndexArgs) : Method Reply := do
  resetClientError
  requireConnection client
  let args ← orFail args (failReturn .errParam "Invalid arguments to addIndex")
  let policy ← requireInfoPolicy engine args.policy "Invalid info policy"
  runIf (args.bin.length > asBinNameMaxLen)
    (failReturn .errParam "Bin name is too long")
  let _ ← issue oracle (.info (some policy)
    (.indexCreate (cString args.ns) (cString args.set) (cString args.bin)
      (cString args.name) (asEnum args.indexType) (asEnum args.dataType)))
  let s ← Proc.get
  runIf (s.err.code ≠ .ok) do
    reportErr
    returnErrCode
  let _ ← issue oracle .indexCreateWait
  reportAndReturn

structure DropIndexArgs where
  ns : String
  name : String
  policy : Option Zval

def dropIndex (args : Option DropIndexArgs) : Method Reply := do
  resetClientError
  requireConnection client
  let args ← orFail args (failReturn .errParam "Invalid arguments to dropIndex")
  let policy ← requireInfoPolicy engine args.policy "Invalid info policy"
  let _ ← issue oracle (.info (some policy)
    (.indexRemove (cString args.ns) (cString args.name)))
  reportAndReturn

structure TruncateArgs where
  ns : String
  set : Option String
  nanos : Int64
  policy : Option Zval

def truncate (args : Option TruncateArgs) : Method Reply := do
  resetClientError
  requireConnection client
  let args ← orFail args
    (failReturn .errParam "Invalid parameters to truncate")
  runIf (args.nanos.toInt < 0)
    (failReturn .errParam "Nanos arg must not be negative")
  runIf (args.ns.length = 0)
    (failReturn .errParam "Namespace must not be empty")
  runIf (args.ns.length ≥ asNamespaceMaxSize)
    (failReturn .errParam "Namespace too long")
  runIf ((args.set.getD "").length ≥ asSetMaxSize)
    (failReturn .errParam "Set too long")
  let policy ← requireInfoPolicy engine args.policy "Invalid policy"
  let _ ← issue oracle (.info (some policy)
    (.truncate (cString args.ns) (args.set.map cString) (toUint64 args.nanos)))
  reportAndReturn

/-! ## UDF modules -/

structure GetRegisteredArgs where
  module : String
  language : Int64
  policy : Option Zval

def getRegisteredBody (policy : PolicyInfo) (args : GetRegisteredArgs) :
    Method Unit := do
  let answer ← issue oracle (.info (some policy)
    (.udfGet (cString args.module) (asEnum args.language)))
  cleanupOnError
  setOutput (.string answer.content)

def getRegistered (args : Option GetRegisteredArgs) : Method Reply := do
  resetClientError
  requireConnection client
  let args ← orFail args
    (failReturn .errParam "Invalid Parameters for getRegistered")
  setOutput .null
  let policy ← requireInfoPolicy engine args.policy "Invalid information policy"
  withCleanup (getRegisteredBody oracle policy args) cleanupErr

structure RegisterArgs where
  module : String
  language : Int64
  policy : Option Zval

/-- The file that the path names, copied into the Lua path. -/
def requireUdfFile (file : UdfFile) : Method (List UInt8) :=
  match file with
  | .failed code message => failCleanup code message
  | .copied content => pure content

def registerBody (policy : PolicyInfo) (args : RegisterArgs) : Method Unit := do
  let content ← requireUdfFile oracle.udfFile
  let _ ← issue oracle (.info (some policy)
    (.udfPut (cString args.module) (asEnum args.language) content))
  let s ← Proc.get
  runIf (s.err.code ≠ .ok) do
    reportErr
    gotoCleanup
  let _ ← issue oracle (.info (some policy) (.udfPutWait (cString args.module)))

def register (args : Option RegisterArgs) : Method Reply := do
  resetClientError
  requireConnection client
  let args ← orFail args
    (failReturn .errParam "Invalid Parameters for register")
  runIf (args.module.length = 0)
    (failReturn .errParam "Empty filename for udf")
  let policy ← requireInfoPolicy engine args.policy "Invalid information policy"
  withCleanup (registerBody oracle policy args) cleanupErr

structure DeregisterArgs where
  module : String
  policy : Option Zval

def deregister (args : Option DeregisterArgs) : Method Reply := do
  resetClientError
  requireConnection client
  let args ← orFail args
    (failReturn .errParam "Invalid parameters for deregister")
  let policy ← requireInfoPolicy engine args.policy "Invalid information policy"
  let _ ← issue oracle (.info (some policy) (.udfRemove (cString args.module)))
  reportAndReturn

/-- The modules written in the language asked for. -/
def modulesTable (language : Int64) : List (String × Int64) → HashTable → HashTable
  | [], table => table
  | (name, type) :: files, table =>
      if type = language then
        modulesTable language files (table.push (.array
          [(.str "name", .string name), (.str "type", .long type)]))
      else modulesTable language files table

structure ListRegisteredArgs where
  language : Int64
  policy : Option Zval

def listRegisteredBody (policy : PolicyInfo) (args : ListRegisteredArgs) :
    Method Unit := do
  let answer ← issue oracle (.info (some policy) .udfList)
  let s ← Proc.get
  runIf (s.err.code ≠ .ok) do
    reportErr
    gotoCleanup
  setOutput (.array (modulesTable args.language answer.files []))

/-- Here the `CLEANUP` does not report. -/
def listRegistered (args : Option ListRegisteredArgs) : Method Reply := do
  resetClientError
  requireConnection client
  let args ← orFail args
    (failReturn .errParam "Invalid parameters for deRegister")
  setOutput .null
  let policy ← requireInfoPolicy engine args.policy "Invalid information policy"
  withCleanup (listRegisteredBody oracle policy args) returnErrCode

end

end AerospikePhp
