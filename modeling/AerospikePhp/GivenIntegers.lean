import AerospikePhp.ConfiguredIntegers
import AerospikePhp.OperateBatch
import AerospikePhp.Calls
import Mathlib.Tactic

/-!
# The integers of a call

The integers that a program gives a call (a ttl, the port of a host, and the
timeouts, retries, sleeps and limits among the options), and the fields of a
request where they arrive.
-/

namespace AerospikePhp

/-! ## The fields of a request -/

/-- The integers of a policy that the call can leave out. -/
def policyInteger {P : Type} (integer : P → PolicyInteger → Option ℕ)
    (policy : Option P) (field : PolicyInteger) : Option ℕ :=
  policy.bind fun policy => integer policy field

def Request.integer : Request → PolicyInteger → Option ℕ
  | .keyGet policy _ | .keySelect policy _ _ | .keyExists policy _ =>
      policy.base.integer
  | .keyPut policy _ _ => policyInteger (fun p => p.base.integer) policy
  | .keyRemove policy _ => policy.base.integer
  | .keyOperate policy _ _ => policyInteger (fun p => p.base.integer) policy
  | .keyApply policy _ _ => policy.base.integer
  | .batchRead policy _ | .batchExists policy _ =>
      policyInteger (fun p => p.base.integer) policy
  | .scanForeach policy _ | .scanBackground policy _ => policy.integer
  | .queryForeach policy _ => policyInteger (fun p => p.base.integer) policy
  | .queryBackground policy _ => policy.base.integer
  | .info policy _ | .admin policy _ =>
      policyInteger PolicyInfo.integer policy
  | .scanWait _ | .indexCreateWait => fun _ => none

def Request.ttl : Request → Option ℕ
  | .keyPut _ _ record => some record.ttl
  | .keyOperate _ _ operations => some operations.ttl
  | _ => none

def Request.port : Request → Option ℕ
  | .info _ (.infoHost _ port _) => some port
  | _ => none

/-- The calls that wait for a job or for an index take no options. -/
def Request.takesOptions : Request → Bool
  | .scanWait _ | .indexCreateWait => false
  | _ => true

/-! ## What a call gives -/

/-- `OPT_TTL` among the options. -/
def optionTtl : Option Zval → Option Int64
  | some (.array hash) => longOf (HashTable.indexFind hash optTtl)
  | _ => none

/-- The ttl of a touch in the operations array. -/
def touchTtl (operators : OperatorCodes) : Zval → Option Int64
  | .array entry =>
      if entryOpType operators entry = some .touch then longEntry entry "ttl"
      else none
  | _ => none

/-- The last touch counts, and the option where no touch has a ttl. -/
def operateTtl (operators : OperatorCodes) (args : OperateArgs) : Option Int64 :=
  ((HashTable.values args.operations).filterMap (touchTtl operators)).getLast? <|>
    optionTtl args.policy

/-- The port of a host array. -/
def hostPort (host : HashTable) : Option Int64 :=
  longOf (HashTable.strFind host "port")

namespace Call

def kind : Call → OptionsKind
  | .get _ | .exists _ | .getMany _ | .existsMany _ | .query _
  | .aggregate _ => .read
  | .scan _ | .scanApply _ => .scan
  | .scanInfo _ | .jobInfo _ | .info _ | .infoMany _ | .getNodes | .addIndex _
  | .dropIndex _ | .truncate _ | .getRegistered _ | .register _
  | .deregister _ | .listRegistered _ => .info
  | .createRole _ | .queryRole _ | .queryRoles _ | .dropRole _
  | .grantPrivileges _ | .revokePrivileges _ | .createUser _
  | .changePassword _ | .setPassword _ | .grantRoles _ | .revokeRoles _
  | .queryUser _ | .queryUsers _ | .dropUser _ => .admin
  | _ => .write

/-- The options array of the call. -/
def options : Call → Option Zval
  | .get args => args.bind GetArgs.policy
  | .exists args => args.bind ExistsArgs.policy
  | .put args => args.bind PutArgs.policy
  | .remove args => args.bind RemoveArgs.options
  | .removeBin args => args.bind RemoveBinArgs.policy
  | .getMany args => args.bind GetManyArgs.policy
  | .existsMany args => args.bind ExistsManyArgs.policy
  | .operate args | .operateOrdered args => args.bind OperateArgs.policy
  | .touch args => args.bind TouchArgs.policy
  | .append args | .prepend args => args.bind StringOpArgs.policy
  | .increment args => args.bind IncrementArgs.policy
  | .listSize args | .listClear args => args.bind ListArgs.policy
  | .listAppend args => args.bind fun args => args.1.policy
  | .listMerge args => args.bind fun args => args.1.policy
  | .listInsert args | .listSet args => args.bind fun args => args.1.policy
  | .listInsertItems args => args.bind fun args => args.1.policy
  | .listPop args | .listRemove args | .listGet args =>
      args.bind fun args => args.1.policy
  | .listPopRange args | .listRemoveRange args | .listTrim args
  | .listGetRange args => args.bind fun args => args.1.policy
  | .query args => args.bind QueryArgs.policy
  | .queryApply args | .aggregate args => args.bind UdfQueryArgs.policy
  | .scan args => args.bind ScanArgs.policy
  | .scanApply args => args.bind ScanApplyArgs.policy
  | .apply args => args.bind ApplyArgs.policy
  | .scanInfo args => args.bind ScanInfoArgs.policy
  | .jobInfo args => args.bind JobInfoArgs.policy
  | .info args => args.bind HostInfoArgs.policy
  | .infoMany args => args.bind InfoManyArgs.policy
  | .getNodes => none
  | .addIndex args => args.bind AddIndexArgs.policy
  | .dropIndex args => args.bind DropIndexArgs.policy
  | .truncate args => args.bind TruncateArgs.policy
  | .getRegistered args => args.bind GetRegisteredArgs.policy
  | .register args => args.bind RegisterArgs.policy
  | .deregister args => args.bind DeregisterArgs.policy
  | .listRegistered args => args.bind ListRegisteredArgs.policy
  | .createRole args | .grantPrivileges args | .revokePrivileges args =>
      args.bind RoleArgs.policy
  | .queryRole args => args.bind QueryRoleArgs.policy
  | .dropRole args | .queryUser args | .dropUser args =>
      args.bind NameArgs.policy
  | .queryRoles args | .queryUsers args => args.join
  | .createUser args => args.bind CreateUserArgs.policy
  | .changePassword args | .setPassword args => args.bind PasswordArgs.policy
  | .grantRoles args | .revokeRoles args => args.bind UserRolesArgs.policy

/-- The ttl of the record: an argument of `put` and `touch`, an option of the
other methods that write. -/
def givenTtl (operators : OperatorCodes) (call : Call) : Option Int64 :=
  match call with
  | .put args => args.bind fun args => (putTtl args.ttl).join
  | .touch args => args.map TouchArgs.ttl
  | .operate args | .operateOrdered args => args.bind (operateTtl operators)
  | .removeBin _ | .append _ | .prepend _ | .increment _ | .listSize _
  | .listAppend _ | .listMerge _ | .listInsert _ | .listInsertItems _
  | .listPop _ | .listPopRange _ | .listRemove _ | .listRemoveRange _
  | .listTrim _ | .listClear _ | .listSet _ | .listGet _ | .listGetRange _ =>
      optionTtl call.options
  | _ => none

def givenPort : Call → Option Int64
  | .info args => args.bind fun args => args.host.bind hostPort
  | _ => none

end Call

end AerospikePhp
