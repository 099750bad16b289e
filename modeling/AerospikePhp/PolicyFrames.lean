import AerospikePhp.ConnectionGuard
import AerospikePhp.QueryRequests
import Mathlib.Tactic

/-!
# What the calls do to the configured policies

A client's default policies lie in the configuration behind its handle, and
every converter gets a pointer to one of them.  Only the converter of the
operate policy writes through it.
-/

namespace AerospikePhp

open Procedure Method Proc

-- a method body is one instance problem with a premise for every statement
set_option synthInstance.maxSize 200000

section

variable {engine : Engine} {client : Client} {oracle : Oracle}

/-! ## Pieces that look at their arguments only -/

section

variable {R : CallState → CallState → Prop} [Frame R]

instance : Moves R reportAndReturn := by
  unfold reportAndReturn
  infer_instance

instance : Moves R queryRoleCleanup := by
  unfold queryRoleCleanup
  infer_instance

instance (select : Option HashTable) : Moves R (requireSelect select) := by
  unfold requireSelect
  infer_instance

instance : Moves R (requireQueryInit oracle) := by
  unfold requireQueryInit
  infer_instance

instance (serializerType : SerializerType) (zArgs : HashTable) :
    Moves R (requireArgs engine serializerType zArgs) := by
  unfold requireArgs
  infer_instance

instance (serializerType : SerializerType) (zArgs : HashTable) :
    Moves R (requireCleanArgs engine serializerType zArgs) := by
  unfold requireCleanArgs
  infer_instance

instance (serializerType : SerializerType) (zArgs : Option HashTable) :
    Moves R (applyArgs engine serializerType zArgs) := by
  cases zArgs with
  | none => exact inferInstanceAs (Moves R (pure (some [])))
  | some zArgs =>
      exact inferInstanceAs (Moves R (requireArgs engine serializerType zArgs))

instance (host : Option HashTable) : Moves R (requireHost oracle host) := by
  cases host with
  | none => exact inferInstanceAs (Moves R (pure oracle.firstHost))
  | some host =>
      unfold requireHost
      dsimp only
      cases hostOfHash host <;> infer_instance

instance (file : UdfFile) : Moves R (requireUdfFile file) := by
  cases file with
  | failed code message =>
      exact inferInstanceAs
        (Moves R (failCleanup code message : Method (List UInt8)))
  | copied content => exact inferInstanceAs (Moves R (pure content))

instance {α : Type} (code : AsStatus) (message : String) :
    Moves R (failNull code message : Method α) := by
  unfold failNull
  infer_instance

instance {α : Type} (converted : Except String α) :
    Moves R (requireConverted converted) := by
  cases converted with
  | ok value => exact inferInstanceAs (Moves R (pure value))
  | error message =>
      exact inferInstanceAs (Moves R (failCleanup _ message : Method α))

instance : Moves R (requireConnectionAgain client) := by
  unfold requireConnectionAgain
  infer_instance

instance (user tooLong : String) : Moves R (checkUser user tooLong) := by
  unfold checkUser
  infer_instance

instance (hosts : Option HashTable) : Moves R (requireHostsFilter hosts) := by
  cases hosts with
  | none => exact inferInstanceAs (Moves R (pure none))
  | some hosts =>
      unfold requireHostsFilter
      infer_instance

instance (policy : PolicyRead) (key : AsKey) (filter : Option Zval)
    [hget : Moves R (issue oracle (.keyGet policy key))]
    [hselect : ∀ bins, Moves R (issue oracle (.keySelect policy key bins))] :
    Moves R (readWithFilter oracle policy key filter) := by
  cases filter with
  | none => exact hget
  | some z =>
      cases z with
      | array bins =>
          show Moves R (asGetWithBins oracle policy key bins)
          unfold asGetWithBins
          cases filterBinNames bins <;> infer_instance
      | undef | null | bool _ | long _ | double _ | string _ | object _ _
      | resource | reference _ =>
          exact inferInstanceAs (Moves R (failReturn _ _ : Method Answer))

instance (policy : PolicyRead) (key : AsKey) (filter : Option Zval)
    [Moves R (issue oracle (.keyGet policy key))]
    [∀ bins, Moves R (issue oracle (.keySelect policy key bins))] :
    Moves R (getBody engine oracle policy key filter) := by
  unfold getBody
  infer_instance

instance (policy : Option PolicyBatch) (bins : Option (List String))
    (zKeys : HashTable) [∀ reads, Moves R (issue oracle (.batchRead policy reads))] :
    Moves R (getManyWithBatchRead engine oracle policy bins zKeys) := by
  unfold getManyWithBatchRead
  infer_instance

instance (policy : Option PolicyInfo) (command : AdminCommand)
    [Moves R (issue oracle (.admin policy command))] :
    Moves R (issueAdmin oracle policy command) := by
  unfold issueAdmin
  infer_instance

end

/-! ## Calls that convert no operate policy -/

instance (zPolicy : Option Zval) (message : String) :
    Moves SamePolicies (requireInfoPolicy engine zPolicy message) := by
  unfold requireInfoPolicy
  infer_instance

instance (zPolicy : Option Zval) (message : String) :
    Moves SamePolicies (requireAdminPolicy engine zPolicy message) := by
  unfold requireAdminPolicy
  infer_instance

instance (bins : HashTable) (ttl : Option Int64) (args : PutArgs) :
    Moves SamePolicies (putBody engine oracle bins ttl args) := by
  unfold putBody
  dsimp only
  infer_instance

instance (command : String → String → AdminCommand) (args : Option PasswordArgs) :
    Moves SamePolicies (passwordBody engine oracle command args) := by
  unfold passwordBody
  infer_instance

/-- The call is of a method that converts an operate policy. -/
def Call.isOperate : Call → Bool
  | .operate _ | .operateOrdered _ | .touch _ | .append _ | .prepend _
  | .increment _ | .listSize _ | .listAppend _ | .listMerge _ | .listInsert _
  | .listInsertItems _ | .listPop _ | .listPopRange _ | .listRemove _
  | .listRemoveRange _ | .listTrim _ | .listClear _ | .listSet _ | .listGet _
  | .listGetRange _ => true
  | _ => false

theorem call_keepsPolicies (call : Call) (hcall : call.isOperate = false) :
    Moves SamePolicies (call.method engine client oracle) := by
  cases call with
  | get _ | «exists» _ | put _ | remove _ | removeBin _ | getMany _
  | existsMany _ =>
      all_goals
        simp only [Call.method, get, AerospikePhp.exists, put, remove,
          removeBin, getMany, getManyBody, existsMany, existsManyBody]
        infer_instance
  | query _ | queryApply _ | aggregate _ | scan _ | scanApply _ | apply _
  | scanInfo _ | jobInfo _ =>
      all_goals
        simp only [Call.method, query, queryBody, queryApply, queryApplyBody,
          aggregate, aggregateBody, scan, scanBody, scanApply, scanApplyBody,
          apply, applyBody, scanInfo, jobInfo, jobInfoBody]
        infer_instance
  | info _ | infoMany _ | getNodes | addIndex _ | dropIndex _ | truncate _
  | getRegistered _ | register _ | deregister _ | listRegistered _ =>
      all_goals
        simp only [Call.method, info, infoBody, infoMany, getNodes, addIndex, dropIndex,
          truncate, getRegistered, getRegisteredBody, register, registerBody,
          deregister, listRegistered, listRegisteredBody]
        infer_instance
  | createRole _ | queryRole _ | queryRoles _ | dropRole _ | grantPrivileges _
  | revokePrivileges _ =>
      all_goals
        simp only [Call.method, createRole, createRoleBody, queryRole,
          queryRoleBody, queryRoles, queryRolesBody, dropRole, dropRoleBody,
          grantPrivileges, revokePrivileges, privilegesBody]
        infer_instance
  | createUser _ | changePassword _ | setPassword _ | grantRoles _
  | revokeRoles _ | queryUser _ | queryUsers _ | dropUser _ =>
      all_goals
        simp only [Call.method, createUser, createUserBody, changePassword,
          setPassword, grantRoles, revokeRoles, userRolesBody, queryUser,
          queryUserBody, queryUsers, queryUsersBody, dropUser, dropUserBody]
        infer_instance
  | _ => simp [Call.isOperate] at hcall

end

end AerospikePhp
