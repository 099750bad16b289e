import AerospikePhp.KeyMethods
import Mathlib.Tactic

/-!
# User administration

Fourteen methods over the roles and the users of a cluster.  Nearly all leave
every error to their `CLEANUP`.
-/

namespace AerospikePhp

open Procedure Method

section

variable (engine : Engine) (client : Client) (oracle : Oracle)

/-! ## Pieces -/

/-- `AS_ROLE_SIZE`. -/
def asRoleSize : ℕ := 64

/-- `AS_USER_SIZE`. -/
def asUserSize : ℕ := 64

/-- `zval_to_as_policy_admin`, for the options that are given. -/
def requireAdminPolicy (zPolicy : Option Zval) (message : String) :
    Method (Option PolicyInfo) :=
  whenGiven zPolicy
    (requirePolicy adminField (zvalToAsPolicyAdmin engine.init.admin zPolicy)
      (failCleanup .errParam message))

/-- The name of a namespace or of a set in a privilege, empty when it is
missing. -/
def privilegeName (privilege : HashTable) (field : String) (size : ℕ)
    (notString tooLong : String) : Except String String :=
  match HashTable.strFind privilege field with
  | none => .ok ""
  | some (.string name) =>
      if name.length ≥ size then .error tooLong else .ok (cString name)
  | some _ => .error notString

def hashToPrivilege : Zval → Except String Privilege
  | .array hash =>
      match HashTable.strFind hash "code" with
      | none => .error "privilege must contain a code entry"
      | some (.long code) => do
          let ns ← privilegeName hash "ns" asNamespaceMaxSize
            "Namespace must be a string" "Namespace is too long"
          let set ← privilegeName hash "set" asSetMaxSize
            "Set must be a string" "Set is too long"
          .ok ⟨asEnum code, ns, set⟩
      | some _ => .error "code must be an integer"
  | _ => .error "privilege must be an array"

/-- `z_hashtable_to_as_privileges`, or the text of its error. -/
def zHashtableToAsPrivileges (hash : HashTable) :
    Except String (List Privilege) :=
  (HashTable.values hash).mapM hashToPrivilege

def hashToRole : Zval → Except String String
  | .string role =>
      if role.length ≥ asRoleSize then .error "Role name is too long"
      else .ok (cString role)
  | _ => .error "Role must be a string"

/-- `z_hash_to_str_array`, or the text of its error. -/
def zHashToStrArray (hash : HashTable) : Except String (List String) :=
  (HashTable.values hash).mapM hashToRole

/-- The value that a converter finds, or its error. -/
def requireConverted {α : Type} (converted : Except String α) : Method α :=
  match converted with
  | .ok value => pure value
  | .error message => failCleanup .errParam message

/-- `as_privilege_to_zval`. -/
def asPrivilegeToZval (privilege : Privilege) : Zval :=
  .array [(.str "ns", .string privilege.ns), (.str "set", .string privilege.set),
    (.str "code", .long privilege.code)]

def pushAll (zs : List Zval) : HashTable := zs.foldl HashTable.push []

/-- `as_role_to_zval`. -/
def asRoleToZval (privileges : List Privilege) : Zval :=
  .array (pushAll (privileges.map asPrivilegeToZval))

/-- `as_roles_to_zval`. -/
def asRolesToZval : List (String × List Privilege) → HashTable → HashTable
  | [], table => table
  | (name, privileges) :: roles, table =>
      asRolesToZval roles
        (HashTable.update table (assocKey name) (asRoleToZval privileges))

def rolesOfUser (roles : List String) : Zval :=
  .array (pushAll (roles.map .string))

/-- The array of `queryUsers`. -/
def usersTable : List (String × List String) → HashTable → HashTable
  | [], table => table
  | (name, roles) :: users, table =>
      usersTable users
        (HashTable.update table (assocKey name) (rolesOfUser roles))

/-- The guard of `grantPrivileges` and `revokePrivileges`, which sets the error
anew. -/
def requireConnectionAgain : Method Unit := do
  let status ← checkObjectAndConnection client
  runIf (status ≠ .ok) do
    let s ← Proc.get
    failCleanup s.err.code s.err.message

/-- A body that ends with a request whose answer is not looked at. -/
def issueAdmin (policy : Option PolicyInfo) (command : AdminCommand) :
    Method Unit := do
  let _ ← issue oracle (.admin policy command)

/-! ## Roles -/

structure RoleArgs where
  role : String
  privileges : HashTable
  policy : Option Zval

def createRoleBody (args : Option RoleArgs) : Method Unit := do
  requireConnectionOrCleanup client
  resetClientError
  let args ← orFail args
    (failCleanup .errParam "Invalid Parameters for createUser")
  runIf (args.role.length = 0) (failCleanup .errParam "Role must not be empty")
  runIf (args.role.length ≥ asRoleSize)
    (failCleanup .errParam "Role name is too long")
  let policy ← requireAdminPolicy engine args.policy "Invalid_policy"
  let privileges ← requireConverted (zHashtableToAsPrivileges args.privileges)
  issueAdmin oracle policy (.createRole (cString args.role) privileges)

def createRole (args : Option RoleArgs) : Method Reply :=
  withCleanup (createRoleBody engine client oracle args) cleanupErr

structure QueryRoleArgs where
  role : String
  policy : Option Zval

def queryRoleBody (args : Option QueryRoleArgs) : Method Unit := do
  requireConnectionOrCleanup client
  resetClientError
  let args ← orFail args
    (failCleanup .errParam "Invalid arguments to queryRole")
  setOutput .null
  let policy ← requireAdminPolicy engine args.policy
    "Invalid policy to queryRole"
  let answer ← issue oracle (.admin policy (.queryRole (cString args.role)))
  cleanupOnError
  let role ← orFail answer.role (failCleanup .errClient "NULL role")
  setOutput (asRoleToZval role)

/-- The `CLEANUP` of `queryRole` and `queryRoles`. -/
def queryRoleCleanup : Method Reply := do
  let s ← Proc.get
  runIf (s.err.code ≠ .ok) do
    runIf s.output.isSome (setOutput .null)
    reportErr
  returnErrCode

def queryRole (args : Option QueryRoleArgs) : Method Reply :=
  withCleanup (queryRoleBody engine client oracle args) queryRoleCleanup

def queryRolesBody (args : Option (Option Zval)) : Method Unit := do
  requireConnectionOrCleanup client
  let zPolicy ← orFail args
    (failCleanup .errParam "Invalid parameters for queryRoles")
  setOutput .null
  let policy ← requireAdminPolicy engine zPolicy
    "Invalid policy for queryRoles"
  let answer ← issue oracle (.admin policy .queryRoles)
  cleanupOnError
  setOutput (.array (asRolesToZval answer.roles []))

/-- The argument is the options array. -/
def queryRoles (args : Option (Option Zval)) : Method Reply := do
  resetClientError
  withCleanup (queryRolesBody engine client oracle args) queryRoleCleanup

structure NameArgs where
  name : String
  policy : Option Zval

def dropRoleBody (args : Option NameArgs) : Method Unit := do
  requireConnectionOrCleanup client
  let args ← orFail args
    (failCleanup .errParam "Invalid parameters for dropRole")
  let policy ← requireAdminPolicy engine args.policy
    "Invalid policy for dropRole"
  issueAdmin oracle policy (.dropRole (cString args.name))

def dropRole (args : Option NameArgs) : Method Reply := do
  resetClientError
  withCleanup (dropRoleBody engine client oracle args) cleanupErr

/-- `grantPrivileges` and `revokePrivileges`. -/
def privilegesBody (command : String → List Privilege → AdminCommand)
    (badArguments badPolicy : String) (args : Option RoleArgs) :
    Method Unit := do
  requireConnectionAgain client
  let args ← orFail args (failCleanup .errParam badArguments)
  let policy ← requireAdminPolicy engine args.policy badPolicy
  runIf (HashTable.numElements args.privileges = 0)
    (failCleanup .errParam "Privileges must not be empty")
  let privileges ← requireConverted (zHashtableToAsPrivileges args.privileges)
  issueAdmin oracle policy (command (cString args.role) privileges)

def grantPrivileges (args : Option RoleArgs) : Method Reply := do
  resetClientError
  withCleanup (privilegesBody engine client oracle .grantPrivileges
    "Invalid parameters for grantPrivileges"
    "Invalid policy for grantPrivileges" args) cleanupErr

def revokePrivileges (args : Option RoleArgs) : Method Reply := do
  resetClientError
  withCleanup (privilegesBody engine client oracle .revokePrivileges
    "Invalid parameters for revokePrivileges"
    "Invalid policy for revokePrivileges" args) cleanupErr

/-! ## Users -/

/-- The checks on the name of a user. -/
def checkUser (user tooLong : String) : Method Unit := do
  runIf (user.length ≥ asUserSize) (failCleanup .errParam tooLong)
  runIf (user.length = 0)
    (failCleanup .errParam "user name must not be empty")

structure CreateUserArgs where
  user : String
  password : String
  roles : HashTable
  policy : Option Zval

def createUserBody (args : Option CreateUserArgs) : Method Unit := do
  requireConnectionOrCleanup client
  let args ← orFail args
    (failCleanup .errParam "Invalid parameters for createUser")
  let policy ← requireAdminPolicy engine args.policy
    "Invalid policy for createUser"
  checkUser args.user "user name is too long"
  runIf (args.password.length = 0)
    (failCleanup .errParam "password must not be empty")
  let roles ← requireConverted (zHashToStrArray args.roles)
  issueAdmin oracle policy
    (.createUser (cString args.user) (cString args.password) roles)

def createUser (args : Option CreateUserArgs) : Method Reply := do
  resetClientError
  withCleanup (createUserBody engine client oracle args) cleanupErr

structure PasswordArgs where
  user : String
  password : String
  policy : Option Zval

/-- `changePassword` and `setPassword` after their guards. -/
def passwordBody (command : String → String → AdminCommand)
    (args : Option PasswordArgs) : Method Unit := do
  let args ← orFail args
    (failCleanup .errParam "Invalid parameters to changePassword")
  checkUser args.user "username is too long"
  -- the text for an empty password is that for an empty name
  runIf (args.password.length = 0)
    (failCleanup .errParam "user name must not be empty")
  let policy ← requireAdminPolicy engine args.policy
    "Invalid policy for changePassword"
  issueAdmin oracle policy (command (cString args.user) (cString args.password))

/-- Here the guard returns without a report. -/
def changePassword (args : Option PasswordArgs) : Method Reply := do
  resetClientError
  let status ← checkObjectAndConnection client
  runIf (status ≠ .ok) do
    let s ← Proc.get
    setErr s.err.code s.err.message
    returnErrCode
  withCleanup (passwordBody engine oracle .changePassword args) cleanupErr

def setPassword (args : Option PasswordArgs) : Method Reply :=
  withCleanup (do
    requireConnectionOrCleanup client
    resetClientError
    passwordBody engine oracle .setPassword args) cleanupErr

structure UserRolesArgs where
  user : String
  roles : HashTable
  policy : Option Zval

/-- `grantRoles` and `revokeRoles`. -/
def userRolesBody (command : String → List String → AdminCommand)
    (args : Option UserRolesArgs) : Method Unit := do
  requireConnectionOrCleanup client
  let args ← orFail args
    (failCleanup .errParam "Invalid parameters to grantRoles")
  checkUser args.user "username too long"
  let policy ← requireAdminPolicy engine args.policy
    "Invalid policy for grantRoles"
  runIf (HashTable.numElements args.roles = 0)
    (failCleanup .errParam "Invalid policy for grantRoles")
  let roles ← requireConverted (zHashToStrArray args.roles)
  issueAdmin oracle policy (command (cString args.user) roles)

def grantRoles (args : Option UserRolesArgs) : Method Reply := do
  resetClientError
  withCleanup (userRolesBody engine client oracle .grantRoles args) cleanupErr

def revokeRoles (args : Option UserRolesArgs) : Method Reply := do
  resetClientError
  withCleanup (userRolesBody engine client oracle .revokeRoles args) cleanupErr

def queryUserBody (args : Option NameArgs) : Method Unit := do
  requireConnectionOrCleanup client
  let args ← orFail args
    (failCleanup .errParam "Invalid parameters to queryUser")
  setOutput .null
  checkUser args.name "Username too long"
  let policy ← requireAdminPolicy engine args.policy
    "Invalid policy for query User"
  let answer ← issue oracle (.admin policy (.queryUser (cString args.name)))
  cleanupOnError
  setOutput (rolesOfUser (answer.user.getD []))

def queryUser (args : Option NameArgs) : Method Reply := do
  resetClientError
  withCleanup (queryUserBody engine client oracle args) cleanupErr

def queryUsersBody (args : Option (Option Zval)) : Method Unit := do
  requireConnectionOrCleanup client
  let zPolicy ← orFail args
    (failCleanup .errParam "Invalid parameters to queryUsers")
  setOutput .null
  let policy ← requireAdminPolicy engine zPolicy
    "Invalid policy for query User"
  let answer ← issue oracle (.admin policy .queryUsers)
  cleanupOnError
  setOutput (.array (usersTable answer.users []))

/-- The argument is the options array. -/
def queryUsers (args : Option (Option Zval)) : Method Reply := do
  resetClientError
  withCleanup (queryUsersBody engine client oracle args) cleanupErr

def dropUserBody (args : Option NameArgs) : Method Unit := do
  requireConnectionOrCleanup client
  let args ← orFail args
    (failCleanup .errParam "Invalid parameters to dropUser")
  checkUser args.name "username too long"
  let policy ← requireAdminPolicy engine args.policy
    "Invalid policy for query User"
  issueAdmin oracle policy (.dropUser (cString args.name))

def dropUser (args : Option NameArgs) : Method Reply := do
  resetClientError
  withCleanup (dropUserBody engine client oracle args) cleanupErr

end

end AerospikePhp
