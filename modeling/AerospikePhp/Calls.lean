import AerospikePhp.ListMethods
import AerospikePhp.BatchMethods
import AerospikePhp.QueryMethods
import AerospikePhp.InfoMethods
import AerospikePhp.AdminMethods
import Mathlib.Tactic

/-!
# Calls of the data methods

One constructor for each method of the class that talks to the cluster, with
the arguments of the call.
-/

namespace AerospikePhp

open Procedure Method

inductive Call where
  | get (args : Option GetArgs)
  | «exists» (args : Option ExistsArgs)
  | put (args : Option PutArgs)
  | remove (args : Option RemoveArgs)
  | removeBin (args : Option RemoveBinArgs)
  | getMany (args : Option GetManyArgs)
  | existsMany (args : Option ExistsManyArgs)
  | operate (args : Option OperateArgs)
  | operateOrdered (args : Option OperateArgs)
  | touch (args : Option TouchArgs)
  | append (args : Option StringOpArgs)
  | prepend (args : Option StringOpArgs)
  | increment (args : Option IncrementArgs)
  | listSize (args : Option ListArgs)
  | listAppend (args : Option (ListArgs × Zval))
  | listMerge (args : Option (ListArgs × HashTable))
  | listInsert (args : Option (ListArgs × Int64 × Zval))
  | listInsertItems (args : Option (ListArgs × Int64 × HashTable))
  | listPop (args : Option (ListArgs × Int64))
  | listPopRange (args : Option (ListArgs × Int64 × Int64))
  | listRemove (args : Option (ListArgs × Int64))
  | listRemoveRange (args : Option (ListArgs × Int64 × Int64))
  | listTrim (args : Option (ListArgs × Int64 × Int64))
  | listClear (args : Option ListArgs)
  | listSet (args : Option (ListArgs × Int64 × Zval))
  | listGet (args : Option (ListArgs × Int64))
  | listGetRange (args : Option (ListArgs × Int64 × Int64))
  | query (args : Option QueryArgs)
  | queryApply (args : Option UdfQueryArgs)
  | aggregate (args : Option UdfQueryArgs)
  | scan (args : Option ScanArgs)
  | scanApply (args : Option ScanApplyArgs)
  | apply (args : Option ApplyArgs)
  | scanInfo (args : Option ScanInfoArgs)
  | jobInfo (args : Option JobInfoArgs)
  | info (args : Option HostInfoArgs)
  | infoMany (args : Option InfoManyArgs)
  | getNodes
  | addIndex (args : Option AddIndexArgs)
  | dropIndex (args : Option DropIndexArgs)
  | truncate (args : Option TruncateArgs)
  | getRegistered (args : Option GetRegisteredArgs)
  | register (args : Option RegisterArgs)
  | deregister (args : Option DeregisterArgs)
  | listRegistered (args : Option ListRegisteredArgs)
  | createRole (args : Option RoleArgs)
  | queryRole (args : Option QueryRoleArgs)
  | queryRoles (args : Option (Option Zval))
  | dropRole (args : Option NameArgs)
  | grantPrivileges (args : Option RoleArgs)
  | revokePrivileges (args : Option RoleArgs)
  | createUser (args : Option CreateUserArgs)
  | changePassword (args : Option PasswordArgs)
  | setPassword (args : Option PasswordArgs)
  | grantRoles (args : Option UserRolesArgs)
  | revokeRoles (args : Option UserRolesArgs)
  | queryUser (args : Option NameArgs)
  | queryUsers (args : Option (Option Zval))
  | dropUser (args : Option NameArgs)

/-- The method that is called, with its arguments. -/
def Call.method (engine : Engine) (client : Client) (oracle : Oracle) :
    Call → Method Reply
  | .get args => AerospikePhp.get engine client oracle args
  | .exists args => AerospikePhp.exists engine client oracle args
  | .put args => AerospikePhp.put engine client oracle args
  | .remove args => AerospikePhp.remove engine client oracle args
  | .removeBin args => AerospikePhp.removeBin engine client oracle args
  | .getMany args => AerospikePhp.getMany engine client oracle args
  | .existsMany args => AerospikePhp.existsMany engine client oracle args
  | .operate args => AerospikePhp.operate engine client oracle args
  | .operateOrdered args => AerospikePhp.operateOrdered engine client oracle args
  | .touch args => AerospikePhp.touch engine client oracle args
  | .append args => AerospikePhp.append engine client oracle args
  | .prepend args => AerospikePhp.prepend engine client oracle args
  | .increment args => AerospikePhp.increment engine client oracle args
  | .listSize args => AerospikePhp.listSize engine client oracle args
  | .listAppend args => AerospikePhp.listAppend engine client oracle args
  | .listMerge args => AerospikePhp.listMerge engine client oracle args
  | .listInsert args => AerospikePhp.listInsert engine client oracle args
  | .listInsertItems args =>
      AerospikePhp.listInsertItems engine client oracle args
  | .listPop args => AerospikePhp.listPop engine client oracle args
  | .listPopRange args => AerospikePhp.listPopRange engine client oracle args
  | .listRemove args => AerospikePhp.listRemove engine client oracle args
  | .listRemoveRange args =>
      AerospikePhp.listRemoveRange engine client oracle args
  | .listTrim args => AerospikePhp.listTrim engine client oracle args
  | .listClear args => AerospikePhp.listClear engine client oracle args
  | .listSet args => AerospikePhp.listSet engine client oracle args
  | .listGet args => AerospikePhp.listGet engine client oracle args
  | .listGetRange args => AerospikePhp.listGetRange engine client oracle args
  | .query args => AerospikePhp.query engine client oracle args
  | .queryApply args => AerospikePhp.queryApply engine client oracle args
  | .aggregate args => AerospikePhp.aggregate engine client oracle args
  | .scan args => AerospikePhp.scan engine client oracle args
  | .scanApply args => AerospikePhp.scanApply engine client oracle args
  | .apply args => AerospikePhp.apply engine client oracle args
  | .scanInfo args => AerospikePhp.scanInfo engine client oracle args
  | .jobInfo args => AerospikePhp.jobInfo engine client oracle args
  | .info args => AerospikePhp.info engine client oracle args
  | .infoMany args => AerospikePhp.infoMany engine client oracle args
  | .getNodes => AerospikePhp.getNodes client oracle
  | .addIndex args => AerospikePhp.addIndex engine client oracle args
  | .dropIndex args => AerospikePhp.dropIndex engine client oracle args
  | .truncate args => AerospikePhp.truncate engine client oracle args
  | .getRegistered args => AerospikePhp.getRegistered engine client oracle args
  | .register args => AerospikePhp.register engine client oracle args
  | .deregister args => AerospikePhp.deregister engine client oracle args
  | .listRegistered args =>
      AerospikePhp.listRegistered engine client oracle args
  | .createRole args => AerospikePhp.createRole engine client oracle args
  | .queryRole args => AerospikePhp.queryRole engine client oracle args
  | .queryRoles args => AerospikePhp.queryRoles engine client oracle args
  | .dropRole args => AerospikePhp.dropRole engine client oracle args
  | .grantPrivileges args =>
      AerospikePhp.grantPrivileges engine client oracle args
  | .revokePrivileges args =>
      AerospikePhp.revokePrivileges engine client oracle args
  | .createUser args => AerospikePhp.createUser engine client oracle args
  | .changePassword args => AerospikePhp.changePassword engine client oracle args
  | .setPassword args => AerospikePhp.setPassword engine client oracle args
  | .grantRoles args => AerospikePhp.grantRoles engine client oracle args
  | .revokeRoles args => AerospikePhp.revokeRoles engine client oracle args
  | .queryUser args => AerospikePhp.queryUser engine client oracle args
  | .queryUsers args => AerospikePhp.queryUsers engine client oracle args
  | .dropUser args => AerospikePhp.dropUser engine client oracle args

/-- The call, from a client with these policies and this last error. -/
def Call.run (engine : Engine) (client : Client) (oracle : Oracle)
    (policies : Policies) (clientError : AsError) (call : Call) : Outcome :=
  (call.method engine client oracle).call (.start policies clientError)

end AerospikePhp
