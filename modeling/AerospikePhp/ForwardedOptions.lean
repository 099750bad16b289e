import AerospikePhp.SentIntegers
import Mathlib.Tactic

/-!
# Calls without a ttl

The reads, the scans, the queries, the info and the admin calls, and the writes
that make no record: each sends its integers in the policy of its requests.
-/

namespace AerospikePhp

open Procedure Method Proc

-- a method body is one instance problem with a premise for every statement
set_option synthInstance.maxSize 200000

section

variable {engine : Engine} {client : Client} {oracle : Oracle}
variable {message : String}

/-! ## Calls under an info or an admin policy -/

section

variable {α : Type} {operators : OperatorCodes} {call : Call}
variable {zPolicy : Option Zval} {message : String}

theorem moves_infoPolicy {next : PolicyInfo → Method α} {failure : Method Unit}
    [Fails true failure] [Moves (SendsOnly (call.Respects operators)) failure]
    (hkind : call.kind = .info) (hoptions : call.options = zPolicy)
    (httl : call.givenTtl operators = none) (hport : call.givenPort = none)
    (hnext : ∀ policy, (∀ command, Sendable (call.Respects operators)
        (.info (some policy) command)) →
      Moves (SendsOnly (call.Respects operators)) (next policy)) :
    Moves (SendsOnly (call.Respects operators))
      (requirePolicy infoField (zvalToAsPolicyInfo engine.init.info zPolicy)
        failure >>= next) := by
  refine moves_bind_of returns_infoPolicy fun policy hpolicy =>
    hnext policy fun command => ⟨Call.respects_of ?_ httl hport⟩
  rw [hkind, hoptions]
  exact hpolicy

theorem moves_adminPolicy {next : Option PolicyInfo → Method α}
    (hkind : call.kind = .admin) (hoptions : call.options = zPolicy)
    (httl : call.givenTtl operators = none) (hport : call.givenPort = none)
    (hnext : ∀ policy, (∀ command, Sendable (call.Respects operators)
        (.admin policy command)) →
      Moves (SendsOnly (call.Respects operators)) (next policy)) :
    Moves (SendsOnly (call.Respects operators))
      (requireAdminPolicy engine zPolicy message >>= next) := by
  refine moves_bind_of (returns_whenGiven givenInteger_of_none returns_adminPolicy)
    fun policy hpolicy => hnext policy fun command =>
      ⟨Call.respects_of ?_ httl hport⟩
  rw [hkind, hoptions]
  exact hpolicy

end


/-! ## Reads -/

theorem get_respects (args : GetArgs) :
    Moves (SendsOnly ((Call.get (some args)).Respects engine.operators))
      (get engine client oracle (some args)) := by
  unfold get
  iterate 3 refine moves_seq fun _ => ?_
  refine moves_args ?_
  iterate 2 refine moves_seq fun _ => ?_
  refine moves_bind_of returns_readPolicy fun policy hpolicy => ?_
  have hget : ∀ key, Sendable ((Call.get (some args)).Respects engine.operators)
      (.keyGet policy key) := fun _ => ⟨Call.respects_of hpolicy rfl rfl⟩
  have hselect : ∀ key bins,
      Sendable ((Call.get (some args)).Respects engine.operators)
        (.keySelect policy key bins) :=
    fun _ _ => ⟨Call.respects_of hpolicy rfl rfl⟩
  infer_instance

theorem exists_respects (args : ExistsArgs) :
    Moves (SendsOnly ((Call.exists (some args)).Respects engine.operators))
      (AerospikePhp.exists engine client oracle (some args)) := by
  unfold AerospikePhp.exists
  iterate 2 refine moves_seq fun _ => ?_
  refine moves_args ?_
  iterate 3 refine moves_seq fun _ => ?_
  refine moves_bind_of returns_readPolicy fun policy hpolicy => ?_
  have hexists : ∀ key,
      Sendable ((Call.exists (some args)).Respects engine.operators)
        (.keyExists policy key) := fun _ => ⟨Call.respects_of hpolicy rfl rfl⟩
  infer_instance

theorem getMany_respects (args : GetManyArgs) :
    Moves (SendsOnly ((Call.getMany (some args)).Respects engine.operators))
      (getMany engine client oracle (some args)) := by
  unfold getMany
  iterate 2 refine moves_seq fun _ => ?_
  refine moves_args ?_
  refine moves_seq fun _ => ?_
  refine moves_bind_of (returns_whenGiven givenInteger_of_none returns_batchPolicy)
    fun policy hpolicy => ?_
  have hread : ∀ reads,
      Sendable ((Call.getMany (some args)).Respects engine.operators)
        (.batchRead policy reads) := fun _ => ⟨Call.respects_of hpolicy rfl rfl⟩
  unfold getManyBody
  infer_instance

theorem existsMany_respects (args : ExistsManyArgs) :
    Moves (SendsOnly ((Call.existsMany (some args)).Respects engine.operators))
      (existsMany engine client oracle (some args)) := by
  unfold existsMany existsManyBody
  refine moves_withCleanup ?_
  iterate 2 refine moves_seq fun _ => ?_
  refine moves_args ?_
  refine moves_seq fun _ => ?_
  refine moves_bind_of (returns_whenGiven givenInteger_of_none returns_batchPolicy)
    fun policy hpolicy => ?_
  have hread : ∀ keys,
      Sendable ((Call.existsMany (some args)).Respects engine.operators)
        (.batchExists policy keys) :=
    fun _ => ⟨Call.respects_of hpolicy rfl rfl⟩
  infer_instance

/-! ## Queries and scans -/

theorem query_respects (args : QueryArgs) :
    Moves (SendsOnly ((Call.query (some args)).Respects engine.operators))
      (query engine client oracle (some args)) := by
  unfold query
  iterate 2 refine moves_seq fun _ => ?_
  refine moves_args ?_
  refine moves_seq fun _ => ?_
  refine moves_bind_of (returns_whenGiven givenInteger_nonNull returns_queryPolicy)
    fun policy hpolicy => ?_
  have hquery : ∀ query,
      Sendable ((Call.query (some args)).Respects engine.operators)
        (.queryForeach policy query) :=
    fun _ => ⟨Call.respects_of hpolicy rfl rfl⟩
  unfold queryBody
  infer_instance

theorem aggregate_respects (args : UdfQueryArgs) :
    Moves (SendsOnly ((Call.aggregate (some args)).Respects engine.operators))
      (aggregate engine client oracle (some args)) := by
  unfold aggregate
  iterate 2 refine moves_seq fun _ => ?_
  refine moves_args ?_
  iterate 4 refine moves_seq fun _ => ?_
  refine moves_bind_of (returns_whenGiven givenInteger_nonNull returns_queryPolicy)
    fun policy hpolicy => ?_
  have hquery : ∀ query,
      Sendable ((Call.aggregate (some args)).Respects engine.operators)
        (.queryForeach policy query) :=
    fun _ => ⟨Call.respects_of hpolicy rfl rfl⟩
  unfold aggregateBody
  infer_instance

theorem queryApply_respects (args : UdfQueryArgs) :
    Moves (SendsOnly ((Call.queryApply (some args)).Respects engine.operators))
      (queryApply engine client oracle (some args)) := by
  unfold queryApply
  iterate 2 refine moves_seq fun _ => ?_
  refine moves_args ?_
  iterate 2 refine moves_seq fun _ => ?_
  refine moves_bind_of returns_writePolicy fun policy hpolicy => ?_
  have hquery : ∀ query,
      Sendable ((Call.queryApply (some args)).Respects engine.operators)
        (.queryBackground policy query) :=
    fun _ => ⟨Call.respects_of hpolicy rfl rfl⟩
  unfold queryApplyBody
  infer_instance

theorem scan_respects (args : ScanArgs) :
    Moves (SendsOnly ((Call.scan (some args)).Respects engine.operators))
      (scan engine client oracle (some args)) := by
  unfold scan
  iterate 2 refine moves_seq fun _ => ?_
  refine moves_args ?_
  refine moves_seq fun _ => ?_
  refine moves_bind_of returns_scanPolicy fun policy hpolicy => ?_
  have hscan : ∀ scan,
      Sendable ((Call.scan (some args)).Respects engine.operators)
        (.scanForeach policy scan) := fun _ => ⟨Call.respects_of hpolicy rfl rfl⟩
  unfold scanBody
  infer_instance

theorem scanApply_respects (args : ScanApplyArgs) :
    Moves (SendsOnly ((Call.scanApply (some args)).Respects engine.operators))
      (scanApply engine client oracle (some args)) := by
  unfold scanApply
  iterate 2 refine moves_seq fun _ => ?_
  refine moves_args ?_
  iterate 3 refine moves_seq fun _ => ?_
  refine moves_bind_of returns_scanPolicy fun policy hpolicy => ?_
  have hscan : ∀ scan,
      Sendable ((Call.scanApply (some args)).Respects engine.operators)
        (.scanBackground policy scan) :=
    fun _ => ⟨Call.respects_of hpolicy rfl rfl⟩
  -- the second request waits for the job of the first
  have hwait : ∀ jobId,
      Sendable ((Call.scanApply (some args)).Respects engine.operators)
        (.scanWait jobId) := fun _ => ⟨fun htakes => by cases htakes⟩
  unfold scanApplyBody
  infer_instance

/-! ## remove and apply -/

theorem returns_removePolicy {options : Option Zval} :
    Returns (requireRemovePolicy engine options) fun policy =>
      Carries .write options policy.base.integer := by
  unfold requireRemovePolicy
  refine returns_bind (returns_true _) fun s _ => ?_
  cases hconverted : zvalToAsPolicyRemove engine.rt engine.init.remove options
      s.policies.remove with
  | none => exact returns_bind returns_exit fun _ hfalse => False.elim hfalse
  | some converted =>
      have hpure : Returns (pure converted : Method _) (converted = ·) :=
        returns_pure rfl
      refine returns_bind hpure ?_
      rintro _ rfl
      exact returns_requirePolicy fun _ hok =>
        zvalToAsPolicyRemove_carries hconverted hok

theorem remove_respects (args : RemoveArgs) :
    Moves (SendsOnly ((Call.remove (some args)).Respects engine.operators))
      (remove engine client oracle (some args)) := by
  have hload : Moves
      (SendsOnly ((Call.remove (some args)).Respects engine.operators))
      (requireRemovePolicy engine args.options) := by
    unfold requireRemovePolicy
    infer_instance
  unfold remove
  iterate 2 refine moves_seq fun _ => ?_
  refine moves_args ?_
  refine moves_bind_of returns_removePolicy fun policy hpolicy => ?_
  have hremove : ∀ key,
      Sendable ((Call.remove (some args)).Respects engine.operators)
        (.keyRemove policy key) := fun _ => ⟨Call.respects_of hpolicy rfl rfl⟩
  infer_instance

theorem apply_respects (args : ApplyArgs) :
    Moves (SendsOnly ((Call.apply (some args)).Respects engine.operators))
      (apply engine client oracle (some args)) := by
  unfold apply applyBody
  refine moves_withCleanup ?_
  iterate 2 refine moves_seq fun _ => ?_
  refine moves_args ?_
  iterate 2 refine moves_seq fun _ => ?_
  refine moves_bind_of returns_applyPolicy fun policy hpolicy => ?_
  have happly : ∀ key udf,
      Sendable ((Call.apply (some args)).Respects engine.operators)
        (.keyApply policy key udf) :=
    fun _ _ => ⟨Call.respects_of hpolicy rfl rfl⟩
  infer_instance

/-! ## Jobs, indexes and modules -/

theorem scanInfo_respects (args : ScanInfoArgs) :
    Moves (SendsOnly ((Call.scanInfo (some args)).Respects engine.operators))
      (scanInfo engine client oracle (some args)) := by
  unfold scanInfo
  iterate 2 refine moves_seq fun _ => ?_
  refine moves_args ?_
  refine moves_seq fun _ => ?_
  exact moves_infoPolicy rfl rfl rfl rfl fun policy hsend => inferInstance

theorem jobInfo_respects (args : JobInfoArgs) :
    Moves (SendsOnly ((Call.jobInfo (some args)).Respects engine.operators))
      (jobInfo engine client oracle (some args)) := by
  unfold jobInfo jobInfoBody
  iterate 2 refine moves_seq fun _ => ?_
  refine moves_args ?_
  iterate 2 refine moves_seq fun _ => ?_
  exact moves_infoPolicy rfl rfl rfl rfl fun policy hsend => inferInstance

theorem dropIndex_respects (args : DropIndexArgs) :
    Moves (SendsOnly ((Call.dropIndex (some args)).Respects engine.operators))
      (dropIndex engine client oracle (some args)) := by
  unfold dropIndex
  iterate 2 refine moves_seq fun _ => ?_
  refine moves_args ?_
  exact moves_infoPolicy rfl rfl rfl rfl fun policy hsend => inferInstance

theorem truncate_respects (args : TruncateArgs) :
    Moves (SendsOnly ((Call.truncate (some args)).Respects engine.operators))
      (truncate engine client oracle (some args)) := by
  unfold truncate
  iterate 2 refine moves_seq fun _ => ?_
  refine moves_args ?_
  iterate 4 refine moves_seq fun _ => ?_
  exact moves_infoPolicy rfl rfl rfl rfl fun policy hsend => inferInstance

theorem getRegistered_respects (args : GetRegisteredArgs) :
    Moves (SendsOnly ((Call.getRegistered (some args)).Respects engine.operators))
      (getRegistered engine client oracle (some args)) := by
  unfold getRegistered getRegisteredBody
  iterate 2 refine moves_seq fun _ => ?_
  refine moves_args ?_
  refine moves_seq fun _ => ?_
  exact moves_infoPolicy rfl rfl rfl rfl fun policy hsend => inferInstance

theorem register_respects (args : RegisterArgs) :
    Moves (SendsOnly ((Call.register (some args)).Respects engine.operators))
      (register engine client oracle (some args)) := by
  unfold register registerBody
  iterate 2 refine moves_seq fun _ => ?_
  refine moves_args ?_
  refine moves_seq fun _ => ?_
  exact moves_infoPolicy rfl rfl rfl rfl fun policy hsend => inferInstance

theorem deregister_respects (args : DeregisterArgs) :
    Moves (SendsOnly ((Call.deregister (some args)).Respects engine.operators))
      (deregister engine client oracle (some args)) := by
  unfold deregister
  iterate 2 refine moves_seq fun _ => ?_
  refine moves_args ?_
  exact moves_infoPolicy rfl rfl rfl rfl fun policy hsend => inferInstance

theorem listRegistered_respects (args : ListRegisteredArgs) :
    Moves (SendsOnly ((Call.listRegistered (some args)).Respects engine.operators))
      (listRegistered engine client oracle (some args)) := by
  unfold listRegistered listRegisteredBody
  iterate 2 refine moves_seq fun _ => ?_
  refine moves_args ?_
  refine moves_seq fun _ => ?_
  exact moves_infoPolicy rfl rfl rfl rfl fun policy hsend => inferInstance

/-- The client has no integer for the second request, which waits. -/
theorem addIndex_respects (args : AddIndexArgs) :
    Moves (SendsOnly ((Call.addIndex (some args)).Respects engine.operators))
      (addIndex engine client oracle (some args)) := by
  have hwait : Sendable ((Call.addIndex (some args)).Respects engine.operators)
      .indexCreateWait := ⟨fun htakes => by cases htakes⟩
  unfold addIndex
  iterate 2 refine moves_seq fun _ => ?_
  refine moves_args ?_
  exact moves_infoPolicy rfl rfl rfl rfl fun policy hsend => inferInstance

/-! ## Info commands -/

theorem returns_requireHost {host : Option HashTable} :
    Returns (requireHost oracle host) fun destination =>
      ∀ n, host.bind hostPort = some n → destination.2 = toUint16 n := by
  cases host with
  | none => exact returns_pure fun n hgiven => by cases hgiven
  | some host =>
      unfold requireHost
      dsimp only
      cases hhost : hostOfHash host with
      | error message => exact returns_of_fails.weaken fun _ => False.elim
      | ok destination =>
          have hport : ∀ n, hostPort host = some n →
              destination.2 = toUint16 n := by
            intro n hgiven
            have hport : HashTable.strFind host "port" = some (.long n) :=
              longOf_eq_some.mp hgiven
            unfold hostOfHash at hhost
            simp only [hport] at hhost
            split at hhost
            · cases hhost
            · exact (congrArg Prod.snd (Except.ok.inj hhost)).symm
            · cases hhost
          exact returns_pure hport

theorem info_respects (args : HostInfoArgs) :
    Moves (SendsOnly ((Call.info (some args)).Respects engine.operators))
      (info engine client oracle (some args)) := by
  unfold info infoBody
  iterate 2 refine moves_seq fun _ => ?_
  refine moves_args ?_
  refine moves_seq fun _ => ?_
  refine moves_bind_of (returns_whenGiven givenInteger_of_none returns_infoPolicy)
    fun policy hpolicy => ?_
  refine moves_withCleanup ?_
  refine moves_bind_of returns_requireHost fun host hport => ?_
  have hsend : Sendable ((Call.info (some args)).Respects engine.operators)
      (.info policy (.infoHost host.1 host.2 (cString args.request))) :=
    ⟨fun _ => ⟨hpolicy, (fun n httl => by cases httl),
      fun n hgiven => congrArg some (hport n hgiven)⟩⟩
  infer_instance

instance : Fails true (failNull .errParam message : Method Unit) :=
  ⟨fun _ _ => ⟨.ret .null, _, rfl, rfl, trivial⟩⟩

theorem infoMany_respects (args : InfoManyArgs) :
    Moves (SendsOnly ((Call.infoMany (some args)).Respects engine.operators))
      (infoMany engine client oracle (some args)) := by
  unfold infoMany
  iterate 3 refine moves_seq fun _ => ?_
  refine moves_args ?_
  refine moves_seq fun _ => ?_
  refine moves_bind_of (returns_whenGiven givenInteger_of_none returns_infoPolicy)
    fun policy hpolicy => ?_
  have hsend : ∀ command,
      Sendable ((Call.infoMany (some args)).Respects engine.operators)
        (.info policy command) := fun _ => ⟨Call.respects_of hpolicy rfl rfl⟩
  infer_instance

/-! ## User administration -/

theorem createRole_respects (args : RoleArgs) :
    Moves (SendsOnly ((Call.createRole (some args)).Respects engine.operators))
      (createRole engine client oracle (some args)) := by
  unfold createRole createRoleBody
  refine moves_withCleanup ?_
  iterate 2 refine moves_seq fun _ => ?_
  refine moves_args ?_
  iterate 2 refine moves_seq fun _ => ?_
  exact moves_adminPolicy rfl rfl rfl rfl fun policy hsend => inferInstance

theorem queryRole_respects (args : QueryRoleArgs) :
    Moves (SendsOnly ((Call.queryRole (some args)).Respects engine.operators))
      (queryRole engine client oracle (some args)) := by
  unfold queryRole queryRoleBody
  refine moves_withCleanup ?_
  iterate 2 refine moves_seq fun _ => ?_
  refine moves_args ?_
  refine moves_seq fun _ => ?_
  exact moves_adminPolicy rfl rfl rfl rfl fun policy hsend => inferInstance

theorem queryRoles_respects (args : Option Zval) :
    Moves (SendsOnly ((Call.queryRoles (some args)).Respects engine.operators))
      (queryRoles engine client oracle (some args)) := by
  unfold queryRoles queryRolesBody
  refine moves_seq fun _ => ?_
  refine moves_withCleanup ?_
  refine moves_seq fun _ => ?_
  refine moves_args ?_
  refine moves_seq fun _ => ?_
  exact moves_adminPolicy rfl rfl rfl rfl fun policy hsend => inferInstance

theorem dropRole_respects (args : NameArgs) :
    Moves (SendsOnly ((Call.dropRole (some args)).Respects engine.operators))
      (dropRole engine client oracle (some args)) := by
  unfold dropRole dropRoleBody
  refine moves_seq fun _ => ?_
  refine moves_withCleanup ?_
  refine moves_seq fun _ => ?_
  refine moves_args ?_
  exact moves_adminPolicy rfl rfl rfl rfl fun policy hsend => inferInstance

theorem grantPrivileges_respects (args : RoleArgs) :
    Moves (SendsOnly ((Call.grantPrivileges (some args)).Respects engine.operators))
      (grantPrivileges engine client oracle (some args)) := by
  unfold grantPrivileges privilegesBody
  refine moves_seq fun _ => ?_
  refine moves_withCleanup ?_
  refine moves_seq fun _ => ?_
  refine moves_args ?_
  exact moves_adminPolicy rfl rfl rfl rfl fun policy hsend => inferInstance

theorem revokePrivileges_respects (args : RoleArgs) :
    Moves (SendsOnly ((Call.revokePrivileges (some args)).Respects engine.operators))
      (revokePrivileges engine client oracle (some args)) := by
  unfold revokePrivileges privilegesBody
  refine moves_seq fun _ => ?_
  refine moves_withCleanup ?_
  refine moves_seq fun _ => ?_
  refine moves_args ?_
  exact moves_adminPolicy rfl rfl rfl rfl fun policy hsend => inferInstance

theorem createUser_respects (args : CreateUserArgs) :
    Moves (SendsOnly ((Call.createUser (some args)).Respects engine.operators))
      (createUser engine client oracle (some args)) := by
  unfold createUser createUserBody
  refine moves_seq fun _ => ?_
  refine moves_withCleanup ?_
  refine moves_seq fun _ => ?_
  refine moves_args ?_
  exact moves_adminPolicy rfl rfl rfl rfl fun policy hsend => inferInstance

theorem changePassword_respects (args : PasswordArgs) :
    Moves (SendsOnly ((Call.changePassword (some args)).Respects engine.operators))
      (changePassword engine client oracle (some args)) := by
  unfold changePassword passwordBody
  iterate 3 refine moves_seq fun _ => ?_
  refine moves_withCleanup ?_
  refine moves_args ?_
  iterate 2 refine moves_seq fun _ => ?_
  exact moves_adminPolicy rfl rfl rfl rfl fun policy hsend => inferInstance

theorem setPassword_respects (args : PasswordArgs) :
    Moves (SendsOnly ((Call.setPassword (some args)).Respects engine.operators))
      (setPassword engine client oracle (some args)) := by
  unfold setPassword passwordBody
  refine moves_withCleanup ?_
  iterate 2 refine moves_seq fun _ => ?_
  refine moves_args ?_
  iterate 2 refine moves_seq fun _ => ?_
  exact moves_adminPolicy rfl rfl rfl rfl fun policy hsend => inferInstance

theorem grantRoles_respects (args : UserRolesArgs) :
    Moves (SendsOnly ((Call.grantRoles (some args)).Respects engine.operators))
      (grantRoles engine client oracle (some args)) := by
  unfold grantRoles userRolesBody
  refine moves_seq fun _ => ?_
  refine moves_withCleanup ?_
  refine moves_seq fun _ => ?_
  refine moves_args ?_
  refine moves_seq fun _ => ?_
  exact moves_adminPolicy rfl rfl rfl rfl fun policy hsend => inferInstance

theorem revokeRoles_respects (args : UserRolesArgs) :
    Moves (SendsOnly ((Call.revokeRoles (some args)).Respects engine.operators))
      (revokeRoles engine client oracle (some args)) := by
  unfold revokeRoles userRolesBody
  refine moves_seq fun _ => ?_
  refine moves_withCleanup ?_
  refine moves_seq fun _ => ?_
  refine moves_args ?_
  refine moves_seq fun _ => ?_
  exact moves_adminPolicy rfl rfl rfl rfl fun policy hsend => inferInstance

theorem queryUser_respects (args : NameArgs) :
    Moves (SendsOnly ((Call.queryUser (some args)).Respects engine.operators))
      (queryUser engine client oracle (some args)) := by
  unfold queryUser queryUserBody
  refine moves_seq fun _ => ?_
  refine moves_withCleanup ?_
  refine moves_seq fun _ => ?_
  refine moves_args ?_
  iterate 2 refine moves_seq fun _ => ?_
  exact moves_adminPolicy rfl rfl rfl rfl fun policy hsend => inferInstance

theorem queryUsers_respects (args : Option Zval) :
    Moves (SendsOnly ((Call.queryUsers (some args)).Respects engine.operators))
      (queryUsers engine client oracle (some args)) := by
  unfold queryUsers queryUsersBody
  refine moves_seq fun _ => ?_
  refine moves_withCleanup ?_
  refine moves_seq fun _ => ?_
  refine moves_args ?_
  refine moves_seq fun _ => ?_
  exact moves_adminPolicy rfl rfl rfl rfl fun policy hsend => inferInstance

theorem dropUser_respects (args : NameArgs) :
    Moves (SendsOnly ((Call.dropUser (some args)).Respects engine.operators))
      (dropUser engine client oracle (some args)) := by
  unfold dropUser dropUserBody
  refine moves_seq fun _ => ?_
  refine moves_withCleanup ?_
  refine moves_seq fun _ => ?_
  refine moves_args ?_
  refine moves_seq fun _ => ?_
  exact moves_adminPolicy rfl rfl rfl rfl fun policy hsend => inferInstance

end

end AerospikePhp
