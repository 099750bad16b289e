import AerospikePhp.StatusReports
import AerospikePhp.Calls
import AerospikePhp.Batches
import AerospikePhp.KeyRequests
import AerospikePhp.ListRequests
import AerospikePhp.ConnectionGuard
import Mathlib.Tactic

/-!
# Which calls tell their status

The status that a method returns is the one that `errorno` gives afterwards,
with a text in `error` unless it is OK.  Fifteen methods have a way out where
this fails: they return a code that nobody reported, or report a code whose
text their `CLEANUP` then overwrites with an empty one.
-/

namespace AerospikePhp

open Procedure Method Proc

set_option synthInstance.maxSize 1024

section

variable (engine : Engine) (client : Client) (oracle : Oracle)
variable {C : CallState → Prop} [horacle : oracle.Explains]

/-! ## Methods on one record -/

instance [AdmitsQuiet C] (policy : PolicyRead) (key : AsKey) (bins : HashTable) :
    Tells CallState.Quiet C (asGetWithBins oracle policy key bins) := by
  unfold asGetWithBins
  have hnames := filterBinNames_worded bins
  have : Tells CallState.Quiet C (match filterBinNames bins with
      | .error message => failCleanup .errParam message
      | .ok names => issue oracle (.keySelect policy key names) :
        Method Answer) := by
    cases hbins : filterBinNames bins with
    | ok names => infer_instance
    | error message =>
        have := hnames message hbins
        infer_instance
  infer_instance

instance [AdmitsQuiet C] (policy : PolicyRead) (key : AsKey)
    (filter : Option Zval) :
    Tells CallState.Quiet C (readWithFilter oracle policy key filter) := by
  unfold readWithFilter
  split <;> infer_instance

instance [AdmitsQuiet C] (policy : PolicyRead) (key : AsKey)
    (filter : Option Zval) :
    Tells CallState.Quiet C (getBody engine oracle policy key filter) := by
  unfold getBody
  infer_instance

/-- The end of `exists`. -/
instance : Tells CallState.Quiet C (do
    let s ← Proc.get
    runIf (s.err.code ≠ .ok) do
      reportErr
      setOutput .null
    returnErrCode : Method Reply) := by
  refine Tells.of_settled ?_
  exact tells_cleanup fun _ => ⟨_, rfl, rfl, rfl⟩

theorem tells_returnAnswer (request : Request) :
    Tells CallState.Quiet C (do
      let answer ← issue oracle request
      returnAnswer answer) := by
  refine ⟨fun s hs => ?_⟩
  have hsound := horacle.answer s.requests.length request
  have hissue : (issue oracle request).run s =
      (.ok (oracle.answer s.requests.length request), { s with
        requests := s.requests ++ [request]
        err := (oracle.answer s.requests.length request).err }) := rfl
  rw [run_bind_ok hissue]
  unfold returnAnswer
  rw [run_bind_ok (run_get _)]
  by_cases hcode : (oracle.answer s.requests.length request).err.code = .ok
  · rw [runIf_neg (not_not.mpr hcode)]
    refine ⟨?_, ?_⟩
    · rw [hcode]
      exact congrArg AsError.code hs.2
    · exact iff_of_true (congrArg AsError.message hs.2) hcode
  · rw [runIf_pos hcode]
    exact tells_of_sound hsound rfl

/-! ## Methods that operate on one record -/

instance (zPolicy : Option Zval) (failure : Method Unit)
    [Tells CallState.Quiet C failure] :
    Tells CallState.Quiet C (requireOperatePolicy engine zPolicy failure) := by
  unfold requireOperatePolicy
  infer_instance

instance (zPolicy : Option Zval) (failure : Method Unit)
    [Tells CallState.Quiet C failure] :
    Tells CallState.Quiet C (requireGeneration zPolicy failure) := by
  unfold requireGeneration
  infer_instance

instance (zPolicy : Option Zval) (failure : Method Unit)
    [Tells CallState.Quiet C failure] :
    Tells CallState.Quiet C (requireTtl zPolicy failure) := by
  unfold requireTtl
  infer_instance

instance [AdmitsQuiet C] (ordered : Bool) (serializerType : SerializerType)
    (zOps : HashTable) (gen ttl : ℕ) :
    Tells CallState.Quiet C
      (addAllOperations engine oracle ordered serializerType zOps gen ttl) := by
  have hset : ∀ s : CallState, s.Quiet →
      { s with err := ((addOperations engine.rt engine.operators serializerType
        ordered (batchOf oracle zOps)).run ⟨s.err, [], ttl, gen⟩).2.err }.Quiet := by
    intro s hs
    have hmoves : Moves OpsState.Explains (addOperations engine.rt
      engine.operators serializerType ordered (batchOf oracle zOps)) := inferInstance
    exact ⟨hs.1.of_becomes (hmoves.moves ⟨s.err, [], ttl, gen⟩), hs.2⟩
  refine ⟨fun s hs => ?_⟩
  unfold addAllOperations
  rw [run_bind_ok (run_get s)]
  have hrest : ∀ value : Option AsOperations,
      Tells CallState.Quiet C (orFail value gotoCleanup) := inferInstance
  exact (hrest _).ends _ (hset s hs)

instance (args : OperateArgs) (key : AsKey) :
    Tells CallState.Quiet CallState.Settled
      (operateBody engine oracle key args) := by
  unfold operateBody
  infer_instance

instance (args : OperateArgs) (key : AsKey) :
    Tells CallState.Quiet CallState.Settled
      (operateOrderedBody engine oracle key args) := by
  unfold operateOrderedBody
  infer_instance

instance (args : TouchArgs) :
    Tells CallState.Quiet CallState.Settled (touchBody engine oracle args) := by
  unfold touchBody
  infer_instance

instance (args : Option StringOpArgs) :
    Tells CallState.Entered CallState.Settled
      (appendBody engine client oracle args) := by
  unfold appendBody
  infer_instance

instance (key : AsKey) (policy : PolicyOperate) (args : StringOpArgs) :
    Tells CallState.Quiet CallState.Settled
      (prependBody oracle key policy args) := by
  unfold prependBody
  infer_instance

/-- A report of the error, if any. -/
instance (offset : Zval) :
    Tells CallState.Quiet C (requireIncrement engine offset) := by
  unfold requireIncrement
  split <;> infer_instance

theorem reportErr_ends {E : Exit → CallState → Prop} :
    Ends CallState.Quiet (do
      let s ← Proc.get
      runIf (s.err.code ≠ .ok) reportErr) (fun _ => CallState.Told) E := by
  intro s hs
  rw [run_bind_ok (run_get s)]
  by_cases hcode : s.err.code = .ok
  · rw [runIf_neg (not_not.mpr hcode)]
    refine ⟨?_, ?_⟩
    · rw [hcode]
      exact congrArg AsError.code hs.2
    · exact iff_of_true (congrArg AsError.message hs.2) hcode
  · rw [runIf_pos hcode]
    exact tells_of_sound hs.1 rfl

instance (key : AsKey) (policy : PolicyOperate) (value : OpValue)
    (args : IncrementArgs) :
    Tells CallState.Quiet C
      (withCleanup (incrementBody oracle key policy value args) returnErrCode :
        Method Reply) := by
  have hcleanup : Tells CallState.Told C (returnErrCode : Method Reply) :=
    inferInstance
  refine tells_withCleanup ?_ hcleanup
  unfold incrementBody
  refine ends_bind Tells.ends fun gen => ?_
  refine ends_bind Tells.ends fun ttl => ?_
  exact ends_bind Tells.ends fun _ => reportErr_ends

/-! ## The list operations -/

instance (bin : String) : Tells CallState.Quiet C (checkBinName bin) := by
  unfold checkBinName
  infer_instance

instance : Tells CallState.Quiet C (validateListClient client) := by
  unfold validateListClient
  infer_instance

instance (args : ListArgs) :
    Tells CallState.Quiet CallState.Settled
      (setupListOperationVariables engine args) := by
  unfold setupListOperationVariables
  infer_instance

instance (answer : Answer) : Tells CallState.Quiet C (ignoreResult answer) := by
  unfold ignoreResult
  infer_instance

instance (bin : String) (missing : Method Unit) (answer : Answer)
    [Tells CallState.Quiet CallState.Settled missing] :
    Tells CallState.Quiet CallState.Settled
      (useReturned engine bin missing answer) := by
  unfold useReturned
  infer_instance

instance (bin : String) (answer : Answer) :
    Tells CallState.Quiet CallState.Settled (useSize bin answer) := by
  unfold useSize
  infer_instance

instance (op : OpType) (bin : String) (index count : Option Int64) :
    Tells CallState.Quiet C (plainOperation op bin index count) := by
  unfold plainOperation
  infer_instance

instance (args : ListArgs) (index : Int64) :
    Tells CallState.Quiet C (getOperation args index) := by
  unfold getOperation
  infer_instance

instance : Tells CallState.Quiet CallState.Settled notAddedErr := by
  unfold notAddedErr
  infer_instance

instance (zPolicy : Option Zval) (failure : Method Unit)
    [Tells CallState.Quiet C failure] :
    Tells CallState.Quiet C (requireSerializer engine zPolicy failure) := by
  unfold requireSerializer
  infer_instance

instance (policy : Option Zval) (z : Zval) (badSerializer notConverted : Method Unit)
    [Tells CallState.Quiet C badSerializer]
    [Tells CallState.Quiet C notConverted] :
    Tells CallState.Quiet C
      (convertItem engine policy z badSerializer notConverted) := by
  unfold convertItem
  infer_instance

instance (args : ListArgs) (index : Int64) (z : Zval) :
    Tells CallState.Quiet CallState.Settled (setItem engine args index z) := by
  unfold setItem
  infer_instance

instance (args : ListArgs) (makeOperation : Method Operation)
    (notAdded : Method Unit) (useResult : Answer → Method Unit)
    [Tells CallState.Quiet CallState.Settled makeOperation]
    [Tells CallState.Quiet CallState.Settled notAdded]
    [∀ answer, Tells CallState.Quiet CallState.Settled (useResult answer)] :
    Tells CallState.Quiet CallState.Settled
      (listBody engine oracle args makeOperation notAdded useResult) := by
  unfold listBody
  infer_instance

/-- A value that does not convert leaves its error behind, with which
`CLEANUP` overwrites the report made here. -/
theorem usePopped_ends (bin : String) (answer : Answer) :
    Ends CallState.Quiet (usePopped engine bin answer)
      (fun _ => CallState.Settled) (Exit.Tells CallState.Settled) := by
  intro s hs
  unfold usePopped
  by_cases hcode : s.err.code = .ok
  · rw [run_bind_ok (cleanupOnError_run_ok hcode)]
    cases hvalue : answerBin answer bin with
    | none => exact settled_of_quiet hs
    | some value =>
        have hdecodes := @asValToZval_decodes engine.rt value _ hcode
        have hsound := hs.1.of_becomes
          (asValToZval_becomes engine.rt value s.err)
        have hsome : ∀ use : AsVal → Method Unit,
            forSome (some value) use = use value := fun _ => rfl
        rw [hsome, run_bind_ok (writeOutput_run _ s)]
        cases hdecode : decode engine.rt value with
        | none =>
            rw [hdecode] at hdecodes
            rw [runIf_pos hdecodes.1]
            exact settled_of_failure hdecodes.2.1
              (hsound.failure_text hdecodes.2.1)
        | some z =>
            rw [hdecode] at hdecodes
            rw [hdecodes, runIf_neg (not_not.mpr rfl)]
            exact settled_of_quiet hs
  · rw [run_bind_error (cleanupOnError_run_error hcode)]
    exact settled_of_quiet hs

/-! ## Methods on many records -/

theorem convertKeys_tells (notArray : String) [HasText notArray]
    [AdmitsQuiet C] (zs : List Zval) :
    Tells CallState.Quiet C (convertKeys engine notArray zs) := by
  induction zs with
  | nil => exact inferInstanceAs (Tells _ C (pure []))
  | cons z zs ih =>
      cases z with
      | array zKey =>
          unfold convertKeys
          infer_instance
      | undef | null | bool _ | long _ | double _ | string _ | object _ _
      | resource | reference _ =>
          exact inferInstanceAs
            (Tells _ C (failCleanup .errParam notArray))

instance (notArray : String) [HasText notArray] [AdmitsQuiet C]
    (zs : List Zval) :
    Tells CallState.Quiet C (convertKeys engine notArray zs) :=
  convertKeys_tells engine notArray zs

instance [AdmitsQuiet C] (key : AsKey) (result : BatchResult) :
    Tells CallState.Quiet C (getManyEntry engine key result) := by
  unfold getManyEntry
  infer_instance

instance [AdmitsQuiet C] (results : List (AsKey × BatchResult))
    (table : HashTable) :
    Tells CallState.Quiet C (getManyLoop engine results table) := by
  induction results generalizing table with
  | nil => exact inferInstanceAs (Tells _ C (pure ()))
  | cons entry rest ih =>
      unfold getManyLoop
      infer_instance

instance (policy : Option PolicyBatch) (bins : Option (List String))
    (zKeys : HashTable) :
    Tells CallState.Quiet C
      (getManyWithBatchRead engine oracle policy bins zKeys) := by
  have hbody : Tells CallState.Quiet CallState.Quiet (do
      setOutput (.array [])
      let keys ← convertKeys engine "Keys must be arrays"
        (HashTable.values zKeys)
      let answer ← issue oracle
        (.batchRead policy (keys.map fun key => ⟨key, bins⟩))
      cleanupOnError
      getManyLoop engine (keyResults engine keys answer) []) := inferInstance
  exact tells_withCleanup hbody.ends inferInstance

instance (policy : Option PolicyBatch) (args : GetManyArgs) :
    Tells CallState.Quiet CallState.Settled
      (getManyBody engine oracle policy args) := by
  have hbins : Tells CallState.Quiet CallState.Settled
      (requireBatchBinNames args.filter) := by
    have hworded := batchBinNames_worded args.filter
    unfold requireBatchBinNames
    cases hnames : batchBinNames args.filter with
    | ok names => infer_instance
    | error message =>
        have := hworded message hnames
        infer_instance
  unfold getManyBody
  infer_instance

instance (results : List (AsKey × BatchResult)) (table : HashTable) :
    Tells CallState.Quiet C (existsCallback results table) := by
  induction results generalizing table with
  | nil => exact inferInstanceAs (Tells _ C (pure ()))
  | cons entry rest ih =>
      unfold existsCallback
      infer_instance

instance (args : Option ExistsManyArgs) :
    Tells CallState.Entered CallState.Settled
      (existsManyBody engine client oracle args) := by
  unfold existsManyBody
  infer_instance

/-! ## Queries, scans and UDF calls -/

instance : Tells CallState.Quiet CallState.Settled (requireQueryInit oracle) := by
  unfold requireQueryInit
  infer_instance

instance (select : Option HashTable) :
    Tells CallState.Quiet CallState.Settled (requireSelect select) := by
  unfold requireSelect
  infer_instance

instance (query : AsQuery) (predicate : HashTable) :
    Tells CallState.Quiet CallState.Settled
      (addPredicate engine oracle query predicate) := by
  have hadd : Tells CallState.Quiet CallState.Settled (do
      let s ← Proc.get
      let result := addPredicateToQuery engine.indexTypes oracle.whereOk query
        predicate s.err
      setErrTo result.err
      runIf (result.status ≠ .ok) gotoCleanup
      pure result.query : Method AsQuery) := by
    refine ⟨fun s hs => ?_⟩
    have hbecomes := @addPredicateToQuery_becomes engine.indexTypes
      oracle.whereOk query s.err predicate
    have hrest : ∀ result : Predicated,
        Tells CallState.Quiet CallState.Settled (do
          runIf (result.status ≠ .ok) gotoCleanup
          pure result.query : Method AsQuery) := inferInstance
    exact (hrest _).ends _ ⟨hs.1.of_becomes hbecomes, hs.2⟩
  unfold addPredicate
  infer_instance

instance (serializerType : SerializerType) (zArgs : HashTable) :
    Tells CallState.Quiet CallState.Settled
      (requireArgs engine serializerType zArgs) := by
  unfold requireArgs
  infer_instance

instance (serializerType : SerializerType) (zArgs : HashTable) :
    Tells CallState.Quiet CallState.Settled
      (requireCleanArgs engine serializerType zArgs) := by
  unfold requireCleanArgs
  infer_instance

instance (policy : PolicyWrite) (args : UdfQueryArgs) :
    Tells CallState.Quiet CallState.Settled
      (queryApplyBody engine oracle policy args) := by
  unfold queryApplyBody
  infer_instance

instance (values : List AsVal) (table : HashTable) :
    Tells CallState.Quiet C (aggregateCallback engine values table) := by
  induction values generalizing table with
  | nil => exact inferInstanceAs (Tells _ C (pure ()))
  | cons value values ih =>
      unfold aggregateCallback
      infer_instance

instance (policy : Option PolicyQuery) (args : UdfQueryArgs) :
    Tells CallState.Quiet CallState.Settled
      (aggregateBody engine oracle policy args) := by
  unfold aggregateBody
  infer_instance

instance (policy : PolicyScan) (args : ScanArgs) :
    Tells CallState.Quiet CallState.Settled (scanBody oracle policy args) := by
  unfold scanBody
  infer_instance

instance (policy : PolicyScan) (args : ScanApplyArgs) :
    Tells CallState.Quiet CallState.Settled
      (scanApplyBody engine oracle policy args) := by
  unfold scanApplyBody
  infer_instance

instance (serializerType : SerializerType) (zArgs : Option HashTable) :
    Tells CallState.Quiet CallState.Settled
      (applyArgs engine serializerType zArgs) := by
  unfold applyArgs
  split <;> infer_instance

instance (args : Option ApplyArgs) :
    Tells CallState.Entered CallState.Settled
      (applyBody engine client oracle args) := by
  unfold applyBody
  infer_instance

/-- A request whose error is reported at once. -/
theorem tells_issueReported (request : Request) (next : Answer → Method Reply)
    (hnext : ∀ answer, Ends (fun s => s.Quiet ∧ s.err.code = .ok) (next answer)
      (fun _ => CallState.Quiet) (Exit.Tells C)) :
    Tells CallState.Quiet C (do
      let answer ← issue oracle request
      runIf (answer.err.code ≠ .ok) do
        reportErr
        returnErrCode
      next answer) := by
  refine ⟨fun s hs => ?_⟩
  have hsound := horacle.answer s.requests.length request
  have hissue : (issue oracle request).run s =
      (.ok (oracle.answer s.requests.length request), { s with
        requests := s.requests ++ [request]
        err := (oracle.answer s.requests.length request).err }) := rfl
  rw [run_bind_ok hissue]
  by_cases hcode : (oracle.answer s.requests.length request).err.code = .ok
  · rw [runIf_neg (not_not.mpr hcode)]
    exact hnext _ _ ⟨⟨hsound, hs.2⟩, hcode⟩
  · rw [runIf_pos hcode]
    exact tells_of_sound hsound rfl

instance (id : Int64) (policy : PolicyInfo) :
    Tells CallState.Quiet C (do
      let answer ← issue oracle (.info (some policy) (.scanInfo (toUint64 id)))
      runIf (answer.err.code ≠ .ok) do
        reportErr
        returnErrCode
      setOutput (jobTable answer.job)
      returnErrCode : Method Reply) := by
  refine tells_issueReported oracle _ _ fun answer => ?_
  rintro s ⟨hs, hcode⟩
  refine ⟨?_, ?_⟩
  · show s.clientError.code = s.err.code
    rw [hcode]
    exact congrArg AsError.code hs.2
  · exact iff_of_true (congrArg AsError.message hs.2) hcode

instance (policy : PolicyInfo) (args : JobInfoArgs) :
    Tells CallState.Quiet CallState.Settled (jobInfoBody oracle policy args) := by
  unfold jobInfoBody
  infer_instance

/-! ## Information about the cluster -/

instance (zPolicy : Option Zval) (message : String) [HasText message] :
    Tells CallState.Quiet C (requireInfoPolicy engine zPolicy message) := by
  unfold requireInfoPolicy
  infer_instance

instance : Tells CallState.Quiet C reportAndReturn :=
  Tells.of_settled (tells_cleanup fun _ => ⟨_, rfl, rfl, rfl⟩)

instance (hosts : Option HashTable) :
    Tells CallState.Quiet C (requireHostsFilter hosts) := by
  unfold requireHostsFilter
  split <;> infer_instance

instance (host : Option HashTable) :
    Tells CallState.Quiet CallState.Settled (requireHost oracle host) := by
  unfold requireHost
  cases host with
  | none => infer_instance
  | some host =>
      have hworded := hostOfHash_worded host
      dsimp only
      cases hhost : hostOfHash host with
      | ok destination => infer_instance
      | error message =>
          have := hworded message hhost
          infer_instance

instance (policy : Option PolicyInfo) (args : HostInfoArgs) :
    Tells CallState.Quiet CallState.Settled (infoBody oracle policy args) := by
  unfold infoBody
  infer_instance

instance (policy : PolicyInfo) (args : GetRegisteredArgs) :
    Tells CallState.Quiet CallState.Settled
      (getRegisteredBody oracle policy args) := by
  unfold getRegisteredBody
  infer_instance

instance : Tells CallState.Quiet CallState.Settled
    (requireUdfFile oracle.udfFile) := by
  have hfile := horacle.udfFile
  unfold requireUdfFile
  cases hudf : oracle.udfFile with
  | copied content => infer_instance
  | failed code message =>
      obtain ⟨hcode, hmessage⟩ := hfile code message hudf
      have : IsFailure code := ⟨hcode⟩
      have : HasText message := ⟨hmessage⟩
      infer_instance

/-- An error that is reported on the way to `CLEANUP`, which reports it
again. -/
instance : Tells CallState.Quiet CallState.Settled (do
    reportErr
    gotoCleanup : Method Unit) := by
  refine ⟨fun s hs => ?_⟩
  show CallState.Settled { s with clientError := s.err }
  unfold CallState.Settled
  split
  · next hcode => exact ⟨hcode, hs.1.mpr hcode⟩
  · next hcode => exact hs.1.failure_text hcode

instance (policy : PolicyInfo) (args : RegisterArgs) :
    Tells CallState.Quiet CallState.Settled (registerBody oracle policy args) := by
  unfold registerBody
  infer_instance

instance (policy : PolicyInfo) (args : ListRegisteredArgs) :
    Tells CallState.Quiet C
      (withCleanup (listRegisteredBody oracle policy args) returnErrCode :
        Method Reply) := by
  have hcleanup : Tells CallState.Told C (returnErrCode : Method Reply) :=
    inferInstance
  refine tells_withCleanup ?_ hcleanup
  unfold listRegisteredBody
  refine ends_bind Tells.ends fun answer => ?_
  intro s hs
  rw [run_bind_ok (run_get s)]
  by_cases hcode : s.err.code = .ok
  · rw [runIf_neg (not_not.mpr hcode)]
    refine ⟨?_, ?_⟩
    · show s.clientError.code = s.err.code
      rw [hcode]
      exact congrArg AsError.code hs.2
    · exact iff_of_true (congrArg AsError.message hs.2) hcode
  · rw [runIf_pos hcode]
    exact tells_of_sound hs.1 rfl

/-! ## User administration -/

instance (zPolicy : Option Zval) (message : String) [HasText message] :
    Tells CallState.Quiet CallState.Settled
      (requireAdminPolicy engine zPolicy message) := by
  unfold requireAdminPolicy
  infer_instance

theorem requireConverted_tells {α : Type} {converted : Except String α}
    (hworded : Worded converted) :
    Tells CallState.Quiet CallState.Settled (requireConverted converted) := by
  unfold requireConverted
  cases converted with
  | ok value => infer_instance
  | error message =>
      have := hworded message rfl
      infer_instance

instance (hash : HashTable) : Tells CallState.Quiet CallState.Settled
    (requireConverted (zHashtableToAsPrivileges hash)) :=
  requireConverted_tells (worded_mapM hashToPrivilege_worded _)

instance (hash : HashTable) : Tells CallState.Quiet CallState.Settled
    (requireConverted (zHashToStrArray hash)) :=
  requireConverted_tells (worded_mapM hashToRole_worded _)

instance (user tooLong : String) [HasText tooLong] :
    Tells CallState.Quiet CallState.Settled (checkUser user tooLong) := by
  unfold checkUser
  infer_instance

instance (policy : Option PolicyInfo) (command : AdminCommand) :
    Tells CallState.Quiet C (issueAdmin oracle policy command) := by
  unfold issueAdmin
  infer_instance

instance (args : Option RoleArgs) :
    Tells CallState.Entered CallState.Settled
      (createRoleBody engine client oracle args) := by
  unfold createRoleBody
  infer_instance

instance (args : Option QueryRoleArgs) :
    Tells CallState.Entered CallState.Settled
      (queryRoleBody engine client oracle args) := by
  unfold queryRoleBody
  infer_instance

instance (args : Option (Option Zval)) :
    Tells CallState.Quiet CallState.Settled
      (queryRolesBody engine client oracle args) := by
  unfold queryRolesBody
  infer_instance

instance (args : Option NameArgs) :
    Tells CallState.Quiet CallState.Settled
      (dropRoleBody engine client oracle args) := by
  unfold dropRoleBody
  infer_instance

instance (command : String → List Privilege → AdminCommand)
    (badArguments badPolicy : String) [HasText badArguments]
    [HasText badPolicy] (args : Option RoleArgs) :
    Tells CallState.Quiet CallState.Settled (privilegesBody engine client oracle
      command badArguments badPolicy args) := by
  unfold privilegesBody
  infer_instance

instance (args : Option CreateUserArgs) :
    Tells CallState.Quiet CallState.Settled
      (createUserBody engine client oracle args) := by
  unfold createUserBody
  infer_instance

instance (command : String → String → AdminCommand)
    (args : Option PasswordArgs) :
    Tells CallState.Quiet CallState.Settled
      (passwordBody engine oracle command args) := by
  unfold passwordBody
  infer_instance

instance (command : String → List String → AdminCommand)
    (args : Option UserRolesArgs) :
    Tells CallState.Quiet CallState.Settled
      (userRolesBody engine client oracle command args) := by
  unfold userRolesBody
  infer_instance

instance (args : Option NameArgs) :
    Tells CallState.Quiet CallState.Settled
      (queryUserBody engine client oracle args) := by
  unfold queryUserBody
  infer_instance

instance (args : Option (Option Zval)) :
    Tells CallState.Quiet CallState.Settled
      (queryUsersBody engine client oracle args) := by
  unfold queryUsersBody
  infer_instance

instance (args : Option NameArgs) :
    Tells CallState.Quiet CallState.Settled
      (dropUserBody engine client oracle args) := by
  unfold dropUserBody
  infer_instance

end

end AerospikePhp
