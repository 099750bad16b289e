import AerospikePhp.Calls
import AerospikePhp.Connections
import AerospikePhp.KeyRequests
import AerospikePhp.Batches
import Mathlib.Tactic

/-!
# The connection guard

Before it talks to the cluster, every data method asks whether the client is
valid and connected.  All but `get` end there when it is not; `get` records the
error and goes on as if nothing had happened.
-/

namespace AerospikePhp

open Procedure Method Proc

/-- The piece goes on, or ends the call with a failure, and sends nothing. -/
class Passes {α : Type} (inner : Bool) (body : Method α) : Prop where
  passes : ∀ s, (∃ value s', body.run s = (.ok value, s') ∧
      s'.requests = s.requests) ∨ HaltsAt inner s.requests .failed (body.run s)

section

variable {α β : Type} {inner : Bool}

theorem passes_goesOn {body : Method α} {change : CallState → CallState}
    {value : α} (hrun : ∀ s, body.run s = (.ok value, change s))
    (hrequests : ∀ s, (change s).requests = s.requests) : Passes inner body :=
  ⟨fun s => .inl ⟨value, change s, hrun s, hrequests s⟩⟩

instance : Passes inner resetClientError :=
  passes_goesOn (fun _ => rfl) fun _ => rfl

instance (z : Zval) : Passes inner (setOutput z) :=
  passes_goesOn (fun _ => rfl) fun _ => rfl

instance (condition : Prop) [Decidable condition] (statement : Method Unit)
    [h : Passes inner statement] : Passes inner (runIf condition statement) := by
  unfold runIf
  split
  · exact h
  · exact @passes_goesOn Unit inner (pure ()) id () (fun _ => rfl) fun _ => rfl

instance (value : Option α) (failure : Method α) [hfails : Fails inner failure] :
    Passes inner (orFail value failure) := by
  refine ⟨fun s => ?_⟩
  cases value with
  | some v => exact .inl ⟨v, s, rfl, rfl⟩
  | none => exact .inr (hfails.yields s trivial)

/-! ## Pieces that end the call -/

instance (body : Method β) (next : β → Method α) [hfails : Fails inner body] :
    Fails inner (body >>= next) := by
  refine ⟨fun s hs => ?_⟩
  obtain ⟨exit, s', hrun, hend⟩ := hfails.yields s hs
  exact ⟨exit, s', run_bind_error hrun, hend⟩

instance (body : Method β) (next : β → Method α) [hpasses : Passes inner body]
    [hnext : ∀ value, Fails inner (next value)] : Fails inner (body >>= next) := by
  refine ⟨fun s _ => ?_⟩
  rcases hpasses.passes s with ⟨value, s', hrun, hrequests⟩ |
    ⟨exit, s', hrun, hend⟩
  · rw [run_bind_ok hrun, ← hrequests]
    exact (hnext value).yields s' trivial
  · exact ⟨exit, s', run_bind_error hrun, hend⟩

theorem fails_withCleanup {body : Method Unit} {cleanup : Method Reply}
    [hfails : Fails true body] (hreports : Reports cleanup) :
    Fails inner (withCleanup body cleanup) :=
  ⟨fun s hs => withCleanup_halts (hfails.yields s hs) hreports⟩

instance (body : Method Unit) [Fails true body] :
    Fails inner (withCleanup body cleanupErr) :=
  fails_withCleanup reports_cleanupErr

/-- A method that ends with a failure refuses the call. -/
theorem refused_of_fails {method : Method Reply} [hfails : Fails false method]
    (policies : Policies) (clientError : AsError) :
    (method.call (.start policies clientError)).Refused :=
  @call_of_sends SameRequests method (.error .failed) policies clientError
    fun s _ => hfails.yields s trivial

/-! ## The guards of a client that is not ready -/

section

variable {client : Client}

theorem fails_of_ensure {body : Method Unit} (hnot : ¬ client.Ready)
    (hyields : Yields inner anything body (ensure client.Ready) anything) :
    Fails inner body := by
  have hverdict : ensure client.Ready = .error .failed := if_neg hnot
  rw [hverdict] at hyields
  exact ⟨hyields⟩

variable [hnot : Fact (¬ client.Ready)]

instance : Fails inner (requireConnection client) :=
  fails_of_ensure hnot.out yields_requireConnection

instance : Fails true (requireConnectionOrCleanup client) :=
  fails_of_ensure hnot.out yields_requireConnectionOrCleanup

instance : Fails inner (validateListClient client) :=
  fails_of_ensure hnot.out (yields_validate (by decide))

instance (invalid notConnected : String) :
    Fails inner (validateClientAndConnection client .errClient invalid
      notConnected) :=
  fails_of_ensure hnot.out (yields_validate (by decide))

instance (invalid notConnected : String) :
    Fails inner (validateClientAndConnection client .errCluster invalid
      notConnected) :=
  fails_of_ensure hnot.out (yields_validate (by decide))

/-- A guard of its own making, which ends the call when the check fails. -/
theorem fails_check {next : AsStatus → Method α}
    (hnext : ∀ s, s.err.code ≠ .ok →
      HaltsAt inner s.requests .failed ((next s.err.code).run s)) :
    Fails inner (checkObjectAndConnection client >>= next) := by
  refine ⟨fun s _ => ?_⟩
  rcases @checkObjectAndConnection_run client s with
    ⟨hready, _⟩ | ⟨_, code, message, hcode, hrun⟩
  · exact absurd hready hnot.out
  · rw [run_bind_ok hrun]
    exact hnext { s with err := s.err.update code message } hcode

instance : Fails true (requireConnectionAgain client) := by
  refine fails_check fun s hcode => ?_
  rw [runIf_pos hcode]
  exact ⟨.cleanup, _, rfl, rfl, rfl, hcode⟩

end

end

/-! ## The methods that stop at their guard -/

section

variable {engine : Engine} {client : Client} {oracle : Oracle}

theorem reports_queryRoleCleanup : Reports queryRoleCleanup := by
  intro s hcode
  unfold queryRoleCleanup
  rw [run_bind_ok (run_get s), runIf_pos hcode]
  cases houtput : s.output with
  | none => exact ⟨.long s.err.code, _, rfl, rfl, hcode⟩
  | some z => exact ⟨.long s.err.code, _, rfl, rfl, hcode⟩

variable [hnot : Fact (¬ client.Ready)]

instance (body : Method Unit) [Fails true body] :
    Fails false (withCleanup body existsManyCleanup) :=
  fails_withCleanup reports_existsManyCleanup

instance (body : Method Unit) [Fails true body] :
    Fails false (withCleanup body queryRoleCleanup) :=
  fails_withCleanup reports_queryRoleCleanup

instance (args : Option InfoManyArgs) :
    Fails false (infoMany engine client oracle args) := by
  have hguard : ∀ next : Unit → Method Reply, Fails false (do
      let status ← checkObjectAndConnection client
      let u ← runIf (status ≠ .ok) (do
        reportErr
        Proc.exit (.ret .null))
      next u) := by
    intro next
    refine fails_check fun s hcode => ?_
    rw [runIf_pos hcode]
    exact ⟨.ret .null, _, rfl, rfl, trivial⟩
  have := hguard
  unfold infoMany
  infer_instance

instance (args : Option PasswordArgs) :
    Fails false (changePassword engine client oracle args) := by
  have hguard : ∀ next : Unit → Method Reply, Fails false (do
      let status ← checkObjectAndConnection client
      let u ← runIf (status ≠ .ok) (do
        let s ← Proc.get
        setErr s.err.code s.err.message
        returnErrCode)
      next u) := by
    intro next
    refine fails_check fun s hcode => ?_
    rw [runIf_pos hcode]
    exact ⟨.ret (.long s.err.code), _, rfl, rfl, hcode⟩
  have := hguard
  unfold changePassword
  infer_instance

/-- Every method but `get` stops at its guard. -/
theorem call_fails_of_not_get (call : Call)
    (hget : ∀ args, call ≠ .get args) :
    Fails false (call.method engine client oracle) := by
  cases call with
  | get args => exact absurd rfl (hget args)
  | «exists» _ | put _ | remove _ | removeBin _ | getMany _ | existsMany _ =>
      all_goals
        simp only [Call.method, AerospikePhp.exists, put, remove, removeBin,
          getMany, existsMany, existsManyBody]
        infer_instance
  | operate _ | operateOrdered _ | touch _ | append _ | prepend _
  | increment _ =>
      all_goals
        simp only [Call.method, operate, operateOrdered, touch, append,
          appendBody, prepend, increment]
        infer_instance
  | listSize _ | listAppend _ | listMerge _ | listInsert _ | listInsertItems _
  | listPop _ | listPopRange _ | listRemove _ | listRemoveRange _ | listTrim _
  | listClear _ | listSet _ | listGet _ | listGetRange _ =>
      all_goals
        simp only [Call.method, listSize, listAppend, listMerge, listInsert,
          listInsertItems, listPop, listPopRange, listRemove, listRemoveRange,
          listTrim, rangeMethod, listClear, listSet, listGet, listGetRange]
        infer_instance
  | query _ | queryApply _ | aggregate _ | scan _ | scanApply _ | apply _
  | scanInfo _ | jobInfo _ =>
      all_goals
        simp only [Call.method, query, queryApply, aggregate, scan, scanApply,
          apply, applyBody, scanInfo, jobInfo]
        infer_instance
  | info _ | getNodes | addIndex _ | dropIndex _ | truncate _
  | getRegistered _ | register _ | deregister _ | listRegistered _ =>
      all_goals
        simp only [Call.method, info, getNodes, addIndex, dropIndex, truncate,
          getRegistered, register, deregister, listRegistered]
        infer_instance
  | infoMany _ | changePassword _ =>
      all_goals
        simp only [Call.method]
        infer_instance
  | createRole _ | queryRole _ | queryRoles _ | dropRole _ | grantPrivileges _
  | revokePrivileges _ =>
      all_goals
        simp only [Call.method, createRole, createRoleBody, queryRole,
          queryRoleBody, queryRoles, queryRolesBody, dropRole, dropRoleBody,
          grantPrivileges, revokePrivileges, privilegesBody]
        infer_instance
  | createUser _ | setPassword _ | grantRoles _ | revokeRoles _ | queryUser _
  | queryUsers _ | dropUser _ =>
      all_goals
        simp only [Call.method, createUser, createUserBody, setPassword,
          grantRoles, revokeRoles, userRolesBody, queryUser, queryUserBody,
          queryUsers, queryUsersBody, dropUser, dropUserBody]
        infer_instance

end

/-! ## get, which goes on -/

section

variable (engine : Engine)

/-- What the filter of a `get` asks the cluster for. -/
def filterRequest (policy : PolicyRead) (key : AsKey) :
    Option Zval → Option Request
  | none => some (.keyGet policy key)
  | some (.array bins) =>
      if HashTable.hashtableIsList bins = false then none
      else
        match filterBinNames bins with
        | .error _ => none
        | .ok names => some (.keySelect policy key names)
  | some _ => none

/-- `get` looks at the arguments only, and crashes without a handle. -/
def getVerdict (hasClient : Bool) (policies : Policies)
    (args : Option GetArgs) : Verdict Request := do
  let args ← present args
  if hasClient = false then .error .crashed
  else do
    let policy ← policyOf
      (zvalToAsPolicyRead engine.init.read args.policy policies.read)
    let key ← present (keyOf engine.keyInit args.key)
    present (filterRequest policy key args.filter)

variable {engine : Engine} {client : Client} {oracle : Oracle}
variable {policies : Policies}

theorem sends_of_fails {α : Type} {after : CallState → CallState → Prop}
    {inner : Bool} {p : Assertion} {body : Method α}
    [hfails : Fails inner body] :
    Sends after inner p body (.error .failed) :=
  fun s _ => hfails.yields s trivial

theorem getBody_sends {policy : PolicyRead} {key : AsKey}
    {filter : Option Zval} :
    Sends SameRequests true anything
      (getBody engine oracle policy key filter)
      (present (filterRequest policy key filter)) := by
  unfold getBody readWithFilter filterRequest
  cases filter with
  | none => exact sends_issue
  | some z =>
      cases z with
      | array bins =>
          unfold asGetWithBins
          by_cases hlist : HashTable.hashtableIsList bins = false
          · simp only [if_pos hlist]
            exact sends_of_fails
          · simp only [if_neg hlist]
            cases filterBinNames bins with
            | error message => exact sends_of_fails
            | ok names => exact sends_issue
      | undef | null | bool _ | long _ | double _ | string _ | object _ _
      | resource | reference _ => exact sends_of_fails

theorem readWithFilter_of_request {policy : PolicyRead} {key : AsKey}
    {filter : Option Zval} {request : Request}
    (hrequest : filterRequest policy key filter = some request) :
    readWithFilter oracle policy key filter = issue oracle request := by
  unfold filterRequest at hrequest
  split at hrequest
  · cases hrequest
    rfl
  · next bins =>
      split at hrequest
      · cases hrequest
      · next hlist =>
          split at hrequest
          · cases hrequest
          · next names hnames =>
              cases hrequest
              simp only [readWithFilter, asGetWithBins, if_neg hlist, hnames]
  · cases hrequest

theorem reports_getCleanup : Reports getCleanup := by
  intro s hcode
  unfold getCleanup
  rw [run_bind_ok (run_get s), runIf_pos hcode]
  exact ⟨.long s.err.code, _, rfl, rfl, hcode⟩

/-- The check of the client does not stop `get`. -/
theorem yields_getGuard :
    Yields false (fun _ ps => True ∧ ps = policies)
      (checkObjectAndConnection client >>= fun status =>
        runIf (status ≠ .ok) reportErr) (.ok ())
      (fun _ ps => True ∧ ps = policies) := by
  intro s hs
  rcases @checkObjectAndConnection_run client s with
    ⟨_, hrun⟩ | ⟨_, code, message, hcode, hrun⟩
  · rw [run_bind_ok hrun]
    exact ⟨s, rfl, rfl, hs⟩
  · rw [run_bind_ok hrun, runIf_pos hcode]
    exact ⟨_, rfl, rfl, hs⟩

theorem get_meets (args : Option GetArgs) (clientError : AsError) :
    ((get engine client oracle args).call (.start policies clientError)).Meets
      SameRequests (getVerdict engine client.hasClient policies args) := by
  refine call_of_sends clientError fun s hs => ?_
  have hsends : Sends SameRequests false (fun _ ps => True ∧ ps = policies)
      (get engine client oracle args)
      (getVerdict engine client.hasClient policies args) := by
    unfold get getVerdict
    refine sends_seq yields_resetClientError ?_
    rw [← bind_assoc]
    refine sends_seq yields_getGuard ?_
    refine sends_bind yields_orFail fun args => ?_
    refine sends_seq (yields_setOutput _) ?_
    by_cases hhas : client.hasClient = false
    · rw [runIf_pos hhas, if_pos hhas]
      exact fun s _ => ⟨.crash, s, rfl, rfl, trivial⟩
    · rw [runIf_neg hhas, if_neg hhas]
      refine sends_seq (yields_pure ()) ?_
      refine sends_bind yields_requirePolicy_any fun policy => ?_
      refine sends_bind yields_requireKey fun key => ?_
      refine sends_withCleanup ?_ reports_getCleanup
      exact fun s _ => getBody_sends s trivial
  exact hsends s ⟨trivial, hs.2⟩

/-- The filter of a `get` is absent or a list of bin names. -/
def FilterFits : Option Zval → Prop
  | none => True
  | some (.array bins) =>
      HashTable.hashtableIsList bins = true ∧
        ∃ names, filterBinNames bins = .ok names
  | some _ => False

/-- The arguments of a `get` come to a request. -/
def GetArgs.WellFormed (engine : Engine) (policies : Policies)
    (args : GetArgs) : Prop :=
  (zvalToAsPolicyRead engine.init.read args.policy policies.read).status = .ok ∧
    (keyOf engine.keyInit args.key).isSome ∧ FilterFits args.filter

theorem filterRequest_gated {policy : PolicyRead} {key : AsKey}
    {filter : Option Zval} :
    Gated (FilterFits filter) (fun verdict => ∃ request, verdict = .ok request)
      (present (filterRequest policy key filter)) := by
  unfold filterRequest
  cases filter with
  | none => exact gated_of_true trivial ⟨_, rfl⟩
  | some z =>
      cases z with
      | array bins =>
          by_cases hlist : HashTable.hashtableIsList bins = false
          · simp only [if_pos hlist]
            exact .inr ⟨fun hfits => by simp [FilterFits, hlist] at hfits, rfl⟩
          · simp only [if_neg hlist]
            cases hnames : filterBinNames bins with
            | error message =>
                exact .inr ⟨fun hfits => by simp [FilterFits, hnames] at hfits,
                  rfl⟩
            | ok names =>
                exact .inl ⟨⟨by simpa using hlist, names, hnames⟩, _, rfl⟩
      | undef | null | bool _ | long _ | double _ | string _ | object _ _
      | resource | reference _ => exact .inr ⟨id, rfl⟩

theorem getVerdict_gated (args : GetArgs) :
    Gated (args.WellFormed engine policies)
      (fun verdict => ∃ request, verdict = .ok request)
      (getVerdict engine true policies (some args)) := by
  show Gated _ _ (policyOf _ >>= fun policy => _)
  unfold policyOf
  refine gated_if fun _ => ?_
  exact gated_present fun key _ => filterRequest_gated

/-- A `get` is refused when its arguments do not parse, or do not come to a
request although the object has a handle. -/
theorem getVerdict_failed_iff {hasClient : Bool} {args : Option GetArgs} :
    getVerdict engine hasClient policies args = .error .failed ↔
      ∀ given, args = some given →
        hasClient = true ∧ ¬ given.WellFormed engine policies := by
  cases args with
  | none =>
      have hnone : getVerdict engine hasClient policies none =
          .error .failed := rfl
      simp [hnone]
  | some args =>
      cases hasClient with
      | false =>
          have hcrash : getVerdict engine false policies (some args) =
              .error .crashed := rfl
          simp [hcrash]
      | true =>
          rcases @getVerdict_gated engine policies args with
            ⟨hformed, request, hsent⟩ | ⟨hformed, hfailed⟩
          · simp [hsent, hformed]
          · simp [hfailed, hformed]

theorem meets_refused_iff {outcome : Outcome} {verdict : Verdict Request}
    (hmeets : outcome.Meets SameRequests verdict) :
    outcome.Refused ↔ verdict = .error .failed := by
  cases verdict with
  | ok request =>
      have hsent := meets_sameRequests hmeets
      simp [Outcome.Refused, hsent]
  | error halt =>
      cases halt with
      | failed => exact ⟨fun _ => rfl, fun _ => hmeets⟩
      | crashed =>
          have hreply : outcome.reply = none := hmeets.1
          simp [Outcome.Refused, hreply]

/-- With a client that is not ready, a call is refused when it is not a `get`,
or is a `get` that stops by itself. -/
def Call.Stops (engine : Engine) (hasClient : Bool) (policies : Policies)
    (call : Call) : Prop :=
  ∀ args, call = .get (some args) →
    hasClient = true ∧ ¬ args.WellFormed engine policies

theorem call_refused_iff (hnot : ¬ client.Ready) (call : Call)
    (clientError : AsError) :
    (call.run engine client oracle policies clientError).Refused ↔
      call.Stops engine client.hasClient policies := by
  by_cases hget : ∃ args, call = .get args
  · obtain ⟨args, rfl⟩ := hget
    have hmeets := @get_meets engine client oracle policies args clientError
    refine ((meets_refused_iff hmeets).trans getVerdict_failed_iff).trans ?_
    simp [Call.Stops]
  · have := Fact.mk hnot
    have hfails := @call_fails_of_not_get engine client oracle this call
      fun args hcall => hget ⟨args, hcall⟩
    have hrefused := @refused_of_fails _ hfails policies clientError
    refine ⟨fun _ args hcall => absurd ⟨_, hcall⟩ hget, fun _ => hrefused⟩

end

/-! ## Objects that a run leaves without a connection -/

namespace Process

/-- The object is there, and not valid or not connected. -/
def Unready (p : Process) (id : ℕ) (object : AerospikeClient) : Prop :=
  p.objects id = some object ∧
    ¬ (object.isValid = true ∧ object.isConnected = true)

/-- The call is refused on the object, unless that is ready. -/
def Guards (p : Process) (id : ℕ) (engine : Engine) (oracle : Oracle)
    (policies : Policies) (clientError : AsError) (call : Call) : Prop :=
  ∀ object, p.Unready id object →
    (call.run engine object.flags oracle policies clientError).Refused

theorem not_ready_of_unready {p : Process} {id : ℕ} {object : AerospikeClient}
    (hunready : p.Unready id object) : ¬ object.flags.Ready :=
  fun hready => hunready.2 hready.2

/-- After any events, a call is refused on an object that is not ready exactly
when it stops by itself. -/
theorem guards_after_iff (events : List Event) (id : ℕ) (engine : Engine)
    (oracle : Oracle) (policies : Policies) (clientError : AsError)
    (call : Call) :
    (after events).Guards id engine oracle policies clientError call ↔
      ∀ object, (after events).Unready id object →
        call.Stops engine object.asClient.isSome policies :=
  forall₂_congr fun _ hunready =>
    call_refused_iff (not_ready_of_unready hunready) call clientError

/-- An object that connected and was closed. -/
def closedObject : List Event :=
  [.create 0, .construct 0 ⟨some default, false, true, true, true⟩, .close 0]

/-- `get` on the closed object still asks the cluster. -/
theorem closedObject_not_guards :
    ¬ (after closedObject).Guards 0 .plain .accepting default .init
      (.get (some ⟨[(.str "ns", .string "test"), (.str "set", .string "demo"),
        (.str "key", .long 1)], none, none⟩)) := by
  intro hguards
  have hunready : (after closedObject).Unready 0 ⟨some 0, true, false, false⟩ :=
    ⟨rfl, by simp⟩
  have hsent := (hguards _ hunready).2
  exact absurd hsent (by decide)

end Process

end AerospikePhp
