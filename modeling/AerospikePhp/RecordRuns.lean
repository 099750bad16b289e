import AerospikePhp.RecordServer
import AerospikePhp.ConnectionGuard
import Mathlib.Tactic

/-!
# Runs of the methods on whole records

How a call of `put`, `get`, `exists` or `remove` goes on from the answer to its
request.
-/

namespace AerospikePhp

set_option synthInstance.maxSize 1024

open Procedure Method Proc

section

variable (engine : Engine) (client : Client) (policies : Policies)

def existsVerdict (args : ExistsArgs) : Verdict Request := do
  ensure client.Ready
  let key ← present (keyOf engine.keyInit args.key)
  let policy ← policyOf
    (zvalToAsPolicyRead engine.init.read args.policy policies.read)
  .ok (.keyExists policy key)

end

section

variable {engine : Engine} {client : Client} {oracle : Oracle}
variable {policies : Policies} {p : Assertion}

theorem delivers_issue {request : Request} {rest : Answer → Method Reply} :
    Delivers oracle p rest (do
      let answer ← issue oracle request
      rest answer) (.ok request) :=
  fun s _ hblank => ⟨{ s with
    requests := s.requests ++ [request]
    err := (oracle.answer s.requests.length request).err }, hblank, rfl, rfl⟩

theorem delivers_issueCleanup {request : Request}
    {useResult : Answer → Method Unit} {cleanup : Method Reply} :
    Delivers oracle p (fun answer => withCleanup (useResult answer) cleanup)
      (withCleanup (do
        let answer ← issue oracle request
        useResult answer) cleanup) (.ok request) := by
  intro s _ hblank
  have hissue : (issue oracle request).run s = _ := rfl
  exact ⟨{ s with
    requests := s.requests ++ [request]
    err := (oracle.answer s.requests.length request).err }, hblank, rfl,
    withCleanup_bind_ok hissue⟩

instance (options : Option Zval) :
    Moves KeepsBlank (requireRemovePolicy engine options) := by
  unfold requireRemovePolicy
  infer_instance

/-! ## put -/

/-- The part of `put` that makes the request. -/
def putRequest (bins : HashTable) (ttl : Option Int64) (args : PutArgs) :
    Method Request := do
  let policy ← whenGiven args.policy
    (requirePolicy writeField
      (zvalToAsPolicyWrite engine.init.write args.policy)
      (failCleanup .errParam "Invalid policy"))
  let key ← requireKey engine args.key (failCleanup .errParam "Invalid Key")
  let serializer ← requireSerializer engine args.policy
    (failCleanup .errParam "Invalid serializer value")
  let converted ← convert (zHashtableToAsRecord engine.rt serializer bins)
  runIf (converted.status ≠ .ok) gotoCleanup
  let record ← orFail converted.val crash
  let record ← (do
    runIf ((setRecordGeneration args.policy (recordWithTtl record ttl)).1 ≠ .ok) do
      setErr .errParam "generation policy"
      returnLong .errParam
    pure (setRecordGeneration args.policy (recordWithTtl record ttl)).2)
  pure (.keyPut policy key record)

theorem putBody_eq (bins : HashTable) (ttl : Option Int64) (args : PutArgs) :
    putBody engine oracle bins ttl args = (do
      let request ← @putRequest engine bins ttl args
      let _ ← issue oracle request) := by
  unfold putBody putRequest requireSerializer
  simp only [Proc.bind_assoc, Proc.pure_bind]

instance (bins : HashTable) (ttl : Option Int64) (args : PutArgs) :
    Moves KeepsBlank (@putRequest engine bins ttl args) := by
  unfold putRequest
  infer_instance

def putRequestVerdict (engine : Engine) (policies : Policies) (bins : HashTable)
    (ttl : Option Int64) (args : PutArgs) : Verdict Request := do
  let policy ← ifGiven args.policy
    (policyOf (zvalToAsPolicyWrite engine.init.write args.policy policies.write))
  let key ← present (keyOf engine.keyInit args.key)
  let serializer ← serializerOf engine args.policy
  let record ← recordOf engine serializer bins
  let record ← recordWithGeneration args.policy (recordWithTtl record ttl)
  .ok (.keyPut policy key record)

theorem yields_putRequest (bins : HashTable) (ttl : Option Int64)
    (args : PutArgs) :
    Yields true (cleanWith policies) (@putRequest engine bins ttl args)
      (putRequestVerdict engine policies bins ttl args) anything := by
  unfold putRequest putRequestVerdict
  refine yields_bind (yields_whenGiven yields_requirePolicy
    fun _ _ => And.left) fun policy => ?_
  refine yields_bind yields_requireKey fun key => ?_
  refine yields_bind yields_requireSerializer fun serializer => ?_
  have hrest := yields_bind (@yields_requireRecord engine serializer bins crash)
    fun record => yields_bind (@yields_recordGeneration true anything args.policy
      (recordWithTtl record ttl) (do
        setErr .errParam "generation policy"
        returnLong .errParam) _)
      fun record => yields_pure (Request.keyPut policy key record)
  simp only [bind_assoc] at hrest ⊢
  exact hrest

theorem put_delivers (args : PutArgs) :
    Delivers oracle (cleanWith policies)
      (fun _ => withCleanup (pure ()) cleanupErr)
      (put engine client oracle (some args))
      (putVerdict engine client policies args) := by
  unfold put putVerdict
  refine delivers_seq yields_resetClientError ?_
  refine delivers_bind yields_requireConnection fun _ => ?_
  refine delivers_seq (yields_pure args) ?_
  refine delivers_bind yields_orFail fun ttl => ?_
  refine delivers_bind yields_orFail fun bins => ?_
  refine delivers_bind (yields_check Iff.rfl) fun _ => ?_
  rw [putBody_eq]
  exact delivers_withCleanup (yields_putRequest bins ttl args) reports_cleanupErr

theorem remove_delivers (args : RemoveArgs) :
    Delivers oracle (cleanWith policies) returnAnswer
      (remove engine client oracle (some args))
      (removeVerdict engine client policies args) := by
  unfold remove removeVerdict
  refine delivers_seq yields_resetClientError ?_
  refine delivers_bind yields_requireConnection fun _ => ?_
  refine delivers_seq (yields_pure args) ?_
  refine delivers_bind yields_requireRemovePolicy fun policy => ?_
  refine delivers_seq yields_errorInit_any ?_
  exact delivers_bind yields_requireKey fun key => delivers_issue

/-- `exists` after its request. -/
def useExisting (answer : Answer) : Method Reply := do
  forSome answer.record fun record => setOutput (asRecordToZMetadata record)
  let s ← Proc.get
  runIf (s.err.code ≠ .ok) do
    reportErr
    setOutput .null
  returnErrCode

theorem exists_delivers (args : ExistsArgs) :
    Delivers oracle (cleanWith policies) useExisting
      (AerospikePhp.exists engine client oracle (some args))
      (existsVerdict engine client policies args) := by
  unfold AerospikePhp.exists existsVerdict
  refine delivers_seq yields_resetClientError ?_
  refine delivers_bind yields_requireConnection fun _ => ?_
  refine delivers_seq (yields_pure args) ?_
  refine delivers_seq yields_errorInit ?_
  refine delivers_bind yields_requireKey fun key => ?_
  refine delivers_seq (yields_setOutput _) ?_
  exact delivers_bind yields_requirePolicy fun policy => delivers_issue

theorem exists_sends (args : ExistsArgs) :
    Sends SameRequests false (cleanWith policies)
      (AerospikePhp.exists engine client oracle (some args))
      (existsVerdict engine client policies args) := by
  unfold AerospikePhp.exists existsVerdict
  refine sends_seq yields_resetClientError ?_
  refine sends_bind yields_requireConnection fun _ => ?_
  refine sends_seq (yields_pure args) ?_
  refine sends_seq yields_errorInit ?_
  refine sends_bind yields_requireKey fun key => ?_
  refine sends_seq (yields_setOutput _) ?_
  exact sends_bind yields_requirePolicy fun policy => sends_issue

/-! ## get -/

/-- `get` after its request. -/
def useGot (engine : Engine) (policy : PolicyRead) (key : AsKey)
    (answer : Answer) : Method Unit := do
  cleanupOnError
  let record ← orFail answer.record crash
  let _ ← writeOutput (asRecordToZval engine.rt record (engine.digested key)
    (policy.key = policyKeySend))

/-- `get` of an object that is ready. -/
theorem get_delivers {args : GetArgs} {policy : PolicyRead} {key : AsKey}
    {request : Request} (hready : client.Ready)
    (hpolicy : policyOf (zvalToAsPolicyRead engine.init.read args.policy
      policies.read) = .ok policy)
    (hkey : keyOf engine.keyInit args.key = some key)
    (hrequest : filterRequest policy key args.filter = some request) :
    Delivers oracle (cleanWith policies)
      (fun answer => withCleanup (useGot engine policy key answer) getCleanup)
      (get engine client oracle (some args)) (.ok request) := by
  have hguard : Yields false (cleanWith policies)
      (checkObjectAndConnection client) (.ok .ok) (cleanWith policies) := by
    intro s hs
    rcases @checkObjectAndConnection_run client s with ⟨-, hrun⟩ | ⟨hnot, -⟩
    · exact ⟨s, hrun, rfl, hs⟩
    · exact absurd hready hnot
  have hread : Yields false (cleanWith policies) (requirePolicy readField
      (zvalToAsPolicyRead engine.init.read args.policy)
      (failReturn .errParam "Invalid read read_policy")) (.ok policy) clean := by
    rw [← hpolicy]
    exact yields_requirePolicy
  have hconvert : Yields false clean (requireKey engine args.key
      (failReturn .errParam "Invalid key")) (.ok key) clean := by
    have hyields : Yields false clean (requireKey engine args.key
      (failReturn .errParam "Invalid key")) _ clean := yields_requireKey
    rw [hkey] at hyields
    exact hyields
  have hbody : getBody engine oracle policy key args.filter = (do
      let answer ← issue oracle request
      useGot engine policy key answer) := by
    unfold getBody
    rw [readWithFilter_of_request hrequest]
    rfl
  unfold get
  refine delivers_seq yields_resetClientError ?_
  refine delivers_seq hguard ?_
  refine delivers_seq (yields_pure ()) ?_
  refine delivers_seq (yields_pure args) ?_
  refine delivers_seq (yields_setOutput _) ?_
  rw [runIf_neg (by simp [hready.1])]
  refine delivers_seq (yields_pure ()) ?_
  refine delivers_seq hread ?_
  refine delivers_seq hconvert ?_
  rw [hbody]
  exact delivers_issueCleanup

/-! ## Whole calls -/

/-- The call returned the code, after it sent this request and no other. -/
def Outcome.Relays (outcome : Outcome) (request : Request) (code : AsStatus) :
    Prop :=
  outcome.reply = some (.long code) ∧ outcome.state.requests = [request]

theorem Delivers.call {method : Method Reply} {rest : Answer → Method Reply}
    {request : Request}
    (hdelivers : Delivers oracle (cleanWith policies) rest method (.ok request))
    (clientError : AsError) :
    ∃ s', Blank s'.output ∧ s'.err = (oracle.answer 0 request).err ∧
      method.call (.start policies clientError) =
        (rest (oracle.answer 0 request)).call s' := by
  obtain ⟨s', hblank, herr, hrun⟩ := hdelivers (.start policies clientError)
    ⟨rfl, rfl⟩ (.inl rfl)
  exact ⟨s', hblank, herr, call_of_run_eq hrun⟩

theorem put_relays {args : PutArgs} {request : Request}
    (hverdict : putVerdict engine client policies args = .ok request)
    (clientError : AsError) :
    ((put engine client oracle (some args)).call
      (.start policies clientError)).Relays request
        (oracle.answer 0 request).err.code := by
  have hdelivers := @put_delivers engine client oracle policies args
  have hsends := call_of_sends clientError
    (@put_sends engine client oracle policies args)
  rw [hverdict] at hdelivers hsends
  obtain ⟨s', -, herr, hcall⟩ := hdelivers.call clientError
  have hend := call_withCleanupErr (rfl : (pure () : Method Unit).run s' = _)
    (.inl rfl)
  refine ⟨?_, meets_sameRequests hsends⟩
  rw [hcall, hend.1, herr]

theorem remove_relays {args : RemoveArgs} {request : Request}
    (hverdict : removeVerdict engine client policies args = .ok request)
    (clientError : AsError) :
    ((remove engine client oracle (some args)).call
      (.start policies clientError)).Relays request
        (oracle.answer 0 request).err.code := by
  have hdelivers := @remove_delivers engine client oracle policies args
  have hsends := call_of_sends clientError
    (@remove_sends engine client oracle policies args)
  rw [hverdict] at hdelivers hsends
  obtain ⟨s', -, herr, hcall⟩ := hdelivers.call clientError
  have hend : ∃ s'', (returnAnswer (oracle.answer 0 request)).run s' =
      (.error (.ret (.long (oracle.answer 0 request).err.code)), s'') := by
    unfold returnAnswer runIf
    rw [run_bind_ok (run_get s')]
    split <;> exact ⟨_, rfl⟩
  obtain ⟨s'', hend⟩ := hend
  refine ⟨?_, meets_sameRequests hsends⟩
  rw [hcall]
  unfold Method.call
  rw [hend]

theorem useExisting_run (answer : Answer) (s : CallState) :
    ∃ s', (useExisting answer).run s = (.error (.ret (.long s.err.code)), s') ∧
      ∀ record, s.err.code = .ok → answer.record = some record →
        s'.output = some (asRecordToZMetadata record) := by
  have hset : (forSome answer.record fun record =>
      setOutput (asRecordToZMetadata record)).run s = (.ok (), { s with
        output := answer.record.map asRecordToZMetadata <|> s.output }) := by
    cases answer.record <;> rfl
  unfold useExisting
  rw [run_bind_ok hset, run_bind_ok (run_get _)]
  by_cases hcode : s.err.code = .ok
  · rw [runIf_neg (not_not.mpr hcode)]
    refine ⟨_, rfl, fun record _ hrecord => ?_⟩
    simp [hrecord]
  · rw [runIf_pos hcode]
    exact ⟨_, rfl, fun _ hok => absurd hok hcode⟩

theorem call_eq_of_run {method : Method Reply} {s s' : CallState} {reply : Reply}
    (hrun : method.run s = (.error (.ret reply), s')) :
    method.call s = ⟨some reply, s'⟩ := by
  unfold Method.call
  rw [hrun]

/-- The metadata of the record is left in the output when the answer is OK. -/
theorem exists_relays {args : ExistsArgs} {request : Request}
    (hverdict : existsVerdict engine client policies args = .ok request)
    (clientError : AsError) :
    let outcome := (AerospikePhp.exists engine client oracle (some args)).call
      (.start policies clientError)
    outcome.Relays request (oracle.answer 0 request).err.code ∧
      ∀ record, (oracle.answer 0 request).err.code = .ok →
        (oracle.answer 0 request).record = some record →
          outcome.state.output = some (asRecordToZMetadata record) := by
  intro outcome
  have hdelivers := @exists_delivers engine client oracle policies args
  have hsends := call_of_sends clientError
    (@exists_sends engine client oracle policies args)
  rw [hverdict] at hdelivers hsends
  obtain ⟨s', -, herr, hcall⟩ := hdelivers.call clientError
  obtain ⟨s'', hrun, houtput⟩ := useExisting_run (oracle.answer 0 request) s'
  have houtcome : outcome = ⟨some (.long s'.err.code), s''⟩ :=
    hcall.trans (call_eq_of_run hrun)
  refine ⟨⟨?_, meets_sameRequests hsends⟩, ?_⟩
  · rw [houtcome, herr]
  · rw [houtcome]
    exact fun record hcode => houtput record (by rw [herr, hcode])

theorem getCleanup_run (s : CallState) :
    ∃ s', getCleanup.run s = (.error (.ret (.long s.err.code)), s') ∧
      (s.err.code = .ok → s'.output = s.output) := by
  unfold getCleanup
  rw [run_bind_ok (run_get s)]
  by_cases hcode : s.err.code = .ok
  · rw [runIf_neg (not_not.mpr hcode)]
    exact ⟨s, rfl, fun _ => rfl⟩
  · rw [runIf_pos hcode]
    exact ⟨_, rfl, fun hok => absurd hok hcode⟩

/-- What a `get` comes to that is ready and gets to its request. -/
theorem get_relays {args : GetArgs} {policy : PolicyRead} {key : AsKey}
    {request : Request} (hready : client.Ready)
    (hpolicy : policyOf (zvalToAsPolicyRead engine.init.read args.policy
      policies.read) = .ok policy)
    (hkey : keyOf engine.keyInit args.key = some key)
    (hrequest : filterRequest policy key args.filter = some request)
    (clientError : AsError) :
    let outcome := (get engine client oracle (some args)).call
      (.start policies clientError)
    ((oracle.answer 0 request).err.code ≠ .ok →
      outcome.Relays request (oracle.answer 0 request).err.code) ∧
    ∀ record z, (oracle.answer 0 request).err.code = .ok →
      (oracle.answer 0 request).record = some record →
      recordZval engine.rt record (engine.digested key)
        (policy.key = policyKeySend) = some z →
      outcome.Relays request .ok ∧ outcome.state.output = some z := by
  intro outcome
  have hdelivers := @get_delivers engine client oracle policies args policy key
    request hready hpolicy hkey hrequest
  have hverdict : getVerdict engine client.hasClient policies (some args) =
      .ok request := by
    unfold getVerdict
    rw [hready.1]
    simp [present, hpolicy, hkey, hrequest, bind, Except.bind]
  have hmeets := @get_meets engine client oracle policies (some args) clientError
  rw [hverdict] at hmeets
  have hrequests : outcome.state.requests = [request] := meets_sameRequests hmeets
  obtain ⟨s', -, herr, hcall⟩ := hdelivers.call clientError
  constructor
  · intro hcode
    have hfailed : s'.err.code ≠ .ok := by rwa [herr]
    have hbody : (useGot engine policy key (oracle.answer 0 request)).run s' =
        (.error .cleanup, s') := run_bind_error (cleanupOnError_run_error hfailed)
    obtain ⟨s'', hcleanup, -⟩ := getCleanup_run s'
    have hrun : (withCleanup (useGot engine policy key (oracle.answer 0 request))
        getCleanup).run s' = (.error (.ret (.long s'.err.code)), s'') := by
      unfold withCleanup
      rw [run_bind, run_catchExit, hbody]
      exact hcleanup
    refine ⟨?_, hrequests⟩
    rw [show outcome = _ from hcall.trans (call_eq_of_run hrun), herr]
  · intro record z hcode hrecord hz
    have hok : s'.err.code = .ok := by rw [herr, hcode]
    have hdecodes := asRecordToZval_decodes engine.rt record (engine.digested key)
      (policy.key = policyKeySend) hok
    rw [hz] at hdecodes
    have hwrite := writeOutput_run (asRecordToZval engine.rt record
      (engine.digested key) (policy.key = policyKeySend)) s'
    rw [show asRecordToZval _ _ _ _ _ = _ from hdecodes] at hwrite
    have hbody : (useGot engine policy key (oracle.answer 0 request)).run s' =
        (.ok (), { s' with output := some z }) := by
      unfold useGot
      rw [run_bind_ok (cleanupOnError_run_ok hok), hrecord]
      exact run_bind_ok hwrite
    obtain ⟨s'', hcleanup, houtput⟩ := getCleanup_run { s' with output := some z }
    have hrun : (withCleanup (useGot engine policy key (oracle.answer 0 request))
        getCleanup).run s' = (.error (.ret (.long s'.err.code)), s'') := by
      unfold withCleanup
      rw [run_bind, run_catchExit, hbody]
      exact hcleanup
    have houtcome : outcome = ⟨some (.long s'.err.code), s''⟩ :=
      hcall.trans (call_eq_of_run hrun)
    refine ⟨⟨?_, hrequests⟩, ?_⟩
    · rw [houtcome, hok]
    · rw [houtcome]
      exact houtput hok

end

end AerospikePhp
