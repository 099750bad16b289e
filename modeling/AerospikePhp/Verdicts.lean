import AerospikePhp.Frames
import Mathlib.Tactic

/-!
# What a call comes to

For most methods the interesting part of a call is short: it is refused, it
crashes, or it sends one request.  A verdict says which of the three, without
error objects, texts and labels.  The rules below derive the verdict of a
method from the verdicts of its pieces, so that each method is shown to refine
a pure function from its arguments to a verdict.
-/

namespace AerospikePhp

open Procedure Method Proc

/-- How a call can end before it sends anything: with a failure that the
caller sees, or in a crash. -/
inductive Halt where
  | failed | crashed
  deriving DecidableEq, Repr

abbrev Verdict (α : Type) : Type := Except Halt α

def present {α : Type} : Option α → Verdict α
  | some value => .ok value
  | none => .error .failed

def ensure (condition : Prop) [Decidable condition] : Verdict Unit :=
  if condition then .ok () else .error .failed

def ifGiven {α : Type} (z : Option Zval) (verdict : Verdict α) :
    Verdict (Option α) :=
  match z with
  | some _ => do
      let value ← verdict
      .ok (some value)
  | none => .ok none

section

variable {α β : Type}

theorem verdict_bind_eq_ok {verdict : Verdict β} {next : β → Verdict α}
    {value : α} :
    (verdict >>= next) = .ok value ↔
      ∃ middle, verdict = .ok middle ∧ next middle = .ok value := by
  cases verdict with
  | ok middle => simp [bind, Except.bind]
  | error halt => simp [bind, Except.bind]

@[simp] theorem verdict_pure_eq_ok {value value' : α} :
    (pure value : Verdict α) = .ok value' ↔ value = value' := by
  simp [pure, Except.pure]

@[simp] theorem present_eq_ok {value : Option α} {v : α} :
    present value = .ok v ↔ value = some v := by
  cases value <;> simp [present]

@[simp] theorem ensure_eq_ok {condition : Prop} [Decidable condition]
    {u : Unit} : ensure condition = .ok u ↔ condition := by
  unfold ensure
  split <;> simp_all

theorem present_ne_crashed {value : Option α} :
    present value ≠ .error .crashed := by
  cases value <;> simp [present]

end

/-- A leaving of the method that amounts to this halt.  The label `CLEANUP`
counts only in the part of a method that is followed by it. -/
def Exit.Halts (inner : Bool) : Exit → CallState → Halt → Prop
  | .ret reply, _, .failed => reply.Failed
  | .cleanup, s, .failed => inner = true ∧ s.err.code ≠ .ok
  | .crash, _, .crashed => True
  | _, _, _ => False

/-- A condition on the error object and on the client's policies. -/
abbrev Assertion : Type := AsError → Policies → Prop

/-- The error object is clean and the policies are these. -/
def cleanWith (policies : Policies) : Assertion :=
  fun err ps => err = .init ∧ ps = policies

def clean : Assertion := fun err _ => err = .init

def anything : Assertion := fun _ _ => True

/-- The run halted in this way, with these requests. -/
def HaltsAt {α : Type} (inner : Bool) (requests : List Request) (halt : Halt)
    (result : Except Exit α × CallState) : Prop :=
  ∃ exit s', result = (.error exit, s') ∧ s'.requests = requests ∧
    exit.Halts inner s' halt

def YieldsAt {α : Type} (inner : Bool) (requests : List Request)
    (q : Assertion) :
    Verdict α → Except Exit α × CallState → Prop
  | .ok value, result => ∃ s', result = (.ok value, s') ∧
      s'.requests = requests ∧ q s'.err s'.policies
  | .error halt, result => HaltsAt inner requests halt result

def SendsAt {α : Type} (after : CallState → CallState → Prop) (inner : Bool)
    (requests : List Request) :
    Verdict Request → Except Exit α × CallState → Prop
  | .ok request, result =>
      ∃ sent, sent.requests = requests ++ [request] ∧ after sent result.2
  | .error halt, result => HaltsAt inner requests halt result

/-- From a state with `p`, the piece ends as the verdict says, with `q` where
it goes on, and sends nothing. -/
def Yields {α : Type} (inner : Bool) (p : Assertion) (body : Method α)
    (verdict : Verdict α) (q : Assertion) : Prop :=
  ∀ s, p s.err s.policies → YieldsAt inner s.requests q verdict (body.run s)

/-- From a state with `p`, the method halts without a request, or sends this
one and then does no more than `after` allows. -/
def Sends {α : Type} (after : CallState → CallState → Prop) (inner : Bool)
    (p : Assertion) (body : Method α) (verdict : Verdict Request) : Prop :=
  ∀ s, p s.err s.policies → SendsAt after inner s.requests verdict (body.run s)

/-- The call returned a failure and sent nothing. -/
def Outcome.Refused (outcome : Outcome) : Prop :=
  (∃ reply, outcome.reply = some reply ∧ reply.Failed) ∧
    outcome.state.requests = []

/-- The call came to what the verdict says. -/
def Outcome.Meets (after : CallState → CallState → Prop) (outcome : Outcome) :
    Verdict Request → Prop
  | .ok request => ∃ sent : CallState, sent.requests = [request] ∧
      after sent outcome.state
  | .error .failed => outcome.Refused
  | .error .crashed => outcome.reply = none ∧ outcome.state.requests = []

/-! ## Rules -/

section

variable {α β : Type} {inner : Bool} {p q r : Assertion}
variable {after : CallState → CallState → Prop}

theorem yields_pure (value : α) :
    Yields inner p (pure value : Method α) (.ok value) p :=
  fun s hs => ⟨s, rfl, rfl, hs⟩

theorem Yields.weaken {body : Method α} {verdict : Verdict α}
    (hbody : Yields inner p body verdict q)
    (hq : ∀ err policies, q err policies → r err policies) :
    Yields inner p body verdict r := by
  intro s hs
  have hrun := hbody s hs
  cases verdict with
  | ok value =>
      obtain ⟨s', hrun, hrequests, hs'⟩ := hrun
      exact ⟨s', hrun, hrequests, hq _ _ hs'⟩
  | error halt => exact hrun

theorem yields_bind {body : Method β} {next : β → Method α}
    {verdict : Verdict β} {verdicts : β → Verdict α}
    (hbody : Yields inner p body verdict q)
    (hnext : ∀ value, Yields inner q (next value) (verdicts value) r) :
    Yields inner p (body >>= next) (verdict >>= verdicts) r := by
  intro s hs
  have hrun := hbody s hs
  cases verdict with
  | ok value =>
      obtain ⟨s', hrun, hrequests, hs'⟩ := hrun
      have hrest := hnext value s' hs'
      rw [run_bind_ok hrun, ← hrequests]
      exact hrest
  | error halt =>
      obtain ⟨exit, s', hrun, hend⟩ := hrun
      exact ⟨exit, s', run_bind_error hrun, hend⟩

/-- A piece that always goes on does not show in the verdict. -/
theorem yields_seq {body : Method β} {value : β} {next : β → Method α}
    {verdict : Verdict α} (hbody : Yields inner p body (.ok value) q)
    (hnext : Yields inner q (next value) verdict r) :
    Yields inner p (body >>= next) verdict r := by
  intro s hs
  obtain ⟨s', hrun, hrequests, hs'⟩ := hbody s hs
  have hrest := hnext s' hs'
  rw [run_bind_ok hrun, ← hrequests]
  exact hrest

/-- The rest only runs with the value of the verdict. -/
theorem sends_bind_of_ok {body : Method β} {next : β → Method α}
    {verdict : Verdict β} {verdicts : β → Verdict Request}
    (hbody : Yields inner p body verdict q)
    (hnext : ∀ value, verdict = .ok value →
      Sends after inner q (next value) (verdicts value)) :
    Sends after inner p (body >>= next) (verdict >>= verdicts) := by
  intro s hs
  have hrun := hbody s hs
  cases verdict with
  | ok value =>
      obtain ⟨s', hrun, hrequests, hs'⟩ := hrun
      have hrest := hnext value rfl s' hs'
      rw [run_bind_ok hrun, ← hrequests]
      exact hrest
  | error halt =>
      obtain ⟨exit, s', hrun, hend⟩ := hrun
      exact ⟨exit, s', run_bind_error hrun, hend⟩

theorem sends_bind {body : Method β} {next : β → Method α}
    {verdict : Verdict β} {verdicts : β → Verdict Request}
    (hbody : Yields inner p body verdict q)
    (hnext : ∀ value, Sends after inner q (next value) (verdicts value)) :
    Sends after inner p (body >>= next) (verdict >>= verdicts) :=
  sends_bind_of_ok hbody fun value _ => hnext value

theorem sends_seq {body : Method β} {value : β} {next : β → Method α}
    {verdict : Verdict Request} (hbody : Yields inner p body (.ok value) q)
    (hnext : Sends after inner q (next value) verdict) :
    Sends after inner p (body >>= next) verdict := by
  intro s hs
  obtain ⟨s', hrun, hrequests, hs'⟩ := hbody s hs
  have hrest := hnext s' hs'
  rw [run_bind_ok hrun, ← hrequests]
  exact hrest

/-- The part after a request only has to do what is allowed after it. -/
theorem sends_issue {oracle : Oracle} {request : Request}
    {next : Answer → Method α} [hnext : ∀ answer, Moves after (next answer)] :
    Sends after inner p (issue oracle request >>= next) (.ok request) := by
  intro s _
  obtain ⟨answer, s', hrun, hrequests⟩ : ∃ answer s',
      (issue oracle request).run s = (.ok answer, s') ∧
        s'.requests = s.requests ++ [request] := ⟨_, _, rfl, rfl⟩
  rw [run_bind_ok hrun]
  exact ⟨s', hrequests, (hnext answer).moves s'⟩

/-- The code after `CLEANUP` returns a failure when the error object holds an
error. -/
def Reports (cleanup : Method Reply) : Prop :=
  ∀ s, s.err.code ≠ .ok → ∃ reply s', cleanup.run s = (.error (.ret reply), s') ∧
    s'.requests = s.requests ∧ reply.Failed

/-- A body that halts in the middle halts the method. -/
theorem withCleanup_halts {body : Method Unit} {cleanup : Method Reply}
    {requests : List Request} {halt : Halt} {s : CallState}
    (hbody : HaltsAt true requests halt (body.run s))
    (hreports : Reports cleanup) :
    HaltsAt inner requests halt ((withCleanup body cleanup).run s) := by
  obtain ⟨exit, s', hresult, hrequests, hhalts⟩ := hbody
  unfold withCleanup
  rw [run_bind, run_catchExit, hresult]
  cases exit with
  | cleanup =>
      cases halt with
      | crashed => exact hhalts.elim
      | failed =>
          obtain ⟨reply, s'', hend, hsame, hfailed⟩ := hreports s' hhalts.2
          exact ⟨.ret reply, s'', hend, hsame.trans hrequests, hfailed⟩
  | ret reply =>
      refine ⟨.ret reply, s', rfl, hrequests, ?_⟩
      cases halt with
      | crashed => exact hhalts
      | failed => exact hhalts
  | crash =>
      refine ⟨.crash, s', rfl, hrequests, ?_⟩
      cases halt with
      | crashed => exact hhalts
      | failed => exact hhalts

/-- A body that sends its request sends it, whatever the cleanup returns. -/
theorem sends_withCleanup_of_ok [IsTrans CallState after] {body : Method Unit}
    {cleanup : Method α} {request : Request}
    (hbody : Sends after true p body (.ok request))
    [hcleanup : Moves after cleanup] :
    Sends after inner p (withCleanup body cleanup) (.ok request) := by
  intro s hs
  have hrun := hbody s hs
  unfold withCleanup
  generalize hresult : body.run s = result at hrun
  obtain ⟨outcome, s'⟩ := result
  obtain ⟨sent, hsent, hafter⟩ := hrun
  rw [run_bind, run_catchExit, hresult]
  have hthrough : after sent (cleanup.run s').2 :=
    IsTrans.trans _ _ _ hafter (hcleanup.moves s')
  cases outcome with
  | ok _ => exact ⟨sent, hsent, hthrough⟩
  | error exit =>
      cases exit with
      | cleanup => exact ⟨sent, hsent, hthrough⟩
      | ret reply => exact ⟨sent, hsent, hafter⟩
      | crash => exact ⟨sent, hsent, hafter⟩

theorem sends_withCleanup [IsTrans CallState after] {body : Method Unit}
    {cleanup : Method Reply} {verdict : Verdict Request}
    (hbody : Sends after true p body verdict) (hreports : Reports cleanup)
    [hcleanup : Moves after cleanup] :
    Sends after inner p (withCleanup body cleanup) verdict := by
  cases verdict with
  | ok request => exact sends_withCleanup_of_ok hbody
  | error halt => exact fun s hs => withCleanup_halts (hbody s hs) hreports

theorem reports_cleanupErr : Reports cleanupErr := by
  intro s hs
  refine ⟨.long s.err.code, { s with clientError := s.err }, ?_, rfl, hs⟩
  have hreport : (runIf (s.err.code ≠ .ok) reportErr).run s =
      (.ok (), { s with clientError := s.err }) := by
    unfold runIf
    rw [if_pos hs]
    rfl
  unfold cleanupErr
  rw [run_bind_ok (run_get s), run_bind_ok hreport]
  rfl

theorem reports_returnErrCode : Reports returnErrCode :=
  fun s hs => ⟨.long s.err.code, s, rfl, rfl, hs⟩

/-- The verdict of a whole call. -/
theorem call_of_sends {method : Method Reply} {verdict : Verdict Request}
    {policies : Policies} (clientError : AsError)
    (hmethod : Sends after false (cleanWith policies) method verdict) :
    (method.call (.start policies clientError)).Meets after verdict := by
  have hrun := hmethod (.start policies clientError) ⟨rfl, rfl⟩
  unfold Method.call
  cases verdict with
  | ok request =>
      generalize method.run (.start policies clientError) = result at hrun ⊢
      obtain ⟨outcome, s'⟩ := result
      obtain ⟨sent, hsent, hafter⟩ := hrun
      cases outcome with
      | ok reply => exact ⟨sent, hsent, hafter⟩
      | error exit => cases exit <;> exact ⟨sent, hsent, hafter⟩
  | error halt =>
      obtain ⟨exit, s', hresult, hrequests, hhalts⟩ := hrun
      rw [hresult]
      cases halt with
      | failed =>
          cases exit with
          | ret reply => exact ⟨⟨reply, rfl, hhalts⟩, hrequests⟩
          | cleanup => exact absurd hhalts.1 (by simp)
          | crash => exact hhalts.elim
      | crashed =>
          cases exit with
          | ret reply => exact hhalts.elim
          | cleanup => exact hhalts.elim
          | crash => exact ⟨rfl, hrequests⟩

theorem meets_sameRequests {outcome : Outcome} {request : Request}
    (hmeets : outcome.Meets SameRequests (.ok request)) :
    outcome.state.requests = [request] := by
  obtain ⟨sent, hsent, hafter⟩ := hmeets
  exact hafter.trans hsent

/-! ## Statements -/

theorem runIf_pos {condition : Prop} [Decidable condition]
    {statement : Method Unit} (hcondition : condition) :
    runIf condition statement = statement := if_pos hcondition

theorem runIf_neg {condition : Prop} [Decidable condition]
    {statement : Method Unit} (hcondition : ¬ condition) :
    runIf condition statement = pure () := if_neg hcondition

/-- The piece ends the call with a failure. -/
class Fails (inner : Bool) (body : Method α) : Prop where
  yields : Yields inner anything body (.error .failed) anything

theorem yields_of_fails {body : Method α} [hfails : Fails inner body] :
    Yields inner p body (.error .failed) q :=
  fun s _ => hfails.yields s trivial

theorem fails_failReturn {code : AsStatus} {message : String}
    (hcode : code ≠ .ok) : Fails inner (failReturn code message : Method α) :=
  ⟨fun s _ => ⟨.ret (.long code), { s with clientError := ⟨code, message, false⟩ },
    rfl, rfl, hcode⟩⟩

instance (message : String) :
    Fails inner (failReturn .errParam message : Method α) :=
  fails_failReturn (by decide)

instance (message : String) :
    Fails inner (failReturn .errClient message : Method α) :=
  fails_failReturn (by decide)

instance : Fails inner (returnLong .errParam : Method α) :=
  ⟨fun s _ => ⟨.ret (.long .errParam), s, rfl, rfl, fun h => by cases h⟩⟩

theorem fails_failCleanup {code : AsStatus} {message : String}
    (hcode : code ≠ .ok) : Fails true (failCleanup code message : Method α) :=
  ⟨fun s _ => ⟨.cleanup, { s with err := s.err.update code message }, rfl, rfl,
    rfl, hcode⟩⟩

instance (message : String) :
    Fails true (failCleanup .errParam message : Method α) :=
  fails_failCleanup (by decide)

instance (message : String) :
    Fails true (failCleanup .errClient message : Method α) :=
  fails_failCleanup (by decide)

theorem fails_failCode {code : AsStatus} {message : String}
    (hcode : code ≠ .ok) : Fails true (failCode code message : Method α) :=
  ⟨fun _ _ => ⟨.cleanup, _, rfl, rfl, rfl, hcode⟩⟩

instance (message : String) :
    Fails true (failCode .errParam message : Method α) :=
  fails_failCode (by decide)

instance (message : String) :
    Fails true (failCode .errClient message : Method α) :=
  fails_failCode (by decide)

instance : Fails true invalidSerializer :=
  inferInstanceAs (Fails true (failCode .errParam _))

theorem yields_resetClientError : Yields inner p resetClientError (.ok ()) p :=
  fun _ hs => ⟨_, rfl, rfl, hs⟩

theorem yields_setOutput (z : Zval) : Yields inner p (setOutput z) (.ok ()) p :=
  fun _ hs => ⟨_, rfl, rfl, hs⟩

theorem yields_errorInit {policies : Policies} :
    Yields inner (cleanWith policies) errorInit (.ok ()) (cleanWith policies) :=
  fun _ hs => ⟨_, rfl, rfl, rfl, hs.2⟩

theorem yields_errorInit_any : Yields inner p errorInit (.ok ()) clean :=
  fun _ _ => ⟨_, rfl, rfl, rfl⟩

theorem yields_runIf_ok {condition : Prop} [Decidable condition]
    {statement : Method Unit} (hstatement : Yields inner p statement (.ok ()) p) :
    Yields inner p (runIf condition statement) (.ok ()) p := by
  unfold runIf
  split
  · exact hstatement
  · exact yields_pure ()

/-- A check: the call goes on when `good` holds. -/
theorem yields_check {good bad : Prop} [Decidable good] [Decidable bad]
    {failure : Method Unit} [Fails inner failure] (hgood : good ↔ ¬ bad) :
    Yields inner p (runIf bad failure) (ensure good) p := by
  unfold runIf ensure
  by_cases hbad : bad
  · rw [if_pos hbad, if_neg (by simpa [hgood] using hbad)]
    exact yields_of_fails
  · rw [if_neg hbad, if_pos (hgood.mpr hbad)]
    exact yields_pure ()

theorem yields_orFail {value : Option α} {failure : Method α}
    [hfails : Fails inner failure] :
    Yields inner p (orFail value failure) (present value) p := by
  cases value with
  | some v => exact yields_pure v
  | none => exact fun s _ => hfails.yields s trivial

theorem yields_whenGiven {z : Option Zval} {load : Method α}
    {verdict : Verdict α} (hload : Yields inner p load verdict q)
    (hq : ∀ err policies, p err policies → q err policies) :
    Yields inner p (whenGiven z load) (ifGiven z verdict) q := by
  cases z with
  | none => exact (yields_pure none).weaken hq
  | some z => exact yields_bind hload fun value => yields_pure (some value)

/-! ## Guards -/

section

variable {engine : Engine} {client : Client}

instance : Decidable client.Ready :=
  inferInstanceAs (Decidable (_ ∧ _))

theorem client_not_ready (hnot : ¬ client.Ready) :
    (client.hasClient = false ∨ client.isValid = false) ∨
      ((client.hasClient = true ∧ client.isValid = true) ∧
        client.isConnected = false) := by
  obtain ⟨hasClient, isValid, isConnected⟩ := client
  cases hasClient <;> cases isValid <;> cases isConnected <;>
    simp_all [Client.Ready]

theorem yields_validate {code : AsStatus} (hcode : code ≠ .ok)
    {invalid notConnected : String} :
    Yields inner p (validateClientAndConnection client code invalid notConnected)
      (ensure client.Ready) p := by
  unfold validateClientAndConnection ensure
  by_cases hready : client.Ready
  · obtain ⟨hhas, hvalid, hconnected⟩ := hready
    simp only [Client.Ready, hhas, hvalid, hconnected]
    exact yields_pure ()
  · rw [if_neg hready]
    rcases client_not_ready hready with hinvalid | ⟨hvalid, hconnected⟩
    · rw [if_pos hinvalid]
      exact yields_of_fails
    · rw [if_neg (by simp [hvalid]), if_pos hconnected]
      have := @fails_failReturn Unit inner _ notConnected hcode
      exact yields_of_fails

/-- The check function sets the error it returns, or nothing. -/
theorem checkObjectAndConnection_run (s : CallState) :
    (client.Ready ∧ (checkObjectAndConnection client).run s = (.ok .ok, s)) ∨
    (¬ client.Ready ∧ ∃ code message, code ≠ AsStatus.ok ∧
      (checkObjectAndConnection client).run s =
        (.ok code, { s with err := s.err.update code message })) := by
  unfold checkObjectAndConnection
  by_cases hready : client.Ready
  · have hready' := hready
    obtain ⟨hhas, hvalid, hconnected⟩ := hready'
    refine .inl ⟨hready, ?_⟩
    rw [if_neg (by simp [hhas, hvalid]), if_neg (by simp [hconnected])]
    rfl
  · refine .inr ⟨hready, ?_⟩
    rcases client_not_ready hready with hinvalid | ⟨hvalid, hconnected⟩
    · rw [if_pos hinvalid]
      exact ⟨.errClient, _, by decide, rfl⟩
    · rw [if_neg (by simp [hvalid]), if_pos hconnected]
      exact ⟨.errCluster, _, by decide, rfl⟩

theorem yields_requireConnection :
    Yields inner p (requireConnection client) (ensure client.Ready) p := by
  intro s hs
  unfold requireConnection ensure
  rcases @checkObjectAndConnection_run client s with
    ⟨hready, hrun⟩ | ⟨hready, code, message, hcode, hrun⟩
  · rw [if_pos hready, run_bind_ok hrun]
    exact ⟨s, rfl, rfl, hs⟩
  · rw [if_neg hready, run_bind_ok hrun]
    unfold runIf
    rw [if_pos hcode]
    exact ⟨.ret (.long code), _, rfl, rfl, hcode⟩

theorem yields_requireConnectionOrCleanup :
    Yields true p (requireConnectionOrCleanup client) (ensure client.Ready) p := by
  intro s hs
  unfold requireConnectionOrCleanup ensure
  rcases @checkObjectAndConnection_run client s with
    ⟨hready, hrun⟩ | ⟨hready, code, message, hcode, hrun⟩
  · rw [if_pos hready, run_bind_ok hrun]
    exact ⟨s, rfl, rfl, hs⟩
  · rw [if_neg hready, run_bind_ok hrun]
    unfold runIf
    rw [if_pos hcode]
    exact ⟨.cleanup, _, rfl, rfl, rfl, hcode⟩

/-! ## Arguments -/

theorem yields_convert {converter : AsError → Converted α} {err : AsError} :
    Yields inner (fun e _ => e = err) (convert converter) (.ok (converter err))
      (fun e _ => e = (converter err).err) := by
  rintro s rfl
  exact ⟨_, rfl, rfl, rfl⟩

theorem yields_cleanupOnError {err : AsError} :
    Yields true (fun e _ => e = err) cleanupOnError (ensure (err.code = .ok))
      (fun e _ => e = err) := by
  rintro s rfl
  unfold cleanupOnError ensure
  rw [run_bind_ok (run_get s)]
  by_cases herr : s.err.code = .ok
  · rw [runIf_neg (by simpa using herr), if_pos herr]
    exact ⟨s, rfl, rfl, rfl⟩
  · rw [runIf_pos herr, if_neg herr]
    exact ⟨.cleanup, s, rfl, rfl, rfl, herr⟩

theorem yields_requireKey {zKey : HashTable} {failure : Method AsKey}
    [hfails : Fails inner failure] :
    Yields inner p (requireKey engine zKey failure)
      (present (keyOf engine.keyInit zKey)) p := by
  intro s hs
  unfold requireKey
  cases hkey : keyOf engine.keyInit zKey with
  | some key =>
      have hconvert : (convert (zHashtableToAsKey engine.keyInit zKey)).run s =
          (.ok ⟨.ok, some key, s.err⟩, s) := by
        have hconverted := zHashtableToAsKey_of_some s.err hkey
        unfold convert
        rw [run_bind_ok (run_get s), hconverted]
        rfl
      rw [run_bind_ok hconvert]
      exact ⟨s, rfl, rfl, hs⟩
  | none =>
      have hstatus := (zHashtableToAsKey_of_none s.err hkey).1
      obtain ⟨s', hconvert, hrequests⟩ : ∃ s',
          (convert (zHashtableToAsKey engine.keyInit zKey)).run s =
            (.ok (zHashtableToAsKey engine.keyInit zKey s.err), s') ∧
          s'.requests = s.requests := ⟨_, rfl, rfl⟩
      rw [run_bind_ok hconvert, if_pos hstatus, ← hrequests]
      exact hfails.yields s' trivial

/-- The policy a converter makes of a default policy. -/
def policyOf {P : Type} (converted : ConvertedPolicy P) : Verdict P :=
  if converted.status = .ok then .ok converted.policy else .error .failed

/-- A policy that is read only when it is given. -/
theorem ifGiven_policyOf {P : Type} {z : Option Zval}
    {converted : ConvertedPolicy P} (hnone : z = none → converted.status = .ok) :
    ifGiven z (policyOf converted) =
      if converted.status = .ok then .ok (z.map fun _ => converted.policy)
      else .error .failed := by
  cases z with
  | none =>
      rw [if_pos (hnone rfl)]
      rfl
  | some z =>
      show (policyOf converted >>= fun value => .ok (some value)) = _
      unfold policyOf
      by_cases hstatus : converted.status = .ok
      · rw [if_pos hstatus, if_pos hstatus]
        rfl
      · rw [if_neg hstatus, if_neg hstatus]
        rfl

/-- The policy is read from the client's policies, whatever the error object
holds. -/
theorem yields_requirePolicy_any {P : Type} {field : PolicyField P}
    {converter : P → ConvertedPolicy P} {failure : Method Unit}
    [hfails : Fails inner failure] {policies : Policies} {E : AsError → Prop} :
    Yields inner (fun err ps => E err ∧ ps = policies)
      (requirePolicy field converter failure)
      (policyOf (converter (field.get policies))) (fun err _ => E err) := by
  rintro s ⟨herr, rfl⟩
  unfold requirePolicy policyOf
  obtain ⟨s', hload, hrequests, herr'⟩ : ∃ s', (loadPolicy field converter).run s =
      (.ok (converter (field.get s.policies)), s') ∧
      s'.requests = s.requests ∧ s'.err = s.err := ⟨_, rfl, rfl, rfl⟩
  rw [run_bind_ok hload]
  unfold runIf
  by_cases hstatus : (converter (field.get s.policies)).status = .ok
  · rw [if_pos hstatus, if_neg (by simpa using hstatus)]
    exact ⟨s', rfl, hrequests, herr' ▸ herr⟩
  · rw [if_neg hstatus, if_pos hstatus]
    obtain ⟨exit, s'', hrun, hsame, hhalts⟩ := hfails.yields s' trivial
    exact ⟨exit, s'', run_bind_error hrun, hsame.trans hrequests, hhalts⟩

theorem yields_requirePolicy {P : Type} {field : PolicyField P}
    {converter : P → ConvertedPolicy P} {failure : Method Unit}
    [Fails inner failure] {policies : Policies} :
    Yields inner (cleanWith policies) (requirePolicy field converter failure)
      (policyOf (converter (field.get policies))) clean :=
  @yields_requirePolicy_any inner P field converter failure _ policies
    fun err => err = .init

theorem yields_checked {good bad : Prop} [Decidable good] [Decidable bad]
    {failure : Method Unit} [Fails inner failure] (hgood : good ↔ ¬ bad)
    (value : α) :
    Yields inner p
      (do
        runIf bad failure
        pure value)
      (if good then .ok value else .error .failed) p := by
  have hcheck : Yields inner p (runIf bad failure >>= fun _ => pure value)
      (ensure good >>= fun _ => .ok value) p :=
    yields_bind (yields_check hgood) fun _ => yields_pure value
  unfold ensure at hcheck
  by_cases hg : good
  · rw [if_pos hg] at hcheck ⊢
    exact hcheck
  · rw [if_neg hg] at hcheck ⊢
    exact hcheck

/-- The generation and the ttl that an options array asks for. -/
def generationOf (zPolicy : Option Zval) : Verdict ℕ :=
  if (setOperationsGenerationFromOperatePolicy zPolicy 0).1 = .ok then
    .ok (setOperationsGenerationFromOperatePolicy zPolicy 0).2
  else .error .failed

def ttlOf (zPolicy : Option Zval) : Verdict ℕ :=
  if (setOperationsTtlFromOperatePolicy zPolicy 0).1 = .ok then
    .ok (setOperationsTtlFromOperatePolicy zPolicy 0).2
  else .error .failed

theorem yields_requireGeneration {zPolicy : Option Zval}
    {failure : Method Unit} [Fails inner failure] :
    Yields inner p (requireGeneration zPolicy failure) (generationOf zPolicy) p :=
  yields_checked not_not.symm _

theorem yields_requireTtl {zPolicy : Option Zval}
    {failure : Method Unit} [Fails inner failure] :
    Yields inner p (requireTtl zPolicy failure) (ttlOf zPolicy) p :=
  yields_checked not_not.symm _

/-- The serializer, where its option is well formed. -/
def serializerOf (engine : Engine) (zPolicy : Option Zval) :
    Verdict SerializerType :=
  if (setSerializerFromPolicyHash engine.iniSerializer
      (toInt32 engine.iniSerializer) zPolicy).1 = .ok then
    .ok (callSerializer engine zPolicy)
  else .error .failed

theorem yields_requireSerializer {zPolicy : Option Zval}
    {failure : Method Unit} [Fails inner failure] :
    Yields inner p (requireSerializer engine zPolicy failure)
      (serializerOf engine zPolicy) p :=
  yields_checked not_not.symm _

end

end

/-! ## Conditions for a verdict -/

section

variable {α β : Type} {good rest : Prop} {P : Verdict α → Prop}

/-- The verdict has the property `P` when the condition holds, and is a failure
when it does not. -/
def Gated (condition : Prop) (P : Verdict α → Prop) (verdict : Verdict α) :
    Prop :=
  (condition ∧ P verdict) ∨ (¬ condition ∧ verdict = .error .failed)

theorem gated_of_true {verdict : Verdict α} (hgood : good)
    (hverdict : P verdict) : Gated good P verdict :=
  .inl ⟨hgood, hverdict⟩

theorem gated_if [Decidable good] {value : β} {next : β → Verdict α}
    (hnext : good → Gated rest P (next value)) :
    Gated (good ∧ rest) P
      ((if good then .ok value else .error .failed) >>= next) := by
  by_cases hgood : good
  · rw [if_pos hgood]
    rcases hnext hgood with ⟨hrest, hverdict⟩ | ⟨hrest, hverdict⟩
    · exact .inl ⟨⟨hgood, hrest⟩, hverdict⟩
    · exact .inr ⟨fun h => hrest h.2, hverdict⟩
  · rw [if_neg hgood]
    exact .inr ⟨fun h => hgood h.1, rfl⟩

theorem gated_ensure [Decidable good] {next : Unit → Verdict α}
    (hnext : good → Gated rest P (next ())) :
    Gated (good ∧ rest) P (ensure good >>= next) := gated_if hnext

theorem gated_present {value : Option β} {next : β → Verdict α}
    (hnext : ∀ v, value = some v → Gated rest P (next v)) :
    Gated (value.isSome ∧ rest) P (present value >>= next) := by
  cases value with
  | none => exact .inr ⟨fun h => by simp at h, rfl⟩
  | some v =>
      rcases hnext v rfl with ⟨hrest, hverdict⟩ | ⟨hrest, hverdict⟩
      · exact .inl ⟨⟨rfl, hrest⟩, hverdict⟩
      · exact .inr ⟨fun h => hrest h.2, hverdict⟩

/-- A check whose value the rest depends on. -/
theorem gated_some {value : Option β} {rest : β → Prop} {next : β → Verdict α}
    (hnext : ∀ v, value = some v → Gated (rest v) P (next v)) :
    Gated (∃ v, value = some v ∧ rest v) P (present value >>= next) := by
  cases value with
  | none => exact .inr ⟨by simp, rfl⟩
  | some v =>
      rcases hnext v rfl with ⟨hrest, hverdict⟩ | ⟨hrest, hverdict⟩
      · exact .inl ⟨⟨v, rfl, hrest⟩, hverdict⟩
      · refine .inr ⟨?_, hverdict⟩
        rintro ⟨v', hv, hrest'⟩
        obtain rfl := Option.some.inj hv
        exact hrest hrest'

theorem gated_verdict {verdict : Verdict β} {next : β → Verdict α}
    (hnot : verdict ≠ .error .crashed)
    (hnext : ∀ v, verdict = .ok v → Gated rest P (next v)) :
    Gated ((∃ v, verdict = .ok v) ∧ rest) P (verdict >>= next) := by
  cases verdict with
  | ok v =>
      rcases hnext v rfl with ⟨hrest, hverdict⟩ | ⟨hrest, hverdict⟩
      · exact .inl ⟨⟨⟨v, rfl⟩, hrest⟩, hverdict⟩
      · exact .inr ⟨fun h => hrest h.2, hverdict⟩
  | error halt =>
      cases halt with
      | failed => exact .inr ⟨fun h => by simp at h, rfl⟩
      | crashed => exact absurd rfl hnot

/-- The last check. -/
theorem gated_and_true {verdict : Verdict α}
    (hgated : Gated (good ∧ True) P verdict) : Gated good P verdict := by
  rwa [and_true] at hgated

theorem gated_congr {condition condition' : Prop} {verdict : Verdict α}
    (hgated : Gated condition P verdict) (hiff : condition ↔ condition') :
    Gated condition' P verdict := by
  obtain rfl := propext hiff
  exact hgated

end

end AerospikePhp
