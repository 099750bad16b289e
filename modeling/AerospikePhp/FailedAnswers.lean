import AerospikePhp.PolicyFrames
import AerospikePhp.Calls
import AerospikePhp.ListRequests
import Mathlib.Tactic

/-!
# Failed answers

A request that fails is the last one of its call, and its error is the one
that the call leaves on the client.  The rules below follow the error from the
answer to the way out of the method, through whatever `CLEANUP` the method
has.
-/

namespace AerospikePhp

open Procedure Method Proc

-- a method body is one instance problem with a premise for every statement
set_option synthInstance.maxSize 200000

/-! ## Where the error of an answer is -/

/-- The requests so far were answered with success. -/
def AllServed (oracle : Oracle) (requests : List Request) : Prop :=
  ∀ i request, requests[i]? = some request →
    (oracle.answer i request).err.code = .ok

def CallState.Served (oracle : Oracle) (s : CallState) : Prop :=
  AllServed oracle s.requests

/-- Only the last request failed, and the error object holds its error. -/
structure CallState.Denied (oracle : Oracle) (s : CallState) : Prop where
  last : ∃ sent request, s.requests = sent ++ [request] ∧
    AllServed oracle sent ∧ (oracle.answer sent.length request).err = s.err
  failed : s.err.code ≠ .ok

def CallState.Answered (oracle : Oracle) (s : CallState) : Prop :=
  s.Served oracle ∨ s.Denied oracle

/-- The error of a failed request is reported. -/
def CallState.Reported (oracle : Oracle) (s : CallState) : Prop :=
  s.Served oracle ∨ s.Denied oracle ∧ s.clientError = s.err

/-- The reply is the code, or the null of a method that answers all failures with
it. -/
def Reply.Carries (nulls : Prop) (code : AsStatus) : Reply → Prop
  | .long status => ¬ nulls ∧ status = code
  | .null => nulls
  | .value _ => False

/-- The method answers every failure with null. -/
def Call.Nulls : Call → Prop
  | .infoMany _ => True
  | _ => False

/-- On the way out a failed request is reported and returned; at the label
`CLEANUP` the state meets `C`. -/
def Exit.Relays (oracle : Oracle) (nulls : Prop) (C : CallState → Prop) :
    Exit → CallState → Prop
  | .ret reply, s => s.Served oracle ∨
      s.Denied oracle ∧ s.clientError = s.err ∧ reply.Carries nulls s.err.code
  | .cleanup, s => C s
  | .crash, s => s.Served oracle

/-- The call ended with its request number `i`: it returned the code of that
error, or the null of its method, and left the error on the client. -/
structure Outcome.EndsWith (outcome : Outcome) (nulls : Prop) (i : ℕ)
    (err : AsError) : Prop where
  last : i + 1 = outcome.state.requests.length
  returned : ∃ reply, outcome.reply = some reply ∧ reply.Carries nulls err.code
  left : outcome.state.clientError = err

/-- A failed answer has nothing for a callback: the keys of a batch come in one
piece, and no value was streamed. -/
class Oracle.FailsSilently (oracle : Oracle) : Prop where
  silent : ∀ sent request, (oracle.answer sent request).err.code ≠ .ok →
    (oracle.answer sent request).delivers = false ∧
      (oracle.answer sent request).stream = []

section

variable {oracle : Oracle}

theorem allServed_append {sent : List Request} {request : Request}
    (hsent : AllServed oracle sent)
    (hlast : (oracle.answer sent.length request).err.code = .ok) :
    AllServed oracle (sent ++ [request]) := by
  intro i request' hrequest'
  by_cases hi : i < sent.length
  · rw [List.getElem?_append_left hi] at hrequest'
    exact hsent i request' hrequest'
  · rw [List.getElem?_append_right (by omega)] at hrequest'
    obtain ⟨hzero, rfl⟩ : i - sent.length = 0 ∧ request' = request := by
      cases hdiff : i - sent.length with
      | zero =>
          rw [hdiff] at hrequest'
          exact ⟨rfl, (Option.some.inj hrequest').symm⟩
      | succ k =>
          rw [hdiff] at hrequest'
          simp at hrequest'
    obtain rfl : i = sent.length := by omega
    exact hlast

/-- The failed request is the last one, and the error object is its error. -/
theorem last_of_denied {s : CallState} {i : ℕ} {request : Request}
    (hs : s.Denied oracle) (hsent : s.requests[i]? = some request)
    (hfailed : (oracle.answer i request).err.code ≠ .ok) :
    i + 1 = s.requests.length ∧ (oracle.answer i request).err = s.err := by
  obtain ⟨sent, last, hrequests, hserved, hanswer⟩ := hs.last
  rw [hrequests] at hsent ⊢
  have hnot : ¬ i < sent.length := by
    intro hi
    rw [List.getElem?_append_left hi] at hsent
    exact hfailed (hserved i request hsent)
  have hi : i < (sent ++ [last]).length := (List.getElem?_eq_some_iff.mp hsent).1
  have hlength : (sent ++ [last]).length = sent.length + 1 := by simp
  obtain rfl : i = sent.length := by omega
  rw [List.getElem?_concat_length] at hsent
  obtain rfl := Option.some.inj hsent
  exact ⟨hlength.symm, hanswer⟩

/-- What a request makes of a call whose requests all succeeded. -/
theorem answered_issue {s : CallState} (request : Request)
    (hs : s.Served oracle) :
    CallState.Answered oracle { s with
      requests := s.requests ++ [request]
      err := (oracle.answer s.requests.length request).err } := by
  by_cases hcode : (oracle.answer s.requests.length request).err.code = .ok
  · exact Or.inl (allServed_append hs hcode)
  · exact Or.inr ⟨⟨s.requests, request, rfl, hs, rfl⟩, hcode⟩

theorem served_of_ok {s : CallState} (hs : s.Answered oracle)
    (hcode : s.err.code = .ok) : s.Served oracle := by
  rcases hs with hserved | hdenied
  · exact hserved
  · exact absurd hcode hdenied.failed

/-- The error object and the requests decide what was answered. -/
theorem denied_of_same {s s' : CallState} (hs : s.Denied oracle)
    (hrequests : s'.requests = s.requests) (herr : s'.err = s.err) :
    s'.Denied oracle := by
  obtain ⟨sent, request, heq, hsent, hanswer⟩ := hs.last
  exact ⟨⟨sent, request, hrequests.trans heq, hsent, hanswer.trans herr.symm⟩,
    by rw [herr]; exact hs.failed⟩

theorem served_of_same {s s' : CallState} (hs : s.Served oracle)
    (hrequests : s'.requests = s.requests) : s'.Served oracle := by
  unfold CallState.Served
  rw [hrequests]
  exact hs

theorem answered_of_same {s s' : CallState} (hs : s.Answered oracle)
    (hrequests : s'.requests = s.requests) (herr : s'.err = s.err) :
    s'.Answered oracle :=
  hs.imp (served_of_same · hrequests) (denied_of_same · hrequests herr)

end

/-- States of one kind are states of the other. -/
class Within (D C : CallState → Prop) : Prop where
  within : ∀ s, D s → C s

section

variable {oracle : Oracle}

instance (D : CallState → Prop) : Within D D := ⟨fun _ => id⟩

instance : Within (CallState.Served oracle) (CallState.Answered oracle) :=
  ⟨fun _ => Or.inl⟩

instance : Within (CallState.Served oracle) (CallState.Reported oracle) :=
  ⟨fun _ => Or.inl⟩

instance : Within (CallState.Reported oracle) (CallState.Answered oracle) :=
  ⟨fun _ => Or.imp id And.left⟩

end

/-! ## Pieces that relay -/

/-- From `P`, the piece goes on in `Q`, or leaves the method in a way that
relays the error. -/
class Relays {α : Type} (oracle : Oracle) (nulls : Prop) (P : CallState → Prop)
    (Q : outParam (CallState → Prop)) (C : CallState → Prop)
    (body : Method α) : Prop where
  ends : Ends P body (fun _ => Q) (Exit.Relays oracle nulls C)

section

variable {α β : Type} {oracle : Oracle} {nulls : Prop} {P Q M C : CallState → Prop}

/-! ### Pieces that send nothing -/

instance (priority := low) (body : Method α) [hbody : Moves SameRequests body]
    [hwithin : Within (CallState.Served oracle) C] :
    Relays oracle nulls (CallState.Served oracle) (CallState.Served oracle) C body := by
  refine ⟨fun s hs => ?_⟩
  have hsame := hbody.moves s
  cases hrun : body.run s with
  | mk outcome s' =>
      rw [hrun] at hsame
      have hserved : s'.Served oracle := served_of_same hs hsame
      cases outcome with
      | ok value => exact hserved
      | error exit =>
          cases exit with
          | ret reply => exact Or.inl hserved
          | cleanup => exact hwithin.within s' hserved
          | crash => exact hserved

instance (value : α) :
    Relays oracle nulls (CallState.Answered oracle) (CallState.Answered oracle) C
      (pure value : Method α) := ⟨fun _ hs => hs⟩

instance (z : Zval) :
    Relays oracle nulls (CallState.Answered oracle) (CallState.Answered oracle) C
      (setOutput z) :=
  ⟨fun _ hs => answered_of_same hs rfl rfl⟩

instance (answer : Answer) :
    Relays oracle nulls (CallState.Answered oracle) (CallState.Answered oracle) C
      (ignoreResult answer) := ⟨fun _ hs => hs⟩

/-! ### Combinators -/

instance (body : Method β) (next : β → Method α)
    [hbody : Relays oracle nulls P M C body]
    [hnext : ∀ value, Relays oracle nulls M Q C (next value)] :
    Relays oracle nulls P Q C (body >>= next) :=
  ⟨ends_bind hbody.ends fun value => (hnext value).ends⟩

instance (condition : Prop) [Decidable condition] (statement : Method Unit)
    [hstatement : Relays oracle nulls (CallState.Answered oracle)
      (CallState.Answered oracle) C statement] :
    Relays oracle nulls (CallState.Answered oracle) (CallState.Answered oracle) C
      (runIf condition statement) := by
  unfold runIf
  refine ⟨ends_ite (fun _ => hstatement.ends) fun _ => ?_⟩
  exact fun _ hs => hs

instance (value : Option α) (statement : α → Method Unit)
    [hstatement : ∀ v, Relays oracle nulls (CallState.Answered oracle)
      (CallState.Answered oracle) C (statement v)] :
    Relays oracle nulls (CallState.Answered oracle) (CallState.Answered oracle) C
      (forSome value statement) := by
  cases value with
  | some v => exact hstatement v
  | none => exact ⟨fun _ hs => hs⟩

theorem relays_withCleanup {D : CallState → Prop} {body : Method Unit}
    {cleanup : Method α} (hbody : Ends P body (fun _ => D) (Exit.Relays oracle nulls D))
    (hcleanup : Relays oracle nulls D Q C cleanup) :
    Relays oracle nulls P Q C (withCleanup body cleanup) := by
  refine ⟨fun s hs => ?_⟩
  have hfirst := hbody s hs
  unfold withCleanup
  rw [run_bind, run_catchExit]
  cases hrun : body.run s with
  | mk outcome s' =>
      rw [hrun] at hfirst
      cases outcome with
      | ok u => exact hcleanup.ends s' hfirst
      | error exit =>
          cases exit with
          | cleanup => exact hcleanup.ends s' hfirst
          | ret reply => exact hfirst
          | crash => exact hfirst

/-- The part after `CLEANUP` looks at the error object. -/
instance (body : Method Unit) (cleanup : Method α)
    [hbody : Relays oracle nulls P M (CallState.Answered oracle) body]
    [hwithin : Within M (CallState.Answered oracle)]
    [hcleanup : Relays oracle nulls (CallState.Answered oracle) Q C cleanup] :
    Relays oracle nulls P Q C (withCleanup body cleanup) :=
  relays_withCleanup
    (ends_weaken hbody.ends (fun _ => id) (fun _ => hwithin.within)
      fun _ _ => id) hcleanup

/-- The part after `CLEANUP` returns the code of what is reported. -/
instance (body : Method Unit)
    [hbody : Relays oracle nulls P M (CallState.Reported oracle) body]
    [hwithin : Within M (CallState.Reported oracle)]
    [hcleanup : Relays oracle nulls (CallState.Reported oracle) Q C
      (returnErrCode : Method α)] :
    Relays oracle nulls P Q C (withCleanup body (returnErrCode : Method α)) :=
  relays_withCleanup
    (ends_weaken hbody.ends (fun _ => id) (fun _ => hwithin.within)
      fun _ _ => id) hcleanup

/-! ### Requests and checks of the error object -/

instance (request : Request) :
    Relays oracle nulls (CallState.Served oracle) (CallState.Answered oracle) C
      (issue oracle request) :=
  ⟨fun _ hs => answered_issue request hs⟩

instance [hwithin : Within (CallState.Answered oracle) C] :
    Relays oracle nulls (CallState.Answered oracle) (CallState.Served oracle) C
      cleanupOnError := by
  refine ⟨fun s hs => ?_⟩
  unfold cleanupOnError
  rw [run_bind_ok (run_get s)]
  by_cases hcode : s.err.code = .ok
  · rw [runIf_neg (not_not.mpr hcode)]
    exact served_of_ok hs hcode
  · rw [runIf_pos hcode]
    exact hwithin.within s hs

/-- The error that is reported and returned is that of the last request. -/
theorem reported_of_answered {s : CallState} (hs : s.Answered oracle) :
    CallState.Reported oracle { s with clientError := s.err } := by
  rcases hs with hserved | hdenied
  · exact Or.inl hserved
  · exact Or.inr ⟨denied_of_same hdenied rfl rfl, rfl⟩

instance :
    Relays oracle nulls (CallState.Answered oracle) (CallState.Reported oracle) C
      reportErr :=
  ⟨fun _ hs => reported_of_answered hs⟩

instance : Relays oracle False (CallState.Reported oracle) (CallState.Served oracle) C
    (returnErrCode : Method α) :=
  ⟨fun _ hs => hs.imp id fun hdenied => ⟨hdenied.1, hdenied.2, not_false, rfl⟩⟩

instance : Relays oracle True (CallState.Reported oracle) (CallState.Served oracle) C
    (Proc.exit (.ret .null) : Method α) :=
  ⟨fun _ hs => hs.imp id fun hdenied => ⟨hdenied.1, hdenied.2, trivial⟩⟩

instance [hwithin : Within (CallState.Reported oracle) C] :
    Relays oracle nulls (CallState.Reported oracle) (CallState.Served oracle) C
      (gotoCleanup : Method α) :=
  ⟨fun s hs => hwithin.within s hs⟩

instance (z : Zval) :
    Relays oracle nulls (CallState.Reported oracle) (CallState.Reported oracle) C
      (setOutput z) := by
  refine ⟨fun s hs => ?_⟩
  rcases hs with hserved | ⟨hdenied, hreported⟩
  · exact Or.inl hserved
  · exact Or.inr ⟨denied_of_same hdenied rfl rfl, hreported⟩

instance : Relays oracle nulls (CallState.Reported oracle) (CallState.Reported oracle)
    C clearArrayOutput := by
  have hclear : ∀ output : Option Zval, Relays oracle nulls
      (CallState.Reported oracle) (CallState.Reported oracle) C (match output with
        | some (.array _) => setOutput .null
        | _ => pure () : Method Unit) := by
    intro output
    split
    · infer_instance
    · exact ⟨fun _ hs => hs⟩
  exact ⟨fun s hs => (hclear s.output).ends s hs⟩

theorem relays_whenFailed {statement : CallState → Method Unit}
    [hstatement : ∀ s, Relays oracle nulls (CallState.Answered oracle) M C (statement s)]
    [hwithin : Within (CallState.Served oracle) M] :
    Relays oracle nulls (CallState.Answered oracle) M C (do
      let s ← Proc.get
      runIf (s.err.code ≠ .ok) (statement s)) := by
  refine ⟨fun s hs => ?_⟩
  rw [run_bind_ok (run_get s)]
  by_cases hcode : s.err.code = .ok
  · rw [runIf_neg (not_not.mpr hcode)]
    exact hwithin.within s (served_of_ok hs hcode)
  · rw [runIf_pos hcode]
    exact (hstatement s).ends s hs

/-- What is done when the error object holds an error. -/
instance (statement : CallState → Method Unit)
    [∀ s, Relays oracle nulls (CallState.Answered oracle) M C (statement s)]
    [Within (CallState.Served oracle) M] :
    Relays oracle nulls (CallState.Answered oracle) M C (do
      let s ← Proc.get
      runIf (s.err.code ≠ .ok) (statement s)) :=
  relays_whenFailed

instance (statement : CallState → Method Unit) (rest : Unit → Method α)
    [∀ s, Relays oracle nulls (CallState.Answered oracle) M C (statement s)]
    [Within (CallState.Served oracle) M]
    [hrest : ∀ u, Relays oracle nulls M Q C (rest u)] :
    Relays oracle nulls (CallState.Answered oracle) Q C (do
      let s ← Proc.get
      let u ← runIf (s.err.code ≠ .ok) (statement s)
      rest u) := by
  have hfirst : Relays oracle nulls (CallState.Answered oracle) M C (do
      let s ← Proc.get
      runIf (s.err.code ≠ .ok) (statement s)) := relays_whenFailed
  rw [← bind_assoc]
  infer_instance

/-! ### The parts after `CLEANUP` -/

instance : Relays oracle False (CallState.Answered oracle) (CallState.Served oracle) C
    cleanupErr := by
  unfold cleanupErr
  infer_instance

instance : Relays oracle False (CallState.Answered oracle) (CallState.Served oracle) C
    getCleanup := by
  unfold getCleanup
  infer_instance

instance : Relays oracle False (CallState.Answered oracle) (CallState.Served oracle) C
    existsManyCleanup := by
  unfold existsManyCleanup
  infer_instance

instance : Relays oracle False (CallState.Answered oracle) (CallState.Served oracle) C
    queryRoleCleanup := by
  unfold queryRoleCleanup
  infer_instance

instance : Relays oracle False (CallState.Answered oracle) (CallState.Served oracle) C
    reportAndReturn := by
  unfold reportAndReturn
  infer_instance

/-! ### Requests whose answer is looked at -/

theorem Relays.weaken {body : Method α} (hbody : Relays oracle nulls P M C body)
    [hwithin : Within M Q] : Relays oracle nulls P Q C body :=
  ⟨ends_weaken hbody.ends (fun _ => id) (fun _ => hwithin.within) fun _ _ => id⟩

/-- After a failed request the error object holds the error of the answer. -/
theorem relays_issue {request : Request} {next : Answer → Method α}
    (hserved : ∀ answer,
      Relays oracle nulls (CallState.Served oracle) Q C (next answer))
    (hdenied : ∀ sent, Ends
      (fun s => s.Denied oracle ∧ (oracle.answer sent request).err = s.err)
      (next (oracle.answer sent request)) (fun _ => Q) (Exit.Relays oracle nulls C)) :
    Relays oracle nulls (CallState.Served oracle) Q C
      (issue oracle request >>= next) := by
  refine ⟨fun s hs => ?_⟩
  have hissue : (issue oracle request).run s =
      (.ok (oracle.answer s.requests.length request), { s with
        requests := s.requests ++ [request]
        err := (oracle.answer s.requests.length request).err }) := rfl
  rw [run_bind_ok hissue]
  by_cases hcode : (oracle.answer s.requests.length request).err.code = .ok
  · exact (hserved _).ends _ (allServed_append hs hcode)
  · exact hdenied _ _ ⟨⟨⟨s.requests, request, rfl, hs, rfl⟩, hcode⟩, rfl⟩

/-- The end of `remove` and `removeBin`. -/
instance (request : Request) [Within (CallState.Served oracle) C] :
    Relays oracle False (CallState.Served oracle) (CallState.Served oracle) C (do
      let answer ← issue oracle request
      returnAnswer answer) := by
  refine relays_issue (fun answer => inferInstance) fun sent => ?_
  rintro s ⟨hs, hanswer⟩
  unfold returnAnswer
  rw [run_bind_ok (run_get s), runIf_pos hs.failed]
  exact Or.inr ⟨denied_of_same hs rfl rfl, rfl, not_false,
    congrArg AsError.code hanswer⟩

/-- The request of `scanInfo`. -/
instance (request : Request) (failure : Method Unit)
    (rest : Answer → Unit → Method α)
    [hfailure : Relays oracle nulls (CallState.Answered oracle)
      (CallState.Served oracle) C failure]
    [hrest : ∀ answer u, Relays oracle nulls (CallState.Served oracle) Q C
      (rest answer u)] :
    Relays oracle nulls (CallState.Served oracle) Q C (do
      let answer ← issue oracle request
      let u ← runIf (answer.err.code ≠ .ok) failure
      rest answer u) := by
  have hfailed : Relays oracle nulls (CallState.Served oracle)
      (CallState.Served oracle) C failure :=
    ⟨fun s hs => hfailure.ends s (Or.inl hs)⟩
  refine relays_issue (fun answer => ?_) fun sent => ?_
  · unfold runIf
    split
    · infer_instance
    · exact hrest answer ()
  · rintro s ⟨hs, hanswer⟩
    rw [hanswer, runIf_pos hs.failed]
    exact ends_bind hfailure.ends (fun u => (hrest _ u).ends) s (Or.inr hs)

section

variable [hsilent : oracle.FailsSilently]

/-- The request of `existsMany`, which calls back with what it was sent. -/
instance (request : Request) (callback : Answer → Method Unit)
    [hcallback : ∀ answer, Moves SameRequests (callback answer)]
    [hwithin : Within (CallState.Served oracle) C] :
    Relays oracle nulls (CallState.Served oracle) (CallState.Answered oracle) C (do
      let answer ← issue oracle request
      runIf (answer.delivers = true) (callback answer)) := by
  refine relays_issue (fun answer => ?_) fun sent => ?_
  · have hserved : Relays oracle nulls (CallState.Served oracle)
        (CallState.Served oracle) C
        (runIf (answer.delivers = true) (callback answer)) := inferInstance
    exact hserved.weaken
  · rintro s ⟨hs, hanswer⟩
    have hkept : (oracle.answer sent request).delivers = false :=
      (hsilent.silent sent request (by rw [hanswer]; exact hs.failed)).1
    rw [runIf_neg (by simp [hkept])]
    exact Or.inr hs

/-- The request of `aggregate`. -/
instance (engine : Engine) (request : Request)
    [hwithin : Within (CallState.Served oracle) C] :
    Relays oracle nulls (CallState.Served oracle) (CallState.Answered oracle) C (do
      let answer ← issue oracle request
      aggregateCallback engine answer.stream []) := by
  refine relays_issue (fun answer => ?_) fun sent => ?_
  · have hserved : Relays oracle nulls (CallState.Served oracle)
        (CallState.Served oracle) C
        (aggregateCallback engine answer.stream []) := inferInstance
    exact hserved.weaken
  · rintro s ⟨hs, hanswer⟩
    have hkept : (oracle.answer sent request).stream = [] :=
      (hsilent.silent sent request (by rw [hanswer]; exact hs.failed)).2
    rw [hkept]
    exact Or.inr hs

end

end

/-! ## The bodies -/

section

variable (engine : Engine) (client : Client) (oracle : Oracle)
variable {C : CallState → Prop}

instance [Within (CallState.Served oracle) C] (policy : PolicyRead)
    (key : AsKey) (filter : Option Zval) :
    Relays oracle False (CallState.Served oracle) (CallState.Answered oracle) C
      (readWithFilter oracle policy key filter) := by
  have hserved : ∀ body : Method Answer, Moves SameRequests body →
      Relays oracle False (CallState.Served oracle) (CallState.Answered oracle) C
        body := by
    intro body hbody
    have hkept : Relays oracle False (CallState.Served oracle)
        (CallState.Served oracle) C body := inferInstance
    exact hkept.weaken
  cases filter with
  | none =>
      unfold readWithFilter
      infer_instance
  | some z =>
      cases z with
      | array bins =>
          show Relays oracle False _ _ C (asGetWithBins oracle policy key bins)
          unfold asGetWithBins
          split
          · exact hserved _ inferInstance
          · cases filterBinNames bins with
            | error message => exact hserved _ inferInstance
            | ok names => infer_instance
      | undef | null | bool _ | long _ | double _ | string _ | object _ _
      | resource | reference _ => exact hserved (failReturn _ _) inferInstance

instance (bin : String) (missing : Method Unit) (answer : Answer)
    [Moves SameRequests missing] [Within (CallState.Answered oracle) C]
    [Within (CallState.Served oracle) C] :
    Relays oracle False (CallState.Answered oracle) (CallState.Served oracle) C
      (useReturned engine bin missing answer) := by
  unfold useReturned
  infer_instance

instance (bin : String) (answer : Answer) [Within (CallState.Answered oracle) C]
    [Within (CallState.Served oracle) C] :
    Relays oracle False (CallState.Answered oracle) (CallState.Served oracle) C
      (usePopped engine bin answer) := by
  unfold usePopped
  infer_instance

instance (bin : String) (answer : Answer) [Within (CallState.Answered oracle) C]
    [Within (CallState.Served oracle) C] :
    Relays oracle False (CallState.Answered oracle) (CallState.Served oracle) C
      (useSize bin answer) := by
  unfold useSize
  infer_instance

instance (args : ListArgs) :
    Moves SameRequests (setupListOperationVariables engine args) := by
  unfold setupListOperationVariables
  infer_instance

instance {Q : CallState → Prop} (args : ListArgs)
    (makeOperation : Method Operation) (notAdded : Method Unit)
    (useResult : Answer → Method Unit) [Moves SameRequests makeOperation]
    [Moves SameRequests notAdded] [Within (CallState.Served oracle) C]
    [∀ answer, Relays oracle False (CallState.Answered oracle) Q C
      (useResult answer)] :
    Relays oracle False (CallState.Served oracle) Q C
      (listBody engine oracle args makeOperation notAdded useResult) := by
  unfold listBody
  infer_instance

end

/-! ## The calls -/

section

variable {engine : Engine} {client : Client} {oracle : Oracle}

instance (zPolicy : Option Zval) (message : String) :
    Moves SameRequests (requireInfoPolicy engine zPolicy message) := by
  unfold requireInfoPolicy
  infer_instance

instance (zPolicy : Option Zval) (message : String) :
    Moves SameRequests (requireAdminPolicy engine zPolicy message) := by
  unfold requireAdminPolicy
  infer_instance

variable [hsilent : oracle.FailsSilently]

theorem call_relays (call : Call) :
    Relays oracle call.Nulls (CallState.Served oracle) (CallState.Served oracle)
      (CallState.Served oracle) (call.method engine client oracle) := by
  cases call with
  | get _ | «exists» _ | put _ | remove _ | removeBin _ | getMany _
  | existsMany _ =>
      all_goals
        simp only [Call.method, Call.Nulls, get, getBody, AerospikePhp.exists, put, putBody,
          remove, removeBin, getMany, getManyBody, getManyWithBatchRead,
          existsMany, existsManyBody]
        infer_instance
  | operate _ | operateOrdered _ | touch _ | append _ | prepend _
  | increment _ =>
      all_goals
        simp only [Call.method, Call.Nulls, operate, operateBody, operateOrdered,
          operateOrderedBody, touch, touchBody, append, appendBody, prepend,
          prependBody, increment, incrementBody]
        infer_instance
  | listSize _ | listAppend _ | listMerge _ | listInsert _ | listInsertItems _
  | listPop _ | listPopRange _ | listRemove _ | listRemoveRange _ | listTrim _
  | listClear _ | listSet _ | listGet _ | listGetRange _ =>
      all_goals
        simp only [Call.method, Call.Nulls, listSize, listAppend, appendItem, listMerge,
          mergeItems, listInsert, insertItem, listInsertItems, insertItems,
          listPop, popOperation, listPopRange, listRemove, listRemoveRange,
          listTrim, rangeMethod, listClear, listSet, setItem, listGet,
          getOperation, listGetRange]
        infer_instance
  | query _ | queryApply _ | aggregate _ | scan _ | scanApply _ | apply _
  | scanInfo _ | jobInfo _ =>
      all_goals
        simp only [Call.method, Call.Nulls, query, queryBody, queryApply, queryApplyBody,
          aggregate, aggregateBody, scan, scanBody, scanApply, scanApplyBody,
          apply, applyBody, scanInfo, jobInfo, jobInfoBody]
        infer_instance
  | info _ | infoMany _ | getNodes | addIndex _ | dropIndex _ | truncate _
  | getRegistered _ | register _ | deregister _ | listRegistered _ =>
      all_goals
        simp only [Call.method, Call.Nulls, info, infoBody, infoMany, getNodes, addIndex,
          dropIndex, truncate, getRegistered, getRegisteredBody, register,
          registerBody, deregister, listRegistered, listRegisteredBody]
        infer_instance
  | createRole _ | queryRole _ | queryRoles _ | dropRole _ | grantPrivileges _
  | revokePrivileges _ =>
      all_goals
        simp only [Call.method, Call.Nulls, createRole, createRoleBody, queryRole,
          queryRoleBody, queryRoles, queryRolesBody, dropRole, dropRoleBody,
          grantPrivileges, revokePrivileges, privilegesBody, issueAdmin]
        infer_instance
  | createUser _ | changePassword _ | setPassword _ | grantRoles _
  | revokeRoles _ | queryUser _ | queryUsers _ | dropUser _ =>
      all_goals
        simp only [Call.method, Call.Nulls, createUser, createUserBody, changePassword,
          setPassword, passwordBody, grantRoles, revokeRoles, userRolesBody,
          queryUser, queryUserBody, queryUsers, queryUsersBody, dropUser,
          dropUserBody, issueAdmin]
        infer_instance

/-- A request that fails is the last one of its call, which returns the code of
the failure, or null if it is `infoMany`, and leaves its error on the client. -/
theorem call_endsWith_failed (policies : Policies) (clientError : AsError)
    (call : Call) {i : ℕ} {request : Request}
    (hsent : (call.run engine client oracle policies
      clientError).state.requests[i]? = some request)
    (hfailed : (oracle.answer i request).err.code ≠ .ok) :
    (call.run engine client oracle policies clientError).EndsWith call.Nulls i
      (oracle.answer i request).err := by
  have hrelays := @call_relays engine client oracle hsilent call
  have hnone : CallState.Served oracle (.start policies clientError) := by
    intro j earlier hearlier
    simp [CallState.start] at hearlier
  have hends := hrelays.ends _ hnone
  -- a state whose requests all succeeded does not hold the failed one
  have hserved : ∀ s : CallState, s.Served oracle →
      s.requests[i]? ≠ some request :=
    fun s hs hrequest => hfailed (hs i request hrequest)
  unfold Call.run Method.call at hsent ⊢
  cases hrun : (call.method engine client oracle).run
      (.start policies clientError) with
  | mk outcome s =>
      rw [hrun] at hends hsent
      cases outcome with
      | ok reply => exact absurd hsent (hserved s hends)
      | error exit =>
          cases exit with
          | cleanup => exact absurd hsent (hserved s hends)
          | crash => exact absurd hsent (hserved s hends)
          | ret reply =>
              rcases hends with hs | ⟨hdenied, hreported, hcarries⟩
              · exact absurd hsent (hserved s hs)
              · obtain ⟨hlast, herr⟩ := last_of_denied hdenied hsent hfailed
                rw [herr]
                exact ⟨hlast, ⟨reply, rfl, hcarries⟩, hreported⟩

end

/-- A cluster in which the wait for a background scan times out. -/
def Oracle.losingScan : Oracle :=
  { Oracle.accepting with
    answer := fun sent _ =>
      if sent = 1 then { err := ⟨.other 9, "timeout", true⟩, delivers := false }
      else { err := .init, jobId := 7 } }

instance : Oracle.losingScan.FailsSilently := by
  refine ⟨fun sent request hfailed => ?_⟩
  by_cases hsent : sent = 1
  · simp [Oracle.losingScan, hsent]
  · simp [Oracle.losingScan, hsent, AsError.init] at hfailed

def scanApplied : ScanApplyArgs :=
  ⟨"test", "demo", "module", "function", [], none⟩

theorem call_endsWith_failed_scanApplied :
    ((Call.scanApply (some scanApplied)).run .plain .connected .losingScan default
      .init).EndsWith False 1 ⟨.other 9, "timeout", true⟩ :=
  @call_endsWith_failed .plain .connected .losingScan _ default .init
    (Call.scanApply (some scanApplied)) 1 (.scanWait 7) rfl (by decide)

end AerospikePhp
