import AerospikePhp.ErrorObjects
import AerospikePhp.ListMethods
import AerospikePhp.Verdicts
import Mathlib.Tactic

/-!
# Statuses and the error of the client

What a method returns and what `errorno` and `error` say after it.  Most ways
out of a method report the error with the code that they return.  The rules
below find out which do, piece by piece.
-/

namespace AerospikePhp

open Procedure Method Proc

/-- `errorno()` is the status, and `error()` is empty exactly when that is
OK. -/
def CallState.Tells (s : CallState) (status : AsStatus) : Prop :=
  s.clientError.code = status ∧ (s.clientError.message = "" ↔ status = .ok)

/-- The status that the call returned, if any, is the one that the client
tells. -/
def Outcome.Tells (outcome : Outcome) : Prop :=
  ∀ status, outcome.reply = some (.long status) → outcome.state.Tells status

/-- What the usual `CLEANUP` makes of this state is told. -/
def CallState.Settled (s : CallState) : Prop :=
  if s.err.code = .ok then s.clientError.code = .ok ∧ s.clientError.message = ""
  else s.err.message ≠ ""

/-- The way out is told; at the label `CLEANUP` the state meets `C`. -/
def Exit.Tells (C : CallState → Prop) : Exit → CallState → Prop
  | .ret (.long status), s => s.Tells status
  | .cleanup, s => C s
  | _, _ => True

/-- The method was entered with a sound error object. -/
def CallState.Entered (s : CallState) : Prop := s.err.Sound

/-- Nothing was reported so far. -/
def CallState.Quiet (s : CallState) : Prop :=
  s.err.Sound ∧ s.clientError = .init

/-- The error object holds what was reported last. -/
def CallState.Told (s : CallState) : Prop := s.Tells s.err.code

/-- The C client, and the handling of a UDF file, explain their failures. -/
class Oracle.Explains (oracle : Oracle) : Prop where
  answer : ∀ sent request, (oracle.answer sent request).err.Sound
  udfFile : ∀ code message, oracle.udfFile = .failed code message →
    code ≠ .ok ∧ message ≠ ""

theorem settled_of_quiet {s : CallState} (hquiet : s.Quiet) : s.Settled := by
  unfold CallState.Settled
  split
  · rw [hquiet.2]
    exact ⟨rfl, rfl⟩
  · next hcode => exact hquiet.1.failure_text hcode

/-- The state tells an error that was just reported. -/
theorem tells_of_sound {s : CallState} {err : AsError} (herr : err.Sound)
    (hreported : s.clientError = err) : s.Tells err.code := by
  subst hreported
  exact ⟨rfl, herr⟩

theorem tells_of_failure {s : CallState} {code : AsStatus} {message : String}
    [hcode : IsFailure code] [hmessage : HasText message]
    (hreported : s.clientError = ⟨code, message, false⟩) : s.Tells code := by
  unfold CallState.Tells
  rw [hreported]
  exact ⟨rfl, iff_of_false hmessage.ne_empty hcode.ne_ok⟩

/-- The label may be reached with nothing reported. -/
class AdmitsQuiet (C : CallState → Prop) : Prop where
  admits : ∀ s, s.Quiet → C s

instance : AdmitsQuiet CallState.Quiet := ⟨fun _ hs => hs⟩

instance : AdmitsQuiet CallState.Settled := ⟨fun _ hs => settled_of_quiet hs⟩

/-! ## Pieces that tell -/

/-- From `P`, the piece goes on with nothing reported, or leaves the method in
a way that is told. -/
class Tells {α : Type} (P C : CallState → Prop) (body : Method α) : Prop where
  ends : Ends P body (fun _ => CallState.Quiet) (Exit.Tells C)

section

variable {α β : Type} {P C : CallState → Prop}

/-! ### Statements -/

theorem tells_modify {change : CallState → CallState}
    (hchange : ∀ s, s.Quiet → (change s).Quiet) :
    Tells CallState.Quiet C (modify change : Method Unit) := ⟨hchange⟩

instance (value : α) : Tells CallState.Quiet C (pure value : Method α) :=
  ⟨fun _ hs => hs⟩

instance : Tells CallState.Quiet C (Proc.get : Method CallState) :=
  ⟨fun _ hs => hs⟩

instance (code : AsStatus) (message : String) [hcode : IsFailure code]
    [hmessage : HasText message] :
    Tells CallState.Quiet C (setErr code message) :=
  tells_modify fun _ hs => ⟨iff_of_false hmessage.ne_empty hcode.ne_ok, hs.2⟩

instance : Tells CallState.Quiet C errorInit :=
  tells_modify fun _ hs => ⟨AsError.sound_init, hs.2⟩

instance : Tells CallState.Entered C resetClientError := ⟨fun _ hs => ⟨hs, rfl⟩⟩

instance : Tells CallState.Quiet C resetClientError :=
  tells_modify fun _ hs => ⟨hs.1, rfl⟩

instance (z : Zval) : Tells CallState.Quiet C (setOutput z) :=
  tells_modify fun _ hs => hs

instance : Tells P C (crash : Method α) := ⟨fun _ _ => trivial⟩

instance : Tells P C (Proc.exit (.ret .null) : Method α) := ⟨fun _ _ => trivial⟩

instance (z : Zval) : Tells P C (Proc.exit (.ret (.value z)) : Method α) :=
  ⟨fun _ _ => trivial⟩

instance (code : AsStatus) (message : String) [IsFailure code]
    [HasText message] : Tells P C (failReturn code message : Method α) :=
  ⟨fun _ _ => tells_of_failure rfl⟩

instance (code : AsStatus) (message : String) :
    Tells P C (failNull code message : Method α) := ⟨fun _ _ => trivial⟩

instance [hadmits : AdmitsQuiet C] :
    Tells CallState.Quiet C (gotoCleanup : Method α) :=
  ⟨fun s hs => hadmits.admits s hs⟩

instance (code : AsStatus) (message : String) [hcode : IsFailure code]
    [hmessage : HasText message] [hadmits : AdmitsQuiet C] :
    Tells CallState.Quiet C (failCleanup code message : Method α) :=
  ⟨fun _ hs => hadmits.admits _
    ⟨iff_of_false hmessage.ne_empty hcode.ne_ok, hs.2⟩⟩

instance (code : AsStatus) (message : String) [IsFailure code]
    [HasText message] : Tells P CallState.Told (failCode code message : Method α) :=
  ⟨fun _ _ => tells_of_failure rfl⟩

instance : Tells CallState.Told C (returnErrCode : Method α) :=
  ⟨fun _ hs => hs⟩

/-- An error that is reported and returned. -/
instance : Tells CallState.Quiet C (do
    reportErr
    returnErrCode : Method α) :=
  ⟨fun _ hs => tells_of_sound hs.1 rfl⟩

/-- An error that is reported without a status. -/
instance : Tells P C (do
    reportErr
    Proc.exit (.ret .null) : Method α) := ⟨fun _ _ => trivial⟩

/-! ### Combinators -/

instance (body : Method β) (next : β → Method α) [hbody : Tells P C body]
    [hnext : ∀ value, Tells CallState.Quiet C (next value)] :
    Tells P C (body >>= next) :=
  ⟨ends_bind hbody.ends fun value => (hnext value).ends⟩

instance (condition : Prop) [Decidable condition] (yes no : Method α)
    [hyes : Tells P C yes] [hno : Tells P C no] :
    Tells P C (if condition then yes else no) :=
  ⟨ends_ite (fun _ => hyes.ends) fun _ => hno.ends⟩

instance (condition : Prop) [Decidable condition] (statement : Method Unit)
    [hstatement : Tells CallState.Quiet C statement] :
    Tells CallState.Quiet C (runIf condition statement) := by
  unfold runIf
  infer_instance

instance (value : Option α) (failure : Method α)
    [hfailure : Tells CallState.Quiet C failure] :
    Tells CallState.Quiet C (orFail value failure) := by
  cases value with
  | some v => exact inferInstanceAs (Tells _ C (pure v))
  | none => exact hfailure

instance (value : Option α) (statement : α → Method Unit)
    [hstatement : ∀ v, Tells CallState.Quiet C (statement v)] :
    Tells CallState.Quiet C (forSome value statement) := by
  cases value with
  | some v => exact hstatement v
  | none => exact inferInstanceAs (Tells _ C (pure ()))

instance (z : Option Zval) (load : Method α) [Tells CallState.Quiet C load] :
    Tells CallState.Quiet C (whenGiven z load) := by
  unfold whenGiven
  split <;> infer_instance

theorem tells_withCleanup {D : CallState → Prop} {body : Method Unit}
    {cleanup : Method α} (hbody : Ends P body (fun _ => D) (Exit.Tells D))
    (hcleanup : Tells D C cleanup) : Tells P C (withCleanup body cleanup) := by
  refine ⟨fun s hs => ?_⟩
  have hfirst := hbody s hs
  unfold withCleanup
  rw [run_bind, run_catchExit]
  cases hrun : body.run s with
  | mk outcome s' =>
      rw [hrun] at hfirst
      cases outcome with
      | ok u => exact hcleanup.ends s' hfirst
      | error exit =>
          cases exit with
          | cleanup => exact hcleanup.ends s' hfirst
          | ret reply => cases reply <;> exact hfirst
          | crash => exact hfirst

theorem Tells.admitted {D : CallState → Prop} {body : Method α}
    (hbody : Tells P D body) [hadmits : AdmitsQuiet D] :
    Ends P body (fun _ => D) (Exit.Tells D) :=
  ends_weaken hbody.ends (fun _ => id) (fun _ s => hadmits.admits s)
    fun _ _ => id

instance (body : Method Unit) (cleanup : Method α)
    [hbody : Tells P CallState.Settled body]
    [hcleanup : Tells CallState.Settled C cleanup] :
    Tells P C (withCleanup body cleanup) :=
  tells_withCleanup hbody.admitted hcleanup

/-! ### Reports -/

/-- The part after `CLEANUP` reports the error, if any, and returns its code,
whatever else it does in between. -/
theorem tells_cleanup {report : CallState → Method Unit}
    (hreport : ∀ s, ∃ s', (report s).run s = (.ok (), s') ∧ s'.err = s.err ∧
      s'.clientError = s.err) :
    Tells CallState.Settled C (do
      let s ← Proc.get
      runIf (s.err.code ≠ .ok) (report s)
      returnErrCode : Method α) := by
  refine ⟨fun s hs => ?_⟩
  rw [run_bind_ok (run_get s)]
  unfold CallState.Settled at hs
  by_cases hcode : s.err.code = .ok
  · rw [if_pos hcode] at hs
    rw [runIf_neg (not_not.mpr hcode)]
    refine ⟨hs.1.trans hcode.symm, ?_⟩
    exact iff_of_true hs.2 hcode
  · rw [if_neg hcode] at hs
    obtain ⟨s', hrun, herr, hreported⟩ := hreport s
    rw [runIf_pos hcode, run_bind_ok hrun]
    refine ⟨by rw [hreported, herr], ?_⟩
    rw [hreported, herr]
    exact iff_of_false hs hcode

theorem Tells.of_settled {body : Method α}
    (hbody : Tells CallState.Settled C body) : Tells CallState.Quiet C body :=
  ⟨fun s hs => hbody.ends s (settled_of_quiet hs)⟩

instance : Tells CallState.Settled C cleanupErr :=
  tells_cleanup fun _ => ⟨_, rfl, rfl, rfl⟩

instance : Tells CallState.Settled C getCleanup :=
  tells_cleanup fun _ => ⟨_, rfl, rfl, rfl⟩

instance : Tells CallState.Settled C existsManyCleanup := by
  refine tells_cleanup fun s => ?_
  have hclear : ∀ s : CallState, ∃ s', clearArrayOutput.run s = (.ok (), s') ∧
      s'.err = s.err ∧ s'.clientError = s.clientError := by
    intro s
    unfold clearArrayOutput
    rw [run_bind_ok (run_get s)]
    split <;> exact ⟨_, rfl, rfl, rfl⟩
  obtain ⟨s', hrun, herr, hsame⟩ := hclear { s with clientError := s.err }
  exact ⟨s', hrun, herr, hsame⟩

instance : Tells CallState.Settled C queryRoleCleanup := by
  refine tells_cleanup fun s => ?_
  unfold runIf
  split <;> exact ⟨_, rfl, rfl, rfl⟩

instance : Tells CallState.Quiet C reportAndReturn :=
  (tells_cleanup fun _ => ⟨_, rfl, rfl, rfl⟩ : Tells _ C reportAndReturn).of_settled

/-! ### Conversions and requests -/

instance (converter : AsError → Converted α) [hexplains : Explains converter] :
    Tells CallState.Quiet C (convert converter) :=
  ⟨fun s hs => ⟨hs.1.of_becomes (hexplains.becomes s.err), hs.2⟩⟩

instance {Q : Type} (field : PolicyField Q) (converter : Q → ConvertedPolicy Q) :
    Tells CallState.Quiet C (loadPolicy field converter) := ⟨fun _ hs => hs⟩

instance {Q : Type} (field : PolicyField Q) (converter : Q → ConvertedPolicy Q)
    (failure : Method Unit) [Tells CallState.Quiet C failure] :
    Tells CallState.Quiet C (requirePolicy field converter failure) := by
  unfold requirePolicy
  infer_instance

instance (engine : Engine) (zKey : HashTable) (failure : Method AsKey)
    [Tells CallState.Quiet C failure] :
    Tells CallState.Quiet C (requireKey engine zKey failure) := by
  unfold requireKey
  infer_instance

instance (oracle : Oracle) [horacle : oracle.Explains] (request : Request) :
    Tells CallState.Quiet C (issue oracle request) :=
  ⟨fun s hs => ⟨horacle.answer s.requests.length request, hs.2⟩⟩

/-- A check of the error object that leaves for `CLEANUP`. -/
instance [AdmitsQuiet C] : Tells CallState.Quiet C cleanupOnError := by
  unfold cleanupOnError
  infer_instance

instance (converter : AsError → Converted Zval) [Explains converter] :
    Tells CallState.Quiet C (writeOutput converter) := by
  unfold writeOutput
  infer_instance

/-! ### Guards -/

section

variable (client : Client)

instance : Tells CallState.Quiet C (checkObjectAndConnection client) := by
  unfold checkObjectAndConnection
  infer_instance

instance : Tells CallState.Quiet C (requireConnection client) := by
  unfold requireConnection
  infer_instance

instance [AdmitsQuiet C] :
    Tells CallState.Quiet C (requireConnectionOrCleanup client) := by
  unfold requireConnectionOrCleanup
  infer_instance

instance (code : AsStatus) (invalid notConnected : String) [IsFailure code]
    [HasText invalid] [HasText notConnected] :
    Tells CallState.Quiet C
      (validateClientAndConnection client code invalid notConnected) := by
  unfold validateClientAndConnection
  infer_instance

variable {client}

theorem checkObjectAndConnection_of_ready (hready : client.Ready) (s : CallState) :
    (checkObjectAndConnection client).run s = (.ok .ok, s) := by
  rcases checkObjectAndConnection_run s with ⟨_, hrun⟩ | ⟨hnot, _⟩
  · exact hrun
  · exact absurd hready hnot

theorem checkObjectAndConnection_explains (hnot : ¬ client.Ready)
    (s : CallState) :
    ∃ code message, code ≠ AsStatus.ok ∧ message ≠ "" ∧
      (checkObjectAndConnection client).run s =
        (.ok code, { s with err := s.err.update code message }) := by
  unfold checkObjectAndConnection
  rcases client_not_ready hnot with hinvalid | ⟨hvalid, hconnected⟩
  · rw [if_pos hinvalid]
    exact ⟨.errClient, "Invalid class object", by decide, by decide, rfl⟩
  · rw [if_neg (by simp [hvalid]), if_pos hconnected]
    exact ⟨.errCluster, "Not connected", by decide, by decide, rfl⟩

theorem settled_of_failure {s : CallState} (hcode : s.err.code ≠ .ok)
    (hmessage : s.err.message ≠ "") : s.Settled := by
  unfold CallState.Settled
  rwa [if_neg hcode]

instance : Tells CallState.Quiet CallState.Settled
    (requireConnectionAgain client) := by
  refine ⟨fun s hs => ?_⟩
  unfold requireConnectionAgain
  by_cases hready : client.Ready
  · rw [run_bind_ok (checkObjectAndConnection_of_ready hready s)]
    exact hs
  · obtain ⟨code, message, hcode, hmessage, hrun⟩ :=
      checkObjectAndConnection_explains hready s
    rw [run_bind_ok hrun, runIf_pos hcode]
    exact settled_of_failure hcode hmessage

/-- A guard before the client's error is reset. -/
instance (rest : Method Unit)
    [hrest : Tells CallState.Quiet CallState.Settled rest] :
    Tells CallState.Entered CallState.Settled (do
      requireConnectionOrCleanup client
      resetClientError
      rest) := by
  refine ⟨fun s hs => ?_⟩
  unfold requireConnectionOrCleanup
  rw [bind_assoc]
  by_cases hready : client.Ready
  · rw [run_bind_ok (checkObjectAndConnection_of_ready hready s)]
    exact hrest.ends { s with clientError := .init } ⟨hs, rfl⟩
  · obtain ⟨code, message, hcode, hmessage, hrun⟩ :=
      checkObjectAndConnection_explains hready s
    rw [run_bind_ok hrun, runIf_pos hcode]
    exact settled_of_failure hcode hmessage

end

end

end AerospikePhp
