import AerospikePhp.Decoding
import AerospikePhp.ListRequests
import Mathlib.Tactic

/-!
# The by-reference results of the list operations

`listGet`, `listGetRange`, `listPop` and `listPopRange` clear the variable that
the caller passed by reference, and convert the value of the answer into it.
-/

namespace AerospikePhp

open Procedure Method Proc

/-! ## Calls -/

inductive ListRead where
  | get (args : ListArgs) (index : Int64)
  | getRange (args : ListArgs) (index count : Int64)
  | pop (args : ListArgs) (index : Int64)
  | popRange (args : ListArgs) (index count : Int64)

namespace ListRead

def args : ListRead → ListArgs
  | get args _ | getRange args _ _ | pop args _ | popRange args _ _ => args

section

variable (engine : Engine) (client : Client) (oracle : Oracle)
variable (policies : Policies)

def method : ListRead → Method Reply
  | get args index => listGet engine client oracle (some (args, index))
  | getRange args index count =>
      listGetRange engine client oracle (some (args, index, count))
  | pop args index => listPop engine client oracle (some (args, index))
  | popRange args index count =>
      listPopRange engine client oracle (some (args, index, count))

def operation : ListRead → Verdict Operation
  | get args index => .ok (plainOp .listGet args.bin (some index) none)
  | getRange args index count =>
      .ok (plainOp .listGetRange args.bin (some index) (some count))
  | pop args index => do
      let _ ← serializerOf engine args.policy
      .ok (plainOp .listPop args.bin (some index) none)
  | popRange args index count =>
      .ok (plainOp .listPopRange args.bin (some index) (some count))

/-- The request that the call sends, if it sends one. -/
def verdict (call : ListRead) : Verdict Request :=
  listVerdict engine client oracle policies call.args (call.operation engine)
    true

/-- The value of the bin in the answer. -/
def returned (call : ListRead) (request : Request) : Option AsVal :=
  answerBin (oracle.answer 0 request) call.args.bin

end

/-- What a successful call leaves in the variable: the value of the bin, or
null or an empty array where there is none. -/
def Delivered (rt : Runtime) : Option AsVal → Option Zval → Prop
  | some value, output => ∃ z, output = some z ∧ Corresponds rt value z
  | none, output => Blank output ∨ output = some (.array [])

end ListRead

/-- The call returned OK with a whole output, or an error with a blank one. -/
def Outcome.AllOrNothing (outcome : Outcome) (whole : Option Zval → Prop) :
    Prop :=
  (outcome.reply = some (.long .ok) ∧ whole outcome.state.output) ∨
    ∃ reply, outcome.reply = some reply ∧ reply.Failed ∧
      Blank outcome.state.output

/-! ## The output on the way to the request -/

def KeepsBlank (s s' : CallState) : Prop := Blank s.output → Blank s'.output

instance : ErrorFrame KeepsBlank where
  refl _ := id
  trans _ _ _ h h' := h' ∘ h
  errorOnly {s s'} _ _ houtput := by
    intro hblank
    rw [houtput]
    exact hblank

theorem keepsBlank_of_output {change : CallState → CallState}
    (houtput : ∀ s, Blank s.output → Blank (change s).output) :
    Moves KeepsBlank (modify change : Method Unit) := moves_modify houtput

instance : Moves KeepsBlank (setOutput .null) :=
  keepsBlank_of_output fun _ _ => .inr (.inl rfl)

instance {P : Type} (field : PolicyField P)
    (converter : P → ConvertedPolicy P) :
    Moves KeepsBlank (loadPolicy field converter) := ⟨fun _ => id⟩

section

variable {engine : Engine} {client : Client} {oracle : Oracle}

instance {P : Type} (field : PolicyField P)
    (converter : P → ConvertedPolicy P) (failure : Method Unit)
    [Moves KeepsBlank failure] :
    Moves KeepsBlank (requirePolicy field converter failure) := by
  unfold requirePolicy
  infer_instance

instance (zPolicy : Option Zval) (failure : Method Unit)
    [Moves KeepsBlank failure] :
    Moves KeepsBlank (requireOperatePolicy engine zPolicy failure) := by
  unfold requireOperatePolicy
  infer_instance

instance (args : ListArgs) :
    Moves KeepsBlank (setupListOperationVariables engine args) := by
  unfold setupListOperationVariables
  infer_instance

instance (op : OpType) (bin : String) (index count : Option Int64) :
    Moves KeepsBlank (plainOperation op bin index count) := by
  unfold plainOperation
  infer_instance

instance (args : ListArgs) (index : Int64) :
    Moves KeepsBlank (getOperation args index) := by
  unfold getOperation
  infer_instance

instance (args : ListArgs) (index : Int64) :
    Moves KeepsBlank (popOperation engine args index) := by
  unfold popOperation
  infer_instance

instance (args : ListArgs) (makeOperation : Method Operation)
    (notAdded : Method Unit) [Moves KeepsBlank makeOperation]
    [Moves KeepsBlank notAdded] :
    Moves KeepsBlank
      (listRequest engine oracle args makeOperation notAdded) := by
  unfold listRequest
  infer_instance

end

/-! ## Rules -/

section

variable {engine : Engine} {client : Client} {oracle : Oracle}
variable {policies : Policies} {p q : Assertion}
variable {rest : Answer → Method Reply}

def DeliversAt (oracle : Oracle) (rest : Answer → Method Reply)
    (requests : List Request) :
    Verdict Request → Except Exit Reply × CallState → Prop
  | .ok request, result => ∃ s', Blank s'.output ∧
      s'.err = (oracle.answer requests.length request).err ∧
      result = (rest (oracle.answer requests.length request)).run s'
  | .error halt, result =>
      Blank result.2.output ∧ HaltsAt false requests halt result

/-- From a state with `p` and a blank output, the method halts with a blank
output, or it goes on as `rest` says with the answer to its request, the output
still blank. -/
def Delivers (oracle : Oracle) (p : Assertion) (rest : Answer → Method Reply)
    (method : Method Reply) (verdict : Verdict Request) : Prop :=
  ∀ s, p s.err s.policies → Blank s.output →
    DeliversAt oracle rest s.requests verdict (method.run s)

theorem delivers_bind {α : Type} {body : Method α} {next : α → Method Reply}
    {verdict : Verdict α} {verdicts : α → Verdict Request}
    (hbody : Yields false p body verdict q) [hkeeps : Moves KeepsBlank body]
    (hnext : ∀ value, Delivers oracle q rest (next value) (verdicts value)) :
    Delivers oracle p rest (body >>= next) (verdict >>= verdicts) := by
  intro s hs hblank
  have hrun := hbody s hs
  have houtput := hkeeps.moves s hblank
  cases verdict with
  | ok value =>
      obtain ⟨s', hrun, hrequests, hs'⟩ := hrun
      rw [hrun] at houtput
      have hrest := hnext value s' hs' houtput
      rw [hrequests] at hrest
      rw [run_bind_ok hrun]
      exact hrest
  | error halt =>
      obtain ⟨exit, s', hrun, hend⟩ := hrun
      rw [hrun] at houtput
      rw [run_bind_error hrun]
      exact ⟨houtput, exit, s', rfl, hend⟩

theorem delivers_seq {α : Type} {body : Method α} {next : α → Method Reply}
    {value : α} {verdict : Verdict Request}
    (hbody : Yields false p body (.ok value) q) [Moves KeepsBlank body]
    (hnext : Delivers oracle q rest (next value) verdict) :
    Delivers oracle p rest (body >>= next) verdict := by
  intro s hs hblank
  obtain ⟨s', hrun, hrequests, hs'⟩ := hbody s hs
  have hkeeps : Moves KeepsBlank body := inferInstance
  have houtput := hkeeps.moves s hblank
  rw [hrun] at houtput
  have hrest := hnext s' hs' houtput
  rw [hrequests] at hrest
  rw [run_bind_ok hrun]
  exact hrest

theorem withCleanup_bind_ok {α β : Type} {body : Method β}
    {next : β → Method Unit} {cleanup : Method α} {s s' : CallState} {value : β}
    (hbody : body.run s = (.ok value, s')) :
    (withCleanup (body >>= next) cleanup).run s =
      (withCleanup (next value) cleanup).run s' := by
  unfold withCleanup
  rw [run_bind, run_bind, run_catchExit, run_catchExit, run_bind_ok hbody]

theorem delivers_withCleanup {request : Method Request}
    {useResult : Answer → Method Unit} {cleanup : Method Reply}
    {verdict : Verdict Request} (hrequest : Yields true p request verdict q)
    [hkeeps : Moves KeepsBlank request] [hcleanup : Moves KeepsBlank cleanup]
    (hreports : Reports cleanup) :
    Delivers oracle p (fun answer => withCleanup (useResult answer) cleanup)
      (withCleanup (do
        let request ← request
        let answer ← issue oracle request
        useResult answer) cleanup) verdict := by
  intro s hs hblank
  have hrun := hrequest s hs
  have houtput := hkeeps.moves s hblank
  cases verdict with
  | ok request =>
      obtain ⟨s', hrun, hrequests, -⟩ := hrun
      rw [hrun] at houtput
      rw [← hrequests]
      obtain ⟨s'', hissue, hblank', herr⟩ : ∃ s'', (issue oracle request).run s' =
          (.ok (oracle.answer s'.requests.length request), s'') ∧
          Blank s''.output ∧
          s''.err = (oracle.answer s'.requests.length request).err :=
        ⟨_, rfl, houtput, rfl⟩
      exact ⟨s'', hblank', herr,
        (withCleanup_bind_ok hrun).trans (withCleanup_bind_ok hissue)⟩
  | error halt =>
      obtain ⟨exit, s', hrun, hend⟩ := hrun
      rw [hrun] at houtput
      have hbody := @run_bind_error _ _ _ _ _ (fun request => do
        let answer ← issue oracle request
        useResult answer) _ _ _ hrun
      refine ⟨?_, withCleanup_halts ⟨exit, s', hbody, hend⟩ hreports⟩
      unfold withCleanup
      rw [run_bind, run_catchExit, hbody]
      cases exit with
      | cleanup => exact hcleanup.moves s' houtput
      | ret reply => exact houtput
      | crash => exact houtput

end

/-! ## The methods -/

section

variable {engine : Engine} {client : Client} {oracle : Oracle}
variable {policies : Policies}

instance : Moves KeepsBlank notAddedCode :=
  inferInstanceAs (Moves KeepsBlank (failCode .errClient _ : Method Unit))

instance : Moves KeepsBlank notAddedErr :=
  inferInstanceAs (Moves KeepsBlank (failCleanup .errClient _ : Method Unit))

theorem listGet_delivers (args : ListArgs) (index : Int64) :
    Delivers oracle (cleanWith policies)
      (fun answer => withCleanup
        (useReturned engine args.bin (pure ()) answer) cleanupErr)
      (listGet engine client oracle (some (args, index)))
      ((ListRead.get args index).verdict engine client oracle policies) := by
  unfold listGet ListRead.verdict listVerdict
  refine delivers_seq yields_resetClientError ?_
  refine delivers_bind yields_validateList fun _ => ?_
  refine delivers_seq (yields_pure (args, index)) ?_
  refine delivers_bind yields_checkBinName fun _ => ?_
  rw [listBody_eq]
  refine delivers_withCleanup (yields_listRequest ?_ notAdded_err)
    reports_cleanupErr
  exact yields_seq (yields_setOutput _) yields_plainOperation

theorem listGetRange_delivers (args : ListArgs) (index count : Int64) :
    Delivers oracle (cleanWith policies)
      (fun answer => withCleanup
        (useReturned engine args.bin (setOutput (.array [])) answer) cleanupErr)
      (listGetRange engine client oracle (some (args, index, count)))
      ((ListRead.getRange args index count).verdict engine client oracle
        policies) := by
  unfold listGetRange ListRead.verdict listVerdict
  refine delivers_seq yields_resetClientError ?_
  refine delivers_bind yields_validateList fun _ => ?_
  refine delivers_seq (yields_pure (args, index, count)) ?_
  refine delivers_seq (yields_setOutput _) ?_
  refine delivers_bind yields_checkBinName fun _ => ?_
  rw [listBody_eq]
  exact delivers_withCleanup (yields_listRequest yields_plainOperation
    notAdded_err) reports_cleanupErr

theorem listPop_delivers (args : ListArgs) (index : Int64) :
    Delivers oracle (cleanWith policies)
      (fun answer => withCleanup (usePopped engine args.bin answer) cleanupErr)
      (listPop engine client oracle (some (args, index)))
      ((ListRead.pop args index).verdict engine client oracle policies) := by
  unfold listPop ListRead.verdict listVerdict
  refine delivers_seq yields_resetClientError ?_
  refine delivers_bind yields_validateList fun _ => ?_
  refine delivers_seq (yields_pure (args, index)) ?_
  refine delivers_bind yields_checkBinName fun _ => ?_
  refine delivers_seq (yields_setOutput _) ?_
  rw [listBody_eq]
  refine delivers_withCleanup (yields_listRequest ?_ notAdded_code)
    reports_cleanupErr
  exact yields_bind yields_requireSerializer fun _ => yields_plainOperation

theorem listPopRange_delivers (args : ListArgs) (index count : Int64) :
    Delivers oracle (cleanWith policies)
      (fun answer => withCleanup (usePopped engine args.bin answer) cleanupErr)
      (listPopRange engine client oracle (some (args, index, count)))
      ((ListRead.popRange args index count).verdict engine client oracle
        policies) := by
  unfold listPopRange ListRead.verdict listVerdict
  refine delivers_seq yields_resetClientError ?_
  refine delivers_bind yields_validateList fun _ => ?_
  refine delivers_seq (yields_pure (args, index, count)) ?_
  refine delivers_seq (yields_setOutput _) ?_
  refine delivers_bind yields_checkBinName fun _ => ?_
  rw [listBody_eq]
  exact delivers_withCleanup (yields_listRequest yields_plainOperation
    notAdded_code) reports_cleanupErr

/-! ## The result -/

/-- The end of a list operation returns the code of the error object. -/
theorem call_withCleanupErr {body : Method Unit} {s s' : CallState}
    {result : Except Exit Unit} (hbody : body.run s = (result, s'))
    (hresult : result = .ok () ∨ result = .error .cleanup) :
    let outcome := (withCleanup body cleanupErr).call s
    outcome.reply = some (.long s'.err.code) ∧
      outcome.state.output = s'.output ∧
        outcome.state.requests = s'.requests := by
  have hcleanup : ∃ s'', cleanupErr.run s' =
      (.error (.ret (.long s'.err.code)), s'') ∧ s''.output = s'.output ∧
        s''.requests = s'.requests := by
    unfold cleanupErr runIf
    rw [run_bind_ok (run_get s')]
    split <;> exact ⟨_, rfl, rfl, rfl⟩
  obtain ⟨s'', hcleanup, houtput, hrequests⟩ := hcleanup
  have hrun : (withCleanup body cleanupErr).run s =
      (.error (.ret (.long s'.err.code)), s'') := by
    unfold withCleanup
    rw [run_bind, run_catchExit, hbody]
    rcases hresult with rfl | rfl <;> exact hcleanup
  simp [Method.call, hrun, houtput, hrequests]

theorem writeOutput_run (converter : AsError → Converted Zval) (s : CallState) :
    (writeOutput converter).run s =
      (.ok (converter s.err).status, { s with
        err := (converter s.err).err
        output := (converter s.err).val <|> s.output }) := by
  unfold writeOutput
  cases hval : (converter s.err).val with
  | none => simp [convert, forSome, setErrTo, Proc.run_bind, hval]
  | some z => simp [convert, forSome, setErrTo, setOutput, Proc.run_bind, hval]

/-- What the use of an answer comes to: nothing after an error, an empty output
for a missing bin, and otherwise the converted value, with an error where it
does not convert. -/
structure UsesResult (engine : Engine) (bin : String)
    (useResult : Answer → Method Unit) : Prop where
  refused : ∀ (answer : Answer) (s : CallState), s.err = answer.err →
    answer.err.code ≠ .ok → (useResult answer).run s = (.error .cleanup, s)
  missing : ∀ (answer : Answer) (s : CallState), s.err = answer.err →
    answer.err.code = .ok → Blank s.output → answerBin answer bin = none →
    ∃ s', (useResult answer).run s = (.ok (), s') ∧ s'.err = s.err ∧
      ListRead.Delivered engine.rt none s'.output
  found : ∀ (answer : Answer) (s : CallState), s.err = answer.err →
    answer.err.code = .ok → ∀ value, answerBin answer bin = some value →
    let converted := asValToZval engine.rt value s.err
    ∃ s', (useResult answer).run s = (.ok (), s') ∧
      (s'.err.code = .ok ↔ converted.status = .ok) ∧
      s'.output = (converted.val <|> s.output)

theorem asValToZval_err_iff (value : AsVal) {err : AsError}
    (herr : err.code = .ok) :
    (asValToZval engine.rt value err).err.code = .ok ↔
      (asValToZval engine.rt value err).status = .ok := by
  have hdecodes := @asValToZval_decodes engine.rt value err herr
  cases hdecode : decode engine.rt value with
  | none =>
      rw [hdecode] at hdecodes
      simp [hdecodes.1, hdecodes.2.1]
  | some z =>
      rw [hdecode] at hdecodes
      have hconverted : asValToZval engine.rt value err = ⟨.ok, some z, err⟩ :=
        hdecodes
      simp [hconverted, herr]

theorem cleanupOnError_run_ok {s : CallState} (herr : s.err.code = .ok) :
    cleanupOnError.run s = (.ok (), s) := by
  unfold cleanupOnError
  rw [run_bind_ok (run_get s), runIf_neg (by simpa using herr)]
  rfl

theorem cleanupOnError_run_error {s : CallState} (herr : s.err.code ≠ .ok) :
    cleanupOnError.run s = (.error .cleanup, s) := by
  unfold cleanupOnError
  rw [run_bind_ok (run_get s), runIf_pos herr]
  rfl

theorem usePopped_usesResult (bin : String) :
    UsesResult engine bin (usePopped engine bin) where
  refused answer s herr hcode := by
    rw [← herr] at hcode
    unfold usePopped
    exact run_bind_error (cleanupOnError_run_error hcode)
  missing answer s herr hcode hblank hnone := by
    rw [← herr] at hcode
    unfold usePopped
    rw [run_bind_ok (cleanupOnError_run_ok hcode), hnone]
    exact ⟨s, rfl, rfl, .inl hblank⟩
  found answer s herr hcode value hvalue := by
    intro converted
    rw [← herr] at hcode
    have hstatus := @asValToZval_err_iff engine value _ hcode
    unfold usePopped
    rw [run_bind_ok (cleanupOnError_run_ok hcode), hvalue]
    unfold forSome
    rw [run_bind_ok (writeOutput_run _ s)]
    unfold runIf
    split <;> exact ⟨_, rfl, hstatus, rfl⟩

theorem useReturned_usesResult {missing : Method Unit} (bin : String)
    (hmissing : ∀ s : CallState, Blank s.output →
      ∃ s', missing.run s = (.ok (), s') ∧ s'.err = s.err ∧
        ListRead.Delivered engine.rt none s'.output) :
    UsesResult engine bin (useReturned engine bin missing) where
  refused answer s herr hcode := by
    rw [← herr] at hcode
    unfold useReturned
    exact run_bind_error (cleanupOnError_run_error hcode)
  missing answer s herr hcode hblank hnone := by
    rw [← herr] at hcode
    obtain ⟨s', hrun, herr', hdelivered⟩ := hmissing s hblank
    have hisNone : (answerBin answer bin).isNone = true := by rw [hnone]; rfl
    unfold useReturned
    rw [run_bind_ok (cleanupOnError_run_ok hcode), runIf_pos hisNone,
      run_bind_ok hrun, hnone]
    exact ⟨s', rfl, herr', hdelivered⟩
  found answer s herr hcode value hvalue := by
    intro converted
    rw [← herr] at hcode
    have hstatus := @asValToZval_err_iff engine value _ hcode
    unfold useReturned
    rw [run_bind_ok (cleanupOnError_run_ok hcode), hvalue,
      runIf_neg (by simp), run_bind_ok (run_pure () s)]
    unfold forSome
    rw [run_bind_ok (writeOutput_run _ s)]
    by_cases hfailed : converted.status = .ok
    · rw [runIf_neg (by simpa using hfailed)]
      exact ⟨_, rfl, hstatus, rfl⟩
    · rw [runIf_pos hfailed]
      refine ⟨_, rfl, ?_, rfl⟩
      simp [hfailed]

theorem blank_orElse {val output : Option Zval} (hblank : Blank output) :
    Blank (val <|> output) ↔ Blank val := by
  cases val with
  | none =>
      have hnone : Blank none := .inl rfl
      simp [hblank, hnone]
  | some z => rfl

/-- What the method comes to once it has the answer. -/
theorem usesResult_allOrNothing_iff {bin : String}
    {useResult : Answer → Method Unit} (huses : UsesResult engine bin useResult)
    {answer : Answer} {s : CallState} (herr : s.err = answer.err)
    (hblank : Blank s.output) :
    ((withCleanup (useResult answer) cleanupErr).call s).AllOrNothing
        (ListRead.Delivered engine.rt (answerBin answer bin)) ↔
      (answer.err.code = .ok → ∀ value, answerBin answer bin = some value →
        ConvertsWhole engine.rt value) := by
  by_cases hcode : answer.err.code = .ok
  · cases hvalue : answerBin answer bin with
    | none =>
        obtain ⟨s', hrun, herr', hdelivered⟩ :=
          huses.missing answer s herr hcode hblank hvalue
        obtain ⟨hreply, houtput, -⟩ := call_withCleanupErr hrun (.inl rfl)
        refine iff_of_true (.inl ⟨?_, ?_⟩) (by simp)
        · rw [hreply, herr', herr, hcode]
        · rw [houtput]
          exact hdelivered
    | some value =>
        obtain ⟨s', hrun, hstatus, houtput'⟩ :=
          huses.found answer s herr hcode value hvalue
        obtain ⟨hreply, houtput, -⟩ := call_withCleanupErr hrun (.inl rfl)
        have hclean : s.err.code = .ok := by rw [herr, hcode]
        have hwhole := @asValToZval_allOrNothing_iff engine.rt value _ hclean
        have hiff : (answer.err.code = .ok → ∀ value', some value = some value' →
            ConvertsWhole engine.rt value') ↔ ConvertsWhole engine.rt value := by
          simp [hcode]
        rw [hiff, ← hwhole]
        unfold Outcome.AllOrNothing Converted.AllOrNothing
        rw [hreply, houtput, houtput', blank_orElse hblank]
        by_cases hok : (asValToZval engine.rt value s.err).status = .ok
        · have hcode' : s'.err.code = .ok := hstatus.mpr hok
          have hval : ∃ z, (asValToZval engine.rt value s.err).val = some z := by
            have hdecodes := @asValToZval_decodes engine.rt value _ hclean
            cases hdecode : decode engine.rt value with
            | none =>
                rw [hdecode] at hdecodes
                exact absurd hok hdecodes.1
            | some z =>
                rw [hdecode] at hdecodes
                exact ⟨z, congrArg Converted.val hdecodes⟩
          obtain ⟨z, hz⟩ := hval
          simp [hok, hcode', hz, ListRead.Delivered, Reply.Failed]
        · have hcode' : s'.err.code ≠ .ok := fun h => hok (hstatus.mp h)
          simp [hok, hcode', Reply.Failed]
  · have hrun := huses.refused answer s herr hcode
    obtain ⟨hreply, houtput, -⟩ := call_withCleanupErr hrun (.inr rfl)
    refine iff_of_true (.inr ⟨_, hreply, ?_, ?_⟩) ?_
    · show s.err.code ≠ .ok
      rw [herr]
      exact hcode
    · rw [houtput]
      exact hblank
    · intro hok
      exact absurd hok hcode

/-! ## All or nothing -/

theorem call_of_run_eq {method method' : Method Reply} {s s' : CallState}
    (hrun : method.run s = method'.run s') : method.call s = method'.call s' := by
  unfold Method.call
  rw [hrun]

theorem verdict_bind_ne_crashed {α β : Type} {verdict : Verdict α}
    {next : α → Verdict β} (hverdict : verdict ≠ .error .crashed)
    (hnext : ∀ value, next value ≠ .error .crashed) :
    (verdict >>= next) ≠ .error .crashed := by
  cases verdict with
  | ok value => exact hnext value
  | error halt =>
      intro hcrashed
      exact hverdict (congrArg Except.error (Except.error.inj hcrashed))

theorem checked_ne_crashed {α : Type} {condition : Prop} [Decidable condition]
    {value : α} :
    (if condition then .ok value else .error .failed : Verdict α) ≠
      .error .crashed := by
  split <;> simp

theorem ListRead.verdict_ne_crashed (call : ListRead) :
    call.verdict engine client oracle policies ≠ .error .crashed := by
  have hoperation : call.operation engine ≠ .error .crashed := by
    cases call with
    | get | getRange | popRange => simp [ListRead.operation]
    | pop args index =>
        exact verdict_bind_ne_crashed checked_ne_crashed (by simp)
  unfold ListRead.verdict listVerdict
  refine verdict_bind_ne_crashed checked_ne_crashed fun _ => ?_
  refine verdict_bind_ne_crashed checked_ne_crashed fun _ => ?_
  refine verdict_bind_ne_crashed present_ne_crashed fun key => ?_
  refine verdict_bind_ne_crashed checked_ne_crashed fun policy => ?_
  refine verdict_bind_ne_crashed checked_ne_crashed fun gen => ?_
  refine verdict_bind_ne_crashed checked_ne_crashed fun ttl => ?_
  refine verdict_bind_ne_crashed hoperation fun op => ?_
  exact verdict_bind_ne_crashed checked_ne_crashed (by simp)

/-- The call is answered with a value, if at all, that is converted whole or
not at all. -/
def ListRead.AnswersWhole (engine : Engine) (client : Client) (oracle : Oracle)
    (policies : Policies) (call : ListRead) : Prop :=
  ∀ request, call.verdict engine client oracle policies = .ok request →
    (oracle.answer 0 request).err.code = .ok →
    ∀ value, call.returned oracle request = some value →
      ConvertsWhole engine.rt value

/-- The output is what the answer to the call's request holds. -/
def ListRead.Receives (engine : Engine) (client : Client) (oracle : Oracle)
    (policies : Policies) (call : ListRead) (output : Option Zval) : Prop :=
  ∃ request, call.verdict engine client oracle policies = .ok request ∧
    ListRead.Delivered engine.rt (call.returned oracle request) output

theorem allOrNothing_of_delivers {call : ListRead}
    {useResult : Answer → Method Unit}
    (hdelivers : Delivers oracle (cleanWith policies)
      (fun answer => withCleanup (useResult answer) cleanupErr)
      (call.method engine client oracle)
      (call.verdict engine client oracle policies))
    (huses : UsesResult engine call.args.bin useResult)
    (clientError : AsError) :
    ((call.method engine client oracle).call
        (.start policies clientError)).AllOrNothing
        (call.Receives engine client oracle policies) ↔
      call.AnswersWhole engine client oracle policies := by
  have hrun := hdelivers (.start policies clientError) ⟨rfl, rfl⟩ (.inl rfl)
  have hcrashed : call.verdict engine client oracle policies ≠ .error .crashed :=
    call.verdict_ne_crashed
  unfold ListRead.AnswersWhole ListRead.Receives
  cases hverdict : call.verdict engine client oracle policies with
  | ok request =>
      rw [hverdict] at hrun
      obtain ⟨s', hblank, herr, hrest⟩ := hrun
      have hiff := usesResult_allOrNothing_iff huses herr hblank
      rw [call_of_run_eq hrest]
      simp only [Except.ok.injEq, exists_eq_left', forall_eq']
      exact hiff
  | error halt =>
      rw [hverdict] at hrun hcrashed
      obtain ⟨hblank, exit, s', hresult, -, hhalts⟩ := hrun
      cases halt with
      | crashed => exact absurd rfl hcrashed
      | failed =>
          refine iff_of_true (.inr ?_) (by simp)
          cases exit with
          | ret reply =>
              have hcall : (call.method engine client oracle).call
                  (.start policies clientError) = ⟨some reply, s'⟩ := by
                simp [Method.call, hresult]
              rw [hresult] at hblank
              rw [hcall]
              exact ⟨reply, rfl, hhalts, hblank⟩
          | cleanup => exact absurd hhalts.1 (by simp)
          | crash => exact hhalts.elim

theorem ListRead.allOrNothing_iff (call : ListRead) (clientError : AsError) :
    ((call.method engine client oracle).call
        (.start policies clientError)).AllOrNothing
        (call.Receives engine client oracle policies) ↔
      call.AnswersWhole engine client oracle policies := by
  have hnothing : ∀ s : CallState, Blank s.output →
      ∃ s', (pure () : Method Unit).run s = (.ok (), s') ∧ s'.err = s.err ∧
        ListRead.Delivered engine.rt none s'.output :=
    fun s hblank => ⟨s, rfl, rfl, .inl hblank⟩
  have hempty : ∀ s : CallState, Blank s.output →
      ∃ s', (setOutput (.array [])).run s = (.ok (), s') ∧ s'.err = s.err ∧
        ListRead.Delivered engine.rt none s'.output :=
    fun s _ => ⟨_, rfl, rfl, .inr rfl⟩
  cases call with
  | get args index =>
      exact allOrNothing_of_delivers (listGet_delivers args index)
        (useReturned_usesResult args.bin hnothing) clientError
  | getRange args index count =>
      exact allOrNothing_of_delivers (listGetRange_delivers args index count)
        (useReturned_usesResult args.bin hempty) clientError
  | pop args index =>
      exact allOrNothing_of_delivers (listPop_delivers args index)
        (usePopped_usesResult args.bin) clientError
  | popRange args index count =>
      exact allOrNothing_of_delivers (listPopRange_delivers args index count)
        (usePopped_usesResult args.bin) clientError

end

/-- Decoding is all or nothing exactly for the values without nil, boolean or
clashing keys, as far as they can be decoded at all, and for those that leave
no rest behind, as far as they cannot. -/
theorem decoding_allOrNothing_iff (engine : Engine) (client : Client)
    (oracle : Oracle) (policies : Policies) (clientError : AsError)
    {err : AsError} (herr : err.code = .ok) :
    (∀ value : AsVal, (asValToZval engine.rt value err).AllOrNothing
        (Corresponds engine.rt value) ↔ ConvertsWhole engine.rt value) ∧
    (∀ record : AsRecord, (asBinsToZval engine.rt record err).AllOrNothing
        (CorrespondBins engine.rt record.bins) ↔
      (DecodableBins engine.rt record.bins →
        DefiniteBins engine.rt record.bins)) ∧
    (∀ (record : AsRecord) (key : AsKey) (showPk : Bool),
      (asRecordToZval engine.rt record key showPk err).AllOrNothing
        (CorrespondRecord engine.rt record) ↔
      (DecodableBins engine.rt record.bins → strlen key.ns ≠ 0 →
        DefiniteBins engine.rt record.bins)) ∧
    ∀ call : ListRead,
      ((call.method engine client oracle).call
        (.start policies clientError)).AllOrNothing
        (call.Receives engine client oracle policies) ↔
      call.AnswersWhole engine client oracle policies :=
  ⟨fun value => asValToZval_allOrNothing_iff value herr,
    fun record => asBinsToZval_allOrNothing_iff record herr,
    fun record key showPk => asRecordToZval_allOrNothing_iff record key showPk
      herr,
    fun call => call.allOrNothing_iff clientError⟩

theorem decoding_allOrNothing_iff_nil :
    (asValToZval Engine.plain.rt .nil .init).AllOrNothing
        (Corresponds Engine.plain.rt .nil) ↔
      ConvertsWhole Engine.plain.rt .nil :=
  (decoding_allOrNothing_iff Engine.plain .connected .accepting default .init
    AsError.init_code).1 .nil

/-- A nil in a list becomes a hole in an array that is reported as converted. -/
theorem nilInList_not_allOrNothing :
    ¬ (asValToZval Runtime.plain (.list [.nil]) .init).AllOrNothing
      (Corresponds Runtime.plain (.list [.nil])) := by
  intro hwhole
  have hlist := (asValToZval_allOrNothing_iff (.list [.nil]) rfl).mp hwhole
  have hdecodable : Decodable Runtime.plain (.list [.nil]) := by
    simp [Decodable, DecodableItems]
  have hdefinite := hlist.1 hdecodable
  simp [Definite, DefiniteItems] at hdefinite

end AerospikePhp
