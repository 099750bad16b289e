import AerospikePhp.StatusesTold
import AerospikePhp.KeyRoundTrips
import Mathlib.Tactic

/-!
# Calls that slip

Most calls tell the status that they return.  The others reach one of a few
ways out: a code that is returned and not reported, a report that is made and
not returned, or a report that `CLEANUP` repeats without its text.
-/

namespace AerospikePhp

open Procedure Method Proc

set_option synthInstance.maxSize 1024

/-! ## When a piece tells -/

/-- From a quiet state with `p`, the piece goes on to a state with `D` and the
condition holds, or it leaves, and that is told exactly when the condition
holds. -/
def TellsWhen {α : Type} (p : Assertion) (C D : CallState → Prop)
    (body : Method α) (good : Prop) : Prop :=
  ∀ s, s.Quiet → p s.err s.policies →
    match body.run s with
    | (.ok _, s') => D s' ∧ good
    | (.error exit, s') => exit.Tells C s' ↔ good

section

variable {α β : Type} {inner : Bool} {p q : Assertion}
variable {C D : CallState → Prop}

theorem tellsWhen_of_ends {body : Method α}
    (hbody : Ends CallState.Quiet body (fun _ => D) (Exit.Tells C)) :
    TellsWhen p C D body True := by
  intro s hs _
  have hrun := hbody s hs
  cases hresult : body.run s with
  | mk outcome s' =>
      rw [hresult] at hrun
      cases outcome with
      | ok value => exact ⟨hrun, trivial⟩
      | error exit => exact iff_of_true hrun trivial

theorem tellsWhen_tells {body : Method α}
    [hbody : Tells CallState.Quiet C body] :
    TellsWhen p C CallState.Quiet body True :=
  tellsWhen_of_ends hbody.ends

/-- Both parts have to tell, the second one where the first goes on. -/
theorem tellsWhen_bind {body : Method β} {next : β → Method α} {good : Prop}
    {verdict : Verdict β} {rest : β → Prop}
    (hbody : TellsWhen p C CallState.Quiet body good)
    (hyields : Yields inner p body verdict q)
    (hnext : ∀ value, TellsWhen q C D (next value) (rest value)) :
    TellsWhen p C D (body >>= next)
      (good ∧ ∀ value, verdict = .ok value → rest value) := by
  intro s hs hp
  have hfirst := hbody s hs hp
  have hrun := hyields s hp
  cases verdict with
  | ok value =>
      obtain ⟨s', hrun, -, hq⟩ := hrun
      rw [hrun] at hfirst
      rw [run_bind_ok hrun]
      have hgood : (good ∧ ∀ v, (.ok value : Verdict β) = .ok v → rest v) ↔
          rest value := by
        refine ⟨fun hall => hall.2 value rfl, fun hrest => ⟨hfirst.2, ?_⟩⟩
        rintro v ⟨⟩
        exact hrest
      rw [hgood]
      exact hnext value s' hfirst.1 hq
  | error halt =>
      obtain ⟨exit, s', hrun, -⟩ := hrun
      rw [hrun] at hfirst
      rw [run_bind_error hrun]
      exact hfirst.trans (by simp)

/-- A piece that tells only decides whether the rest is reached. -/
theorem tellsWhen_after {body : Method β} {next : β → Method α}
    [Tells CallState.Quiet C body] {verdict : Verdict β}
    {rest : β → Prop} (hyields : Yields inner p body verdict q)
    (hnext : ∀ value, TellsWhen q C D (next value) (rest value)) :
    TellsWhen p C D (body >>= next)
      (∀ value, verdict = .ok value → rest value) := by
  have hboth := tellsWhen_bind tellsWhen_tells hyields hnext
  simpa using hboth

/-- A piece that always goes on does not show in the condition. -/
theorem tellsWhen_seq {body : Method β} {value : β} {next : β → Method α}
    [Tells CallState.Quiet C body] {rest : Prop}
    (hyields : Yields inner p body (.ok value) q)
    (hnext : TellsWhen q C D (next value) rest) :
    TellsWhen p C D (body >>= next) rest := by
  intro s hs hp
  have htells : Tells CallState.Quiet C body := inferInstance
  have hfirst := htells.ends s hs
  obtain ⟨s', hrun, -, hq⟩ := hyields s hp
  rw [hrun] at hfirst
  rw [run_bind_ok hrun]
  exact hnext s' hfirst hq

theorem tellsWhen_congr {body : Method α} {good good' : Prop}
    (hbody : TellsWhen p C D body good) (hiff : good ↔ good') :
    TellsWhen p C D body good' := by
  obtain rfl := propext hiff
  exact hbody

theorem tellsWhen_runIf {bad good : Prop} [Decidable bad]
    {failure : Method Unit}
    (hfailure : bad → TellsWhen p C CallState.Quiet failure good) :
    TellsWhen p C CallState.Quiet (runIf bad failure) (bad → good) := by
  intro s hs hp
  by_cases hbad : bad
  · have hfailed := hfailure hbad s hs hp
    rw [runIf_pos hbad]
    simpa [hbad] using hfailed
  · rw [runIf_neg hbad]
    exact ⟨hs, fun h => absurd h hbad⟩

/-- The usual `CLEANUP` returns the code, which is told in a settled state
only. -/
theorem cleanupErr_tells_iff (s : CallState) :
    ∃ s', cleanupErr.run s = (.error (.ret (.long s.err.code)), s') ∧
      (s'.Tells s.err.code ↔ s.Settled) := by
  unfold cleanupErr CallState.Settled
  rw [run_bind_ok (run_get s)]
  by_cases hcode : s.err.code = .ok
  · rw [runIf_neg (not_not.mpr hcode), if_pos hcode]
    refine ⟨s, rfl, ?_⟩
    simp [CallState.Tells, hcode]
  · rw [runIf_pos hcode, if_neg hcode]
    refine ⟨{ s with clientError := s.err }, rfl, ?_⟩
    simp [CallState.Tells, hcode]

theorem tellsWhen_withCleanup {body : Method Unit} {good : Prop}
    (hbody : TellsWhen p CallState.Settled CallState.Settled body good) :
    TellsWhen p C (fun _ => False) (withCleanup body cleanupErr) good := by
  intro s hs hp
  have hfirst := hbody s hs hp
  unfold withCleanup
  rw [run_bind, run_catchExit]
  cases hrun : body.run s with
  | mk outcome s' =>
      rw [hrun] at hfirst
      obtain ⟨s'', hcleanup, htells⟩ := cleanupErr_tells_iff s'
      cases outcome with
      | ok u =>
          dsimp only
          rw [hcleanup]
          exact htells.trans (iff_of_true hfirst.1 hfirst.2)
      | error exit =>
          cases exit with
          | cleanup =>
              have hcaught : (pure () : Method Unit).run s' = (.ok (), s') := rfl
              dsimp only
              rw [hcaught]
              dsimp only
              rw [hcleanup]
              exact htells.trans hfirst
          | ret reply => cases reply <;> exact hfirst
          | crash => exact hfirst

/-- A call that starts with a reset. -/
theorem call_tells_iff {rest : Method Reply} {policies : Policies}
    (clientError : AsError) {good : Prop}
    (hrest : TellsWhen (cleanWith policies) (fun _ => True) (fun _ => False) rest
      good) :
    ((resetClientError >>= fun _ => rest).call
      (.start policies clientError)).Tells ↔ good := by
  have hrun := hrest (.start policies .init) ⟨AsError.sound_init, rfl⟩ ⟨rfl, rfl⟩
  have hreset : ((resetClientError >>= fun _ => rest) : Method Reply).run
      (.start policies clientError) = rest.run (.start policies .init) := rfl
  unfold Method.call Outcome.Tells
  rw [hreset]
  cases hresult : rest.run (.start policies .init) with
  | mk outcome s' =>
      rw [hresult] at hrun
      cases outcome with
      | ok reply => exact hrun.1.elim
      | error exit =>
          cases exit with
          | ret reply =>
              cases reply with
              | long status => simpa [Exit.Tells] using hrun
              | null => simpa [Exit.Tells] using hrun
              | value z => simpa [Exit.Tells] using hrun
          | cleanup => simpa [Exit.Tells] using hrun
          | crash => simpa [Exit.Tells] using hrun

/-- The rest tells whatever the piece gives. -/
theorem tellsWhen_then {body : Method β} {next : β → Method α} {good : Prop}
    (hbody : TellsWhen p C CallState.Quiet body good)
    (hnext : ∀ value, Ends CallState.Quiet (next value) (fun _ => D)
      (Exit.Tells C)) :
    TellsWhen p C D (body >>= next) good := by
  intro s hs hp
  have hfirst := hbody s hs hp
  rw [run_bind]
  cases hrun : body.run s with
  | mk outcome s' =>
      rw [hrun] at hfirst
      cases outcome with
      | error exit => exact hfirst
      | ok value =>
          have hrest := hnext value s' hfirst.1
          dsimp only
          cases hresult : (next value).run s' with
          | mk outcome s'' =>
              rw [hresult] at hrest
              cases outcome with
              | ok v => exact ⟨hrest, hfirst.2⟩
              | error exit => exact iff_of_true hrest hfirst.2

/-- The code that replaces the one in the error object is told with the text
that the error object had before. -/
theorem failCode_tellsWhen {err : AsError} {code : AsStatus} {message : String}
    [hcode : IsFailure code] :
    TellsWhen (fun e _ => e = err) CallState.Settled D
      (failCode code message : Method α) (err.message ≠ "") := by
  rintro s _ rfl
  have hsettled : CallState.Settled
      { s with clientError := ⟨code, message, false⟩, err.code := code } ↔
        s.err.message ≠ "" := by
    unfold CallState.Settled
    rw [if_neg hcode.ne_ok]
  exact hsettled

theorem failCode_slips {code : AsStatus} {message : String} [IsFailure code] :
    TellsWhen clean CallState.Settled D (failCode code message : Method α)
      False :=
  tellsWhen_congr failCode_tellsWhen (by simp [AsError.init])

end

/-! ## The list operations -/

section

variable (engine : Engine) (client : Client) (oracle : Oracle)
variable (policies : Policies)

/-- What `setup_list_operation_variables` comes to. -/
def listSetupOf (args : ListArgs) : Verdict ListSetup := do
  let key ← present (keyOf engine.keyInit args.key)
  let policy ← operatePolicyOf engine policies args.policy
  let gen ← generationOf args.policy
  let ttl ← ttlOf args.policy
  .ok ⟨key, policy, gen, ttl⟩

/-- The call gets past its guard and its setup. -/
def ListArgs.Reaches (args : ListArgs) : Prop :=
  client.Ready ∧ args.bin.length ≤ asBinNameMaxLen ∧
    ∃ setup, listSetupOf engine policies args = .ok setup

/-- The serializer option is not well formed. -/
def BadSerializer (zPolicy : Option Zval) : Prop :=
  serializerOf engine zPolicy = .error .failed

/-- The value converts, and the C client does not add the operation. -/
def ValueNotAdded (zPolicy : Option Zval) (z : Zval) : Prop :=
  ∃ serializer, serializerOf engine zPolicy = .ok serializer ∧
    (encode engine.rt serializer z).isSome ∧ oracle.addOk 0 = false

/-- The items are no list, or they convert and are not added. -/
def ItemsNotAdded (zPolicy : Option Zval) (items : HashTable) : Prop :=
  ∃ serializer, serializerOf engine zPolicy = .ok serializer ∧
    (HashTable.hashtableIsList items = false ∨
      ((encodeItems engine.rt serializer items).isSome ∧ oracle.addOk 0 = false))

variable {engine client oracle policies}

variable {α : Type} {C D : CallState → Prop}

theorem listBody_tellsWhen {args : ListArgs} {makeOperation : Method Operation}
    {notAdded : Method Unit} {useResult : Answer → Method Unit} {good : Prop}
    [oracle.Explains]
    (hmake : TellsWhen clean CallState.Settled CallState.Quiet (do
      let op ← makeOperation
      runIf (oracle.addOk 0 = false) notAdded
      pure op) good)
    (huse : ∀ answer, Ends CallState.Quiet (useResult answer)
      (fun _ => CallState.Settled) (Exit.Tells CallState.Settled)) :
    TellsWhen (cleanWith policies) CallState.Settled CallState.Settled
      (listBody engine oracle args makeOperation notAdded useResult)
      (∀ setup, listSetupOf engine policies args = .ok setup → good) := by
  have hbody : listBody engine oracle args makeOperation notAdded useResult =
      (do
        let setup ← setupListOperationVariables engine args
        let op ← (do
          let op ← makeOperation
          runIf (oracle.addOk 0 = false) notAdded
          pure op)
        let answer ← issue oracle (.keyOperate (some setup.policy) setup.key
          (oneOperation (oracle.addOk 0) op setup.gen setup.ttl))
        useResult answer) := by
    unfold listBody
    simp only [bind_assoc]
    rfl
  rw [hbody]
  refine tellsWhen_after yields_setupList fun setup => ?_
  refine tellsWhen_then hmake fun op => ?_
  exact ends_bind Tells.ends huse

theorem listTail_tellsWhen {args : ListArgs} {body : Method Unit} {good : Prop}
    (hbody : TellsWhen (cleanWith policies) CallState.Settled CallState.Settled
      body (∀ setup, listSetupOf engine policies args = .ok setup → good)) :
    TellsWhen (cleanWith policies) C (fun _ => False) (do
        checkBinName args.bin
        withCleanup body cleanupErr)
      (args.bin.length ≤ asBinNameMaxLen →
        ∀ setup, listSetupOf engine policies args = .ok setup → good) := by
  refine tellsWhen_congr (tellsWhen_after (@yields_checkBinName false _ args.bin)
    fun _ => tellsWhen_withCleanup hbody) ?_
  simp

/-- The list operations that ask for a connection first. -/
theorem listMethod_tellsWhen {args : Option α} {failure : Method α}
    [Fails false failure] [Tells CallState.Quiet C failure]
    {toArgs : α → ListArgs} {tail : α → Method Reply} {good : α → Prop}
    (htail : ∀ a, TellsWhen (cleanWith policies) C (fun _ => False) (tail a)
      ((toArgs a).bin.length ≤ asBinNameMaxLen →
        ∀ setup, listSetupOf engine policies (toArgs a) = .ok setup → good a)) :
    TellsWhen (cleanWith policies) C (fun _ => False) (do
        validateListClient client
        let a ← orFail args failure
        tail a)
      (∀ a, args = some a → (toArgs a).Reaches engine client policies →
        good a) := by
  have hargs : Yields false (cleanWith policies) (orFail args failure)
    (present args) (cleanWith policies) := yields_orFail
  refine tellsWhen_congr (tellsWhen_after (@yields_validateList client false _)
    fun _ => tellsWhen_after hargs htail) ?_
  constructor
  · rintro hall a rfl ⟨hready, hfits, setup, hsetup⟩
    exact hall () (by simpa using hready) a (by simp) hfits setup hsetup
  · intro hall _ hready a hargs hfits setup hsetup
    exact hall a (by simpa using hargs) ⟨by simpa using hready, hfits, setup, hsetup⟩

/-! ### What becomes of the operation -/

theorem notAddedCode_tellsWhen :
    TellsWhen clean CallState.Settled CallState.Quiet
      (runIf (oracle.addOk 0 = false) notAddedCode) (¬ oracle.addOk 0 = false) :=
  tellsWhen_runIf fun _ => failCode_slips

theorem plainMake_tellsWhen {op : OpType} {bin : String}
    {index count : Option Int64} :
    TellsWhen clean CallState.Settled CallState.Quiet (do
      let op ← plainOperation op bin index count
      runIf (oracle.addOk 0 = false) notAddedCode
      pure op) (¬ oracle.addOk 0 = false) := by
  refine tellsWhen_seq (@yields_pure _ true clean _) ?_
  exact tellsWhen_then notAddedCode_tellsWhen fun _ => Tells.ends

theorem requireSerializer_tellsWhen {zPolicy : Option Zval} :
    TellsWhen clean CallState.Settled CallState.Quiet
      (requireSerializer engine zPolicy invalidSerializer)
      (¬ BadSerializer engine zPolicy) := by
  have hcheck : TellsWhen clean CallState.Settled CallState.Quiet
      (runIf ((setSerializerFromPolicyHash engine.iniSerializer
        (toInt32 engine.iniSerializer) zPolicy).1 ≠ .ok) invalidSerializer)
      _ := tellsWhen_runIf fun _ => failCode_slips
  unfold requireSerializer
  refine tellsWhen_congr (tellsWhen_then hcheck fun _ => Tells.ends) ?_
  unfold BadSerializer serializerOf
  split <;> simp_all

/-- The part of `convertItem` after its serializer, with the add call. -/
theorem convertTail_tellsWhen {serializer : SerializerType} {z : Zval}
    {notConverted notAdded : Method Unit} {make : Option AsVal → Operation}
    {good : Prop}
    (hnot : ∀ s : CallState, s.Quiet → s.err.code ≠ .ok →
      ∃ exit s', notConverted.run s = (.error exit, s') ∧
        exit.Tells CallState.Settled s')
    (hadded : TellsWhen clean CallState.Settled CallState.Quiet
      (runIf (oracle.addOk 0 = false) notAdded) good) :
    TellsWhen clean CallState.Settled CallState.Quiet (do
      let converted ← convert (zvalToAsVal engine.rt serializer z)
      runIf (converted.val.isNone ∨ converted.err.code ≠ .ok) notConverted
      runIf (oracle.addOk 0 = false) notAdded
      pure (make converted.val))
      ((encode engine.rt serializer z).isSome → good) := by
  intro s hs hclean
  have hcode : s.err.code = .ok := by
    rw [show s.err = .init from hclean]
    rfl
  have hrefines := zvalToAsVal_refines engine.rt serializer z hcode
  have hsound := hs.1.of_becomes
    (zvalToAsVal_becomes engine.rt serializer z s.err)
  have hconvert : (convert (zvalToAsVal engine.rt serializer z)).run s =
      (.ok (zvalToAsVal engine.rt serializer z s.err),
        { s with err := (zvalToAsVal engine.rt serializer z s.err).err }) := rfl
  rw [run_bind_ok hconvert]
  cases hvalue : encode engine.rt serializer z with
  | some value =>
      rw [hvalue] at hrefines
      rw [hrefines, runIf_neg (by simp [hcode])]
      have hrest : TellsWhen clean CallState.Settled CallState.Quiet (do
          runIf (oracle.addOk 0 = false) notAdded
          pure (make (some value)) : Method Operation)
          ((some value).isSome = true → good) :=
        tellsWhen_congr (tellsWhen_then hadded fun _ => Tells.ends) (by simp)
      exact hrest s hs hclean
  | none =>
      rw [hvalue] at hrefines
      obtain ⟨exit, s', hrun, htells⟩ := hnot
        { s with err := (zvalToAsVal engine.rt serializer z s.err).err }
        ⟨hsound, hs.2⟩ hrefines.2.2
      rw [runIf_pos (.inl (by simp [hrefines.2.1])), run_bind_error hrun]
      exact iff_of_true htells (by simp)

/-- The operation with a converted value. -/
theorem valueMake_tellsWhen {zPolicy : Option Zval} {z : Zval}
    {notConverted notAdded : Method Unit} {make : Option AsVal → Operation}
    {good : Prop}
    (hnot : ∀ s : CallState, s.Quiet → s.err.code ≠ .ok →
      ∃ exit s', notConverted.run s = (.error exit, s') ∧
        exit.Tells CallState.Settled s')
    (hadded : TellsWhen clean CallState.Settled CallState.Quiet
      (runIf (oracle.addOk 0 = false) notAdded) good) :
    TellsWhen clean CallState.Settled CallState.Quiet (do
      let op ← (do
        let value ← convertItem engine zPolicy z invalidSerializer notConverted
        pure (make value))
      runIf (oracle.addOk 0 = false) notAdded
      pure op)
      (¬ BadSerializer engine zPolicy ∧
        ∀ serializer, serializerOf engine zPolicy = .ok serializer →
          (encode engine.rt serializer z).isSome → good) := by
  have hserializer : Yields true clean (requireSerializer engine zPolicy
    invalidSerializer) (serializerOf engine zPolicy) clean :=
    yields_requireSerializer
  unfold convertItem
  simp only [bind_assoc, pure_bind]
  exact tellsWhen_bind requireSerializer_tellsWhen hserializer
    fun serializer => convertTail_tellsWhen hnot hadded

/-- The part of `convertItems` after its checks, with the add call.  An element
that does not convert leaves a text behind, with which a failed add call is
told. -/
theorem itemsTail_tellsWhen {serializer : SerializerType} {items : HashTable}
    {notConverted : Method Unit} {make : Option (List AsVal) → Operation} :
    TellsWhen clean CallState.Settled CallState.Quiet (do
      let converted ← convert (zHashtableToAsList engine.rt serializer items)
      runIf (converted.status ≠ .ok) notConverted
      runIf (oracle.addOk 0 = false) notAddedCode
      pure (make converted.val))
      ((encodeItems engine.rt serializer items).isSome →
        ¬ oracle.addOk 0 = false) := by
  have hconvert : Yields true clean
      (convert (zHashtableToAsList engine.rt serializer items)) _ _ :=
    yields_convert
  refine tellsWhen_seq hconvert ?_
  rw [runIf_neg (not_not.mpr
    (zHashtableToAsList_status engine.rt serializer items .init)),
    Proc.pure_bind]
  have hsound := AsError.sound_init.of_becomes
    (asListLoop_becomes engine.rt serializer items [] .init)
  have hnotAdded : TellsWhen
      (fun e _ => e = (zHashtableToAsList engine.rt serializer items .init).err)
      CallState.Settled CallState.Quiet
      (runIf (oracle.addOk 0 = false) notAddedCode) _ :=
    tellsWhen_runIf fun _ => failCode_tellsWhen
  refine tellsWhen_congr (tellsWhen_then hnotAdded fun _ => Tells.ends) ?_
  cases hitems : encodeItems engine.rt serializer items with
  | some list =>
      rw [zHashtableToAsList_of_some engine.rt serializer rfl hitems]
      simp [AsError.init]
  | none =>
      have hcode := (@zHashtableToAsList_of_none engine.rt serializer items
        .init rfl hitems).2
      have htext := AsError.Sound.failure_text hsound hcode
      exact iff_of_true (fun _ => htext) (by simp)

/-- The operation with a converted list. -/
theorem itemsMake_tellsWhen {zPolicy : Option Zval} {items : HashTable}
    {notList : String} {notConverted : Method Unit}
    {make : Option (List AsVal) → Operation} :
    TellsWhen clean CallState.Settled CallState.Quiet (do
      let op ← (do
        let list ← convertItems engine zPolicy items notList notConverted
        pure (make list))
      runIf (oracle.addOk 0 = false) notAddedCode
      pure op)
      (¬ BadSerializer engine zPolicy ∧
        ∀ serializer, serializerOf engine zPolicy = .ok serializer →
          ¬ HashTable.hashtableIsList items = false ∧
            ((encodeItems engine.rt serializer items).isSome →
              ¬ oracle.addOk 0 = false)) := by
  have hserializer : Yields true clean (requireSerializer engine zPolicy
    invalidSerializer) (serializerOf engine zPolicy) clean :=
    yields_requireSerializer
  have hlist : Yields true clean (runIf (HashTable.hashtableIsList items = false)
      (failCode .errParam notList : Method Unit))
      (ensure (HashTable.hashtableIsList items = true)) clean :=
    yields_check (by simp)
  unfold convertItems
  simp only [bind_assoc, pure_bind]
  refine tellsWhen_bind requireSerializer_tellsWhen hserializer
    fun serializer => ?_
  have htail := @itemsTail_tellsWhen engine oracle serializer items notConverted
    make
  refine tellsWhen_congr (tellsWhen_bind (tellsWhen_runIf fun _ =>
    failCode_slips) hlist fun _ => htail) ?_
  cases hitems : HashTable.hashtableIsList items <;> simp

/-- `listPop` looks at the serializer option before it adds. -/
theorem popMake_tellsWhen {args : ListArgs} {index : Int64} :
    TellsWhen clean CallState.Settled CallState.Quiet (do
      let op ← popOperation engine args index
      runIf (oracle.addOk 0 = false) notAddedCode
      pure op)
      (¬ BadSerializer engine args.policy ∧
        ∀ serializer, serializerOf engine args.policy = .ok serializer →
          ¬ oracle.addOk 0 = false) := by
  have hserializer : Yields true clean (requireSerializer engine args.policy
    invalidSerializer) (serializerOf engine args.policy) clean :=
    yields_requireSerializer
  unfold popOperation
  simp only [bind_assoc]
  exact tellsWhen_bind requireSerializer_tellsWhen hserializer
    fun serializer => plainMake_tellsWhen

/-- The report of `listAppend`, which is repeated. -/
theorem reportItem_tells (s : CallState) (hs : s.Quiet)
    (hcode : s.err.code ≠ .ok) :
    ∃ exit s', (do
        reportErr
        gotoCleanup : Method Unit).run s = (.error exit, s') ∧
      exit.Tells CallState.Settled s' :=
  ⟨.cleanup, { s with clientError := s.err }, rfl,
    settled_of_failure hcode (hs.1.failure_text hcode)⟩

/-- The report of `listInsert`, which is overwritten with the text of the
conversion. -/
theorem failItem_tells (code : AsStatus) [hfailure : IsFailure code]
    (message : String) (s : CallState) (hs : s.Quiet) (hcode : s.err.code ≠ .ok) :
    ∃ exit s', (failCode code message : Method Unit).run s = (.error exit, s') ∧
      exit.Tells CallState.Settled s' :=
  ⟨.cleanup, { s with clientError := ⟨code, message, false⟩, err.code := code },
    rfl, settled_of_failure hfailure.ne_ok (hs.1.failure_text hcode)⟩

/-- The two guards of `listMerge` stand in the other order. -/
theorem validate_reset_comm (rest : Method Reply) :
    (do
      validateListClient client
      resetClientError
      rest) = (do
      resetClientError
      validateListClient client
      rest) := by
  unfold validateListClient validateClientAndConnection
  split
  · rfl
  · split <;> rfl

theorem valueNotAdded_iff {zPolicy : Option Zval} {z : Zval} :
    (¬ BadSerializer engine zPolicy ∧
      ∀ serializer, serializerOf engine zPolicy = .ok serializer →
        (encode engine.rt serializer z).isSome → ¬ oracle.addOk 0 = false) ↔
      ¬ (BadSerializer engine zPolicy ∨ ValueNotAdded engine oracle zPolicy z) := by
  rw [not_or]
  refine and_congr_right fun _ => ⟨?_, ?_⟩
  · rintro hall ⟨serializer, hserializer, hvalue, hadd⟩
    exact hall serializer hserializer hvalue hadd
  · intro hnot serializer hserializer hvalue hadd
    exact hnot ⟨serializer, hserializer, hvalue, hadd⟩

theorem itemsNotAdded_iff {zPolicy : Option Zval} {items : HashTable} :
    (¬ BadSerializer engine zPolicy ∧
      ∀ serializer, serializerOf engine zPolicy = .ok serializer →
        ¬ HashTable.hashtableIsList items = false ∧
          ((encodeItems engine.rt serializer items).isSome →
            ¬ oracle.addOk 0 = false)) ↔
      ¬ (BadSerializer engine zPolicy ∨
        ItemsNotAdded engine oracle zPolicy items) := by
  rw [not_or]
  refine and_congr_right fun _ => ⟨?_, ?_⟩
  · rintro hall ⟨serializer, hserializer, hlist | ⟨hitems, hadd⟩⟩
    · exact (hall serializer hserializer).1 hlist
    · exact (hall serializer hserializer).2 hitems hadd
  · intro hnot serializer hserializer
    exact ⟨fun hlist => hnot ⟨serializer, hserializer, .inl hlist⟩,
      fun hitems hadd => hnot ⟨serializer, hserializer, .inr ⟨hitems, hadd⟩⟩⟩

/-- `listPop` adds only after it has looked at the serializer. -/
theorem popNotAdded_iff {zPolicy : Option Zval} :
    (¬ BadSerializer engine zPolicy ∧
      ∀ serializer, serializerOf engine zPolicy = .ok serializer →
        ¬ oracle.addOk 0 = false) ↔
      ¬ (BadSerializer engine zPolicy ∨ oracle.addOk 0 = false) := by
  rw [not_or]
  refine and_congr_right fun hgood => ⟨fun hall => ?_, fun hnot _ _ => hnot⟩
  cases hserializer : serializerOf engine zPolicy with
  | ok serializer => exact hall serializer hserializer
  | error halt =>
      refine absurd ?_ hgood
      unfold BadSerializer
      unfold serializerOf at hserializer ⊢
      split at hserializer
      · cases hserializer
      · next hstatus => rw [if_neg hstatus]

end

end AerospikePhp
