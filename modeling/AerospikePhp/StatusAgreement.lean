import AerospikePhp.StatusSlips
import AerospikePhp.UdfFiles
import Mathlib.Tactic

/-!
# The status of every call

For each call, the condition under which the status that it returns is the one
that the client tells afterwards.
-/

namespace AerospikePhp

open Procedure Method Proc

set_option synthInstance.maxSize 4096

/-! ## Calls that always tell -/

/-- The piece does not come to its end. -/
class Leaves {α : Type} (body : Method α) : Prop where
  leaves : ∀ s, ∃ exit s', body.run s = (.error exit, s')

section

variable {α β : Type}

instance (result : Exit) : Leaves (Proc.exit result : Method α) :=
  ⟨fun s => ⟨result, s, rfl⟩⟩

instance (body : Method β) (next : β → Method α)
    [hnext : ∀ value, Leaves (next value)] : Leaves (body >>= next) := by
  refine ⟨fun s => ?_⟩
  rw [run_bind]
  cases body.run s with
  | mk outcome s' =>
      cases outcome with
      | ok value => exact (hnext value).leaves s'
      | error exit => exact ⟨exit, s', rfl⟩

instance (body : Method Unit) (cleanup : Method α) [Leaves cleanup] :
    Leaves (withCleanup body cleanup) := by
  unfold withCleanup
  infer_instance

instance : Leaves (returnErrCode : Method α) := by
  unfold returnErrCode returnLong
  infer_instance

instance : Leaves cleanupErr := by
  unfold cleanupErr
  infer_instance

instance : Leaves getCleanup := by
  unfold getCleanup
  infer_instance

instance : Leaves existsManyCleanup := by
  unfold existsManyCleanup
  infer_instance

instance : Leaves queryRoleCleanup := by
  unfold queryRoleCleanup
  infer_instance

instance : Leaves reportAndReturn := by
  unfold reportAndReturn
  infer_instance

instance (answer : Answer) : Leaves (returnAnswer answer) := by
  unfold returnAnswer returnLong
  infer_instance

theorem leaving_ends {P C : CallState → Prop} {body : Method α}
    [htells : Tells P C body] [hleaves : Leaves body] :
    Ends P body (fun _ _ => False) (Exit.Tells C) := by
  intro s hs
  have hrun := htells.ends s hs
  obtain ⟨exit, s', hresult⟩ := hleaves.leaves s
  rw [hresult] at hrun ⊢
  exact hrun

theorem call_tells_of_run {method : Method Reply} {start s' : CallState}
    {exit : Exit} (hrun : method.run start = (.error exit, s')) :
    (method.call start).Tells ↔ exit.Tells (fun _ => True) s' := by
  unfold Method.call Outcome.Tells
  rw [hrun]
  cases exit with
  | ret reply => cases reply <;> simp [Exit.Tells]
  | cleanup | crash => simp [Exit.Tells]

theorem outcome_tells (method : Method Reply) (policies : Policies)
    (clientError : AsError)
    [htells : Tells CallState.Entered (fun _ => True) method]
    [hleaves : Leaves method] :
    (method.call (.start policies clientError)).Tells := by
  have hends : Ends CallState.Entered method (fun _ _ => False)
      (Exit.Tells fun _ => True) := leaving_ends
  have hstart : CallState.Entered (.start policies clientError) :=
    AsError.sound_init
  obtain ⟨exit, s', hrun, hexit⟩ := ends_false_run hends hstart
  exact (call_tells_of_run hrun).mpr hexit

end

section

variable {engine : Engine} {client : Client} {oracle : Oracle}
variable {policies : Policies} [horacle : oracle.Explains]

instance (request : Request) : Tells CallState.Quiet (fun _ => True) (do
    let answer ← issue oracle request
    returnAnswer answer) :=
  tells_returnAnswer oracle request

end

/-! ## Calls that may slip -/

section

variable (engine : Engine) (client : Client) (oracle : Oracle)
variable (policies : Policies)

/-- Although the client is not ready, the record is read and converted. -/
def GetArgs.Slips (args : GetArgs) : Prop :=
  client.hasClient = true ∧ ¬ client.Ready ∧ ∃ policy key request record,
    policyOf (zvalToAsPolicyRead engine.init.read args.policy policies.read) =
      .ok policy ∧
    keyOf engine.keyInit args.key = some key ∧
    filterRequest policy key args.filter = some request ∧
    (oracle.answer 0 request).err.code = .ok ∧
    (oracle.answer 0 request).record = some record ∧
    (recordZval engine.rt record (engine.digested key)
      (policy.key = policyKeySend)).isSome

/-- All that is wrong is the generation. -/
def PutArgs.Slips (args : PutArgs) : Prop :=
  client.Ready ∧ ∃ ttl bins policy key serializer record,
    putTtl args.ttl = some ttl ∧ storeBins args.store = some bins ∧
    HashTable.numElements bins ≠ 0 ∧
    ifGiven args.policy (policyOf
      (zvalToAsPolicyWrite engine.init.write args.policy policies.write)) =
        .ok policy ∧
    keyOf engine.keyInit args.key = some key ∧
    serializerOf engine args.policy = .ok serializer ∧
    recordOf engine serializer bins = .ok record ∧
    (setRecordGeneration args.policy (recordWithTtl record ttl)).1 ≠ .ok

/-- The key converter keeps its failure to itself. -/
def RemoveArgs.Slips (args : RemoveArgs) : Prop :=
  client.Ready ∧
    (∃ policy, removePolicyOf engine policies args.options = .ok policy) ∧
    KeyLost engine.keyInit args.key

/-- All that is wrong are the options of the query. -/
def QueryArgs.Slips (args : QueryArgs) : Prop :=
  client.Ready ∧ args.ns.length ≠ 0 ∧
    (∃ policy, ifGiven (nonNull args.policy) (policyOf
      (zvalToAsPolicyQuery engine.init.query args.policy policies.query)) =
        .ok policy) ∧
    oracle.queryInitOk = true ∧ (queryOptions engine args).1 ≠ .ok

/-- The call takes a way out whose status is not told. -/
def Call.Slips : Call → Prop
  | .get args => ∃ a, args = some a ∧ a.Slips engine client oracle policies
  | .put args => ∃ a, args = some a ∧ a.Slips engine client policies
  | .remove args => ∃ a, args = some a ∧ a.Slips engine client policies
  | .query args => ∃ a, args = some a ∧ a.Slips engine client oracle policies
  | .changePassword _ => ¬ client.Ready
  | .listAppend args => ∃ a, args = some a ∧
      a.1.Reaches engine client policies ∧ BadSerializer engine a.1.policy
  | .listMerge args => ∃ a, args = some a ∧
      a.1.Reaches engine client policies ∧ (BadSerializer engine a.1.policy ∨
        ItemsNotAdded engine oracle a.1.policy a.2)
  | .listInsert args => ∃ a, args = some a ∧
      a.1.Reaches engine client policies ∧ (BadSerializer engine a.1.policy ∨
        ValueNotAdded engine oracle a.1.policy a.2.2)
  | .listInsertItems args => ∃ a, args = some a ∧
      a.1.Reaches engine client policies ∧ (BadSerializer engine a.1.policy ∨
        ItemsNotAdded engine oracle a.1.policy a.2.2)
  | .listPop args => ∃ a, args = some a ∧
      a.1.Reaches engine client policies ∧
        (BadSerializer engine a.1.policy ∨ oracle.addOk 0 = false)
  | .listRemove args => ∃ a, args = some a ∧
      a.1.Reaches engine client policies ∧ oracle.addOk 0 = false
  | .listPopRange args | .listRemoveRange args | .listTrim args =>
      ∃ a, args = some a ∧
        a.1.Reaches engine client policies ∧ oracle.addOk 0 = false
  | .listClear args => ∃ a, args = some a ∧
      a.Reaches engine client policies ∧ oracle.addOk 0 = false
  | _ => False

variable {engine client oracle policies} [horacle : oracle.Explains]

/-! ### put, remove and query -/

variable {α : Type} {C D : CallState → Prop}

/-- The three statements that make the record. -/
theorem tellsWhen_record {serializerType : SerializerType} {bins : HashTable}
    {next : AsRecord → Method Unit} {rest : AsRecord → Prop}
    (hnext : ∀ record, TellsWhen anything CallState.Settled D (next record)
      (rest record)) :
    TellsWhen clean CallState.Settled D (do
        let converted ← convert (zHashtableToAsRecord engine.rt serializerType bins)
        runIf (converted.status ≠ .ok) gotoCleanup
        let record ← orFail converted.val crash
        next record)
      (∀ record, recordOf engine serializerType bins = .ok record →
        rest record) := by
  have hrecord := @yields_requireRecord engine serializerType bins crash
  have htells : Tells CallState.Quiet CallState.Settled (do
      let converted ← convert (zHashtableToAsRecord engine.rt serializerType bins)
      runIf (converted.status ≠ .ok) gotoCleanup
      orFail converted.val crash : Method AsRecord) := inferInstance
  have hafter := tellsWhen_after hrecord hnext
  simp only [bind_assoc] at hafter
  exact hafter

/-- A code that is returned and not reported. -/
theorem generationPolicy_slips :
    TellsWhen anything C CallState.Quiet (do
      setErr .errParam "generation policy"
      returnLong .errParam : Method Unit) False := by
  intro s hs _
  have hcode : s.clientError.code = .ok := congrArg AsError.code hs.2
  show (s.clientError.code = .errParam ∧ _) ↔ False
  simp [hcode]

theorem putBody_tellsWhen {bins : HashTable} {ttl : Option Int64}
    {args : PutArgs} :
    TellsWhen (cleanWith policies) CallState.Settled CallState.Settled
      (putBody engine oracle bins ttl args)
      (∀ policy, ifGiven args.policy (policyOf
          (zvalToAsPolicyWrite engine.init.write args.policy policies.write)) =
            .ok policy →
        ∀ key, keyOf engine.keyInit args.key = some key →
          ∀ serializer, serializerOf engine args.policy = .ok serializer →
            ∀ record, recordOf engine serializer bins = .ok record →
              (setRecordGeneration args.policy (recordWithTtl record ttl)).1 =
                .ok) := by
  have hpolicy : Yields true (cleanWith policies) (whenGiven args.policy
      (requirePolicy writeField
        (zvalToAsPolicyWrite engine.init.write args.policy)
        (failCleanup .errParam "Invalid policy")))
      (ifGiven args.policy (policyOf
        (zvalToAsPolicyWrite engine.init.write args.policy policies.write)))
      clean := yields_whenGiven yields_requirePolicy fun _ _ => And.left
  have hkey : Yields true clean (requireKey engine args.key
      (failCleanup .errParam "Invalid Key"))
      (present (keyOf engine.keyInit args.key)) clean := yields_requireKey
  have hserializer : Yields true clean
      (runIf ((setSerializerFromPolicyHash engine.iniSerializer
        (toInt32 engine.iniSerializer) args.policy).1 ≠ .ok)
        (failCleanup .errParam "Invalid serializer value"))
      (ensure ((setSerializerFromPolicyHash engine.iniSerializer
        (toInt32 engine.iniSerializer) args.policy).1 = .ok)) clean :=
    yields_check not_not.symm
  unfold putBody
  refine tellsWhen_congr (tellsWhen_after hpolicy fun policy =>
    tellsWhen_after hkey fun key => tellsWhen_after hserializer fun _ =>
    tellsWhen_record fun record => tellsWhen_then
      (tellsWhen_runIf fun _ => generationPolicy_slips) fun _ => ?_) ?_
  · exact Tells.admitted inferInstance
  · unfold serializerOf callSerializer
    constructor
    · intro hall policy hpolicy key hkey serializer hserializer record hrecord
      split at hserializer
      · next hstatus =>
          cases hserializer
          exact not_not.mp fun hgen => hall policy hpolicy key (by simpa using hkey)
            () (by simpa using hstatus) record hrecord hgen
      · cases hserializer
    · intro hall policy hpolicy key hkey _ hstatus record hrecord hgen
      refine hgen (hall policy hpolicy key (by simpa using hkey) _ ?_ record
        hrecord)
      rw [if_pos (by simpa using hstatus)]

theorem put_tells_iff (args : Option PutArgs) (clientError : AsError) :
    ((put engine client oracle args).call (.start policies clientError)).Tells ↔
      ¬ ∃ a, args = some a ∧ a.Slips engine client policies := by
  have hargs : Yields false (cleanWith policies) (orFail args
      (failReturn .errParam "Invalid parameters to put")) (present args)
      (cleanWith policies) := yields_orFail
  have httl : ∀ a : PutArgs, Yields false (cleanWith policies) (orFail
      (putTtl a.ttl) (failReturn .errParam "ttl must be null or long"))
      (present (putTtl a.ttl)) (cleanWith policies) := fun _ => yields_orFail
  have hbins : ∀ a : PutArgs, Yields false (cleanWith policies) (orFail
      (storeBins a.store) (failReturn .errParam "Record must be an array"))
      (present (storeBins a.store)) (cleanWith policies) := fun _ => yields_orFail
  have hfilled : ∀ bins : HashTable, Yields false (cleanWith policies)
      (runIf (HashTable.numElements bins = 0)
        (failReturn .errParam "Array of bins must not be empty"))
      (ensure (HashTable.numElements bins ≠ 0)) (cleanWith policies) :=
    fun _ => yields_check Iff.rfl
  refine call_tells_iff clientError ?_
  refine tellsWhen_congr (tellsWhen_after (@yields_requireConnection false _ client)
    fun _ => tellsWhen_after hargs fun a => tellsWhen_after (httl a) fun ttl =>
    tellsWhen_after (hbins a) fun bins => tellsWhen_after (hfilled bins) fun _ =>
    tellsWhen_withCleanup putBody_tellsWhen) ?_
  constructor
  · rintro hall ⟨a, rfl, hready, ttl, bins, policy, key, serializer, record,
      httl, hbins, hfilled, hpolicy, hkey, hserializer, hrecord, hgen⟩
    exact hgen (hall () (ensure_eq_ok.mpr hready) a (present_eq_ok.mpr rfl) ttl
      (present_eq_ok.mpr httl) bins (present_eq_ok.mpr hbins) ()
      (ensure_eq_ok.mpr hfilled) policy hpolicy key hkey serializer hserializer
      record hrecord)
  · intro hnot _ hready a hargs ttl httl bins hbins _ hfilled policy hpolicy key
      hkey serializer hserializer record hrecord
    by_contra hgen
    exact hnot ⟨a, present_eq_ok.mp hargs, ensure_eq_ok.mp hready, ttl, bins,
      policy, key, serializer, record, present_eq_ok.mp httl,
      present_eq_ok.mp hbins, ensure_eq_ok.mp hfilled, hpolicy, hkey,
      hserializer, hrecord, hgen⟩

theorem keyOf_of_lost {zKey : HashTable} (hlost : KeyLost engine.keyInit zKey) :
    keyOf engine.keyInit zKey = none := by
  unfold KeyLost at hlost
  split at hlost
  · exact hlost.2
  · exact hlost
  · exact hlost.elim

/-- The status that is returned is the code of the key converter's error only
when that has one. -/
theorem requireKey_tellsWhen {zKey : HashTable} :
    TellsWhen clean C CallState.Quiet (requireKey engine zKey (do
      let s ← Proc.get
      updateClientError s.err.code "Failed to create key"
      returnLong .errParam)) (¬ KeyLost engine.keyInit zKey) := by
  intro s hs hclean
  have hinit : s.err = .init := hclean
  have hconvert : (convert (zHashtableToAsKey engine.keyInit zKey)).run s =
      (.ok (zHashtableToAsKey engine.keyInit zKey s.err),
        { s with err := (zHashtableToAsKey engine.keyInit zKey s.err).err }) := rfl
  unfold requireKey
  rw [run_bind_ok hconvert]
  cases hkey : keyOf engine.keyInit zKey with
  | some key =>
      rw [zHashtableToAsKey_of_some s.err hkey]
      refine ⟨hs, fun hlost => ?_⟩
      have hnone := keyOf_of_lost hlost
      rw [hkey] at hnone
      cases hnone
  | none =>
      have hlost := zHashtableToAsKey_lost_iff hkey
      have hout := zHashtableToAsKey_outcome engine.keyInit zKey .init
      rw [hkey] at hout
      rw [hinit]
      generalize zHashtableToAsKey engine.keyInit zKey .init = converted
        at hout hlost ⊢
      cases hout with
      | reported message =>
          have hnot : ¬ KeyLost engine.keyInit zKey := fun h => by
            have hcode := hlost.mpr h
            cases hcode
          refine iff_of_true ⟨rfl, ?_⟩ hnot
          exact iff_of_false (show "Failed to create key" ≠ "" by decide)
            (by decide)
      | unreported =>
          refine iff_of_false ?_ (not_not.mpr (hlost.mp rfl))
          rintro ⟨hcode, -⟩
          cases hcode

theorem remove_tells_iff (args : Option RemoveArgs) (clientError : AsError) :
    ((remove engine client oracle args).call
      (.start policies clientError)).Tells ↔
      ¬ ∃ a, args = some a ∧ a.Slips engine client policies := by
  have hargs : Yields false (cleanWith policies) (orFail args
      (failReturn .errParam "Invalid Parameters for remove")) (present args)
      (cleanWith policies) := yields_orFail
  have hpolicy : ∀ a : RemoveArgs, Tells CallState.Quiet (fun _ => True)
      (requireRemovePolicy engine a.options) := by
    intro a
    unfold requireRemovePolicy
    infer_instance
  have hyields : ∀ a : RemoveArgs, Yields false (cleanWith policies)
      (requireRemovePolicy engine a.options)
      (removePolicyOf engine policies a.options) clean :=
    fun _ => yields_requireRemovePolicy
  refine call_tells_iff clientError ?_
  refine tellsWhen_congr (tellsWhen_after (@yields_requireConnection false _ client)
    fun _ => tellsWhen_after hargs fun a => tellsWhen_after
    (hyields a) fun policy => tellsWhen_seq (@yields_errorInit_any false _)
    (tellsWhen_then requireKey_tellsWhen fun key => leaving_ends)) ?_
  constructor
  · rintro hall ⟨a, rfl, hready, ⟨policy, hpolicy⟩, hlost⟩
    exact hall () (ensure_eq_ok.mpr hready) a (present_eq_ok.mpr rfl) policy
      hpolicy hlost
  · intro hnot _ hready a hargs policy hpolicy hlost
    exact hnot ⟨a, present_eq_ok.mp hargs, ensure_eq_ok.mp hready,
      ⟨policy, hpolicy⟩, hlost⟩

/-- The status of options that do not fit is returned and not reported. -/
theorem returnLong_slips {status : AsStatus} [hstatus : IsFailure status] :
    TellsWhen clean CallState.Settled CallState.Quiet
      (returnLong status : Method Unit) False := by
  intro s hs _
  have hcode : s.clientError.code = .ok := congrArg AsError.code hs.2
  show (s.clientError.code = status ∧ _) ↔ False
  rw [hcode]
  exact iff_of_false (fun h => hstatus.ne_ok h.1.symm) id

theorem query_tells_iff (args : Option QueryArgs) (clientError : AsError) :
    ((query engine client oracle args).call
      (.start policies clientError)).Tells ↔
      ¬ ∃ a, args = some a ∧ a.Slips engine client oracle policies := by
  have hargs : Yields false (cleanWith policies) (orFail args
      (failReturn .errParam "Invalid arguments to query")) (present args)
      (cleanWith policies) := yields_orFail
  have hns : ∀ a : QueryArgs, Yields false (cleanWith policies)
      (runIf (a.ns.length = 0) (failReturn .errParam "Invalid namespace"))
      (ensure (a.ns.length ≠ 0)) (cleanWith policies) :=
    fun _ => yields_check Iff.rfl
  have hpolicy : ∀ a : QueryArgs, Yields false (cleanWith policies)
      (whenGiven (nonNull a.policy) (requirePolicy queryField
        (zvalToAsPolicyQuery engine.init.query a.policy)
        (failReturn .errParam "Invalid query policy")))
      (ifGiven (nonNull a.policy) (policyOf
        (zvalToAsPolicyQuery engine.init.query a.policy policies.query)))
      clean := fun _ => yields_whenGiven yields_requirePolicy fun _ _ => And.left
  have hinit : Yields true clean (requireQueryInit oracle)
      (ensure (oracle.queryInitOk = true)) clean := yields_check (by simp)
  refine call_tells_iff clientError ?_
  refine tellsWhen_congr (tellsWhen_after (@yields_requireConnection false _ client)
    fun _ => tellsWhen_after hargs fun a => tellsWhen_after (hns a) fun _ =>
    tellsWhen_after (hpolicy a) fun policy => tellsWhen_withCleanup
    (tellsWhen_after hinit fun _ => tellsWhen_then
      (tellsWhen_runIf fun _ => returnLong_slips) fun _ =>
        Tells.admitted inferInstance)) ?_
  constructor
  · rintro hall ⟨a, rfl, hready, hns, ⟨policy, hpolicy⟩, hinit, hoptions⟩
    exact hall () (ensure_eq_ok.mpr hready) a (present_eq_ok.mpr rfl) ()
      (ensure_eq_ok.mpr hns) policy hpolicy () (ensure_eq_ok.mpr hinit) hoptions
  · intro hnot _ hready a hargs _ hns policy hpolicy _ hinit hoptions
    exact hnot ⟨a, present_eq_ok.mp hargs, ensure_eq_ok.mp hready,
      ensure_eq_ok.mp hns, ⟨policy, hpolicy⟩, ensure_eq_ok.mp hinit, hoptions⟩

/-! ### The list operations -/

theorem listCall_tells_iff {args : Option α} {failure : Method α}
    [Fails false failure] [Tells CallState.Quiet (fun _ => True) failure]
    {toArgs : α → ListArgs} {tail : α → Method Reply} {slips : α → Prop}
    (clientError : AsError)
    (htail : ∀ a, TellsWhen (cleanWith policies) (fun _ => True) (fun _ => False)
      (tail a) ((toArgs a).bin.length ≤ asBinNameMaxLen →
        ∀ setup, listSetupOf engine policies (toArgs a) = .ok setup →
          ¬ slips a)) :
    ((do
      resetClientError
      validateListClient client
      let a ← orFail args failure
      tail a : Method Reply).call (.start policies clientError)).Tells ↔
      ¬ ∃ a, args = some a ∧ (toArgs a).Reaches engine client policies ∧
        slips a := by
  refine call_tells_iff clientError (tellsWhen_congr
    (listMethod_tellsWhen htail) ?_)
  constructor
  · rintro hall ⟨a, hargs, hreaches, hslips⟩
    exact hall a hargs hreaches hslips
  · intro hnot a hargs hreaches hslips
    exact hnot ⟨a, hargs, hreaches, hslips⟩

theorem listBody_slips {args : ListArgs} {makeOperation : Method Operation}
    {notAdded : Method Unit} {useResult : Answer → Method Unit}
    {good slips : Prop} (hslips : good ↔ ¬ slips)
    (hmake : TellsWhen clean CallState.Settled CallState.Quiet (do
      let op ← makeOperation
      runIf (oracle.addOk 0 = false) notAdded
      pure op) good)
    (huse : ∀ answer, Ends CallState.Quiet (useResult answer)
      (fun _ => CallState.Settled) (Exit.Tells CallState.Settled)) :
    TellsWhen (cleanWith policies) CallState.Settled CallState.Settled
      (listBody engine oracle args makeOperation notAdded useResult)
      (∀ setup, listSetupOf engine policies args = .ok setup → ¬ slips) := by
  refine tellsWhen_congr (listBody_tellsWhen hmake huse) ?_
  simp only [hslips]

/-- What is done with the operation decides whether the call slips. -/
theorem listTail_slips {args : ListArgs} {makeOperation : Method Operation}
    {notAdded : Method Unit} {useResult : Answer → Method Unit}
    {good slips : Prop} (hslips : good ↔ ¬ slips)
    (hmake : TellsWhen clean CallState.Settled CallState.Quiet (do
      let op ← makeOperation
      runIf (oracle.addOk 0 = false) notAdded
      pure op) good)
    (huse : ∀ answer, Ends CallState.Quiet (useResult answer)
      (fun _ => CallState.Settled) (Exit.Tells CallState.Settled)) :
    TellsWhen (cleanWith policies) C (fun _ => False) (do
        checkBinName args.bin
        withCleanup (listBody engine oracle args makeOperation notAdded useResult)
          cleanupErr)
      (args.bin.length ≤ asBinNameMaxLen →
        ∀ setup, listSetupOf engine policies args = .ok setup → ¬ slips) :=
  listTail_tellsWhen (listBody_slips hslips hmake huse)

theorem ignoreResult_ends (answer : Answer) : Ends CallState.Quiet
    (ignoreResult answer) (fun _ => CallState.Settled)
    (Exit.Tells CallState.Settled) := Tells.admitted inferInstance

theorem listAppend_tells_iff (args : Option (ListArgs × Zval))
    (clientError : AsError) :
    ((listAppend engine client oracle args).call
      (.start policies clientError)).Tells ↔
      ¬ ∃ a, args = some a ∧ a.1.Reaches engine client policies ∧
        BadSerializer engine a.1.policy := by
  have hadded : TellsWhen clean CallState.Settled CallState.Quiet
    (runIf (oracle.addOk 0 = false) (pure ())) _ :=
      tellsWhen_runIf fun _ => tellsWhen_tells
  exact listCall_tells_iff clientError fun a => listTail_slips (by simp)
    (valueMake_tellsWhen reportItem_tells hadded) ignoreResult_ends

theorem listMerge_tells_iff (args : Option (ListArgs × HashTable))
    (clientError : AsError) :
    ((listMerge engine client oracle args).call
      (.start policies clientError)).Tells ↔
      ¬ ∃ a, args = some a ∧ a.1.Reaches engine client policies ∧
        (BadSerializer engine a.1.policy ∨
          ItemsNotAdded engine oracle a.1.policy a.2) := by
  unfold listMerge
  rw [validate_reset_comm]
  exact listCall_tells_iff clientError fun a => listTail_slips itemsNotAdded_iff
    itemsMake_tellsWhen ignoreResult_ends

theorem listInsert_tells_iff (args : Option (ListArgs × Int64 × Zval))
    (clientError : AsError) :
    ((listInsert engine client oracle args).call
      (.start policies clientError)).Tells ↔
      ¬ ∃ a, args = some a ∧ a.1.Reaches engine client policies ∧
        (BadSerializer engine a.1.policy ∨
          ValueNotAdded engine oracle a.1.policy a.2.2) :=
  listCall_tells_iff clientError fun _ => listTail_slips valueNotAdded_iff
    (valueMake_tellsWhen (failItem_tells .errParam _) notAddedCode_tellsWhen)
    ignoreResult_ends

theorem listInsertItems_tells_iff (args : Option (ListArgs × Int64 × HashTable))
    (clientError : AsError) :
    ((listInsertItems engine client oracle args).call
      (.start policies clientError)).Tells ↔
      ¬ ∃ a, args = some a ∧ a.1.Reaches engine client policies ∧
        (BadSerializer engine a.1.policy ∨
          ItemsNotAdded engine oracle a.1.policy a.2.2) :=
  listCall_tells_iff clientError fun _ => listTail_slips itemsNotAdded_iff
    itemsMake_tellsWhen ignoreResult_ends

/-- A list operation that adds its numbers as they are. -/
theorem plainTail_slips {args : ListArgs} {op : OpType}
    {index count : Option Int64} {useResult : Answer → Method Unit}
    (huse : ∀ answer, Ends CallState.Quiet (useResult answer)
      (fun _ => CallState.Settled) (Exit.Tells CallState.Settled)) :
    TellsWhen (cleanWith policies) C (fun _ => False) (do
        checkBinName args.bin
        withCleanup (listBody engine oracle args
          (plainOperation op args.bin index count) notAddedCode useResult)
          cleanupErr)
      (args.bin.length ≤ asBinNameMaxLen →
        ∀ setup, listSetupOf engine policies args = .ok setup →
          ¬ oracle.addOk 0 = false) :=
  listTail_slips Iff.rfl plainMake_tellsWhen huse

theorem listPop_tells_iff (args : Option (ListArgs × Int64))
    (clientError : AsError) :
    ((listPop engine client oracle args).call
      (.start policies clientError)).Tells ↔
      ¬ ∃ a, args = some a ∧ a.1.Reaches engine client policies ∧
        (BadSerializer engine a.1.policy ∨ oracle.addOk 0 = false) := by
  refine listCall_tells_iff clientError fun a => ?_
  refine tellsWhen_congr (tellsWhen_after (@yields_checkBinName false _ a.1.bin)
    fun _ => tellsWhen_seq (@yields_setOutput false _ _) (tellsWhen_withCleanup
      (listBody_slips popNotAdded_iff popMake_tellsWhen
        (usePopped_ends _ _)))) ?_
  simp

theorem listPopRange_tells_iff (args : Option (ListArgs × Int64 × Int64))
    (clientError : AsError) :
    ((listPopRange engine client oracle args).call
      (.start policies clientError)).Tells ↔
      ¬ ∃ a, args = some a ∧ a.1.Reaches engine client policies ∧
        oracle.addOk 0 = false :=
  listCall_tells_iff clientError fun _ => tellsWhen_seq (@yields_setOutput false _ _)
    (plainTail_slips (usePopped_ends _ _))

theorem listRemove_tells_iff (args : Option (ListArgs × Int64))
    (clientError : AsError) :
    ((listRemove engine client oracle args).call
      (.start policies clientError)).Tells ↔
      ¬ ∃ a, args = some a ∧ a.1.Reaches engine client policies ∧
        oracle.addOk 0 = false :=
  listCall_tells_iff clientError fun _ => plainTail_slips ignoreResult_ends

theorem rangeMethod_tells_iff (op : OpType) {badArguments : String}
    [HasText badArguments] (args : Option (ListArgs × Int64 × Int64))
    (clientError : AsError) :
    ((rangeMethod engine client oracle op badArguments args).call
      (.start policies clientError)).Tells ↔
      ¬ ∃ a, args = some a ∧ a.1.Reaches engine client policies ∧
        oracle.addOk 0 = false :=
  listCall_tells_iff clientError fun _ => plainTail_slips ignoreResult_ends

theorem listClear_tells_iff (args : Option ListArgs) (clientError : AsError) :
    ((listClear engine client oracle args).call
      (.start policies clientError)).Tells ↔
      ¬ ∃ a, args = some a ∧ a.Reaches engine client policies ∧
        oracle.addOk 0 = false :=
  listCall_tells_iff clientError fun _ => plainTail_slips ignoreResult_ends

/-! ### changePassword -/

theorem changePassword_tells_iff (args : Option PasswordArgs)
    (clientError : AsError) :
    ((changePassword engine client oracle args).call
      (.start policies clientError)).Tells ↔ client.Ready := by
  refine call_tells_iff clientError fun s hs _ => ?_
  by_cases hready : client.Ready
  · have hbody : Tells CallState.Quiet (fun _ => True) (withCleanup
      (passwordBody engine oracle .changePassword args) cleanupErr) :=
        inferInstance
    obtain ⟨exit, s', hrun, htells⟩ := ends_false_run
      (@leaving_ends _ _ _ _ hbody _) hs
    rw [run_bind_ok (checkObjectAndConnection_of_ready hready s),
      runIf_neg (by simp), Proc.pure_bind, hrun]
    exact iff_of_true htells hready
  · obtain ⟨code, message, hcode, -, hrun⟩ :=
      checkObjectAndConnection_explains hready s
    rw [run_bind_ok hrun, runIf_pos hcode]
    refine iff_of_false ?_ hready
    rintro ⟨htold, -⟩
    exact hcode (htold.symm.trans (congrArg AsError.code hs.2))

/-! ### get -/

/-- The guard reported a failure, and the call went on. -/
def CallState.Warned (s : CallState) : Prop := s.clientError.code ≠ .ok

theorem getCleanup_tells_iff {s : CallState} (hwarned : s.Warned)
    (hsound : s.err.Sound) :
    ∃ s', getCleanup.run s = (.error (.ret (.long s.err.code)), s') ∧
      (s'.Tells s.err.code ↔ s.err.code ≠ .ok) := by
  unfold getCleanup
  rw [run_bind_ok (run_get s)]
  by_cases hcode : s.err.code = .ok
  · rw [runIf_neg (not_not.mpr hcode)]
    refine ⟨s, rfl, iff_of_false ?_ (not_not.mpr hcode)⟩
    rintro ⟨htold, -⟩
    exact hwarned (htold.trans hcode)
  · rw [runIf_pos hcode]
    exact ⟨_, rfl, iff_of_true (tells_of_sound hsound rfl) hcode⟩

theorem withCleanup_of_exit {body : Method Unit} {s s' : CallState}
    {exit : Exit} (hrun : body.run s = (.error exit, s'))
    (htells : exit.Tells CallState.Settled s') :
    ∃ exit s', (withCleanup body getCleanup).run s = (.error exit, s') ∧
      exit.Tells C s' := by
  have hcleanup : Ends CallState.Settled getCleanup (fun _ _ => False)
    (Exit.Tells C) := leaving_ends
  unfold withCleanup
  rw [run_bind, run_catchExit, hrun]
  cases exit with
  | cleanup => exact ends_false_run hcleanup htells
  | ret reply => cases reply <;> exact ⟨_, s', rfl, htells⟩
  | crash => exact ⟨.crash, s', rfl, htells⟩

end

section

variable {oracle : Oracle}

/-- An error that is left for `CLEANUP`. -/
theorem failCleanup_tells {α : Type} {code : AsStatus} {message : String}
    [hcode : IsFailure code] [hmessage : HasText message] (s : CallState) :
    ∃ exit s', (failCleanup code message : Method α).run s = (.error exit, s') ∧
      exit.Tells CallState.Settled s' :=
  ⟨.cleanup, _, rfl, settled_of_failure hcode.ne_ok hmessage.ne_empty⟩

theorem readWithFilter_of_none {policy : PolicyRead} {key : AsKey}
    {filter : Option Zval} (hrequest : filterRequest policy key filter = none)
    (s : CallState) :
    ∃ exit s', (readWithFilter oracle policy key filter).run s =
        (.error exit, s') ∧ exit.Tells CallState.Settled s' := by
  unfold filterRequest at hrequest
  split at hrequest
  · cases hrequest
  · next bins =>
      split at hrequest
      · next hlist =>
          have hfail : readWithFilter oracle policy key (some (.array bins)) =
              failCleanup .errParam "Bins must be a list" := if_pos hlist
          rw [hfail]
          exact failCleanup_tells s
      · next hlist =>
          split at hrequest
          · next message hnames =>
              have := filterBinNames_worded bins message hnames
              have hfail : readWithFilter oracle policy key (some (.array bins)) =
                  failCleanup .errParam message := by
                simp only [readWithFilter, asGetWithBins, if_neg hlist, hnames]
              rw [hfail]
              exact failCleanup_tells s
          · cases hrequest
  · next z harray =>
      have hfail : readWithFilter oracle policy key (some z) = failReturn
          .errParam "Filter bins must be an array if provided" := by
        cases z with
        | array bins => exact absurd rfl (harray bins)
        | _ => rfl
      rw [hfail]
      exact ⟨_, _, rfl, tells_of_failure rfl⟩

end

section

variable {engine : Engine} {client : Client} {oracle : Oracle}
variable {policies : Policies} {C : CallState → Prop}

theorem writeOutput_tells_iff {converter : AsError → Converted Zval}
    [hexplains : Explains converter] {z : Option Zval} {s : CallState}
    (hwarned : s.Warned) (hsound : s.err.Sound)
    (hcode : s.err.code = .ok) (hdecodes : (converter s.err).Decodes s.err z)
    {body : Method Unit} {start : CallState}
    (hbody : body.run start = (do
      let _ ← writeOutput converter
      pure () : Method Unit).run s) :
    ∃ exit s', (withCleanup body getCleanup).run start = (.error exit, s') ∧
      (exit.Tells C s' ↔ ¬ z.isSome) := by
  rw [run_bind_ok (writeOutput_run converter s)] at hbody
  obtain ⟨s', hcleanup, htells⟩ := @getCleanup_tells_iff { s with
    err := (converter s.err).err
    output := (converter s.err).val <|> s.output } hwarned
    (hsound.of_becomes (hexplains.becomes s.err))
  refine ⟨.ret (.long (converter s.err).err.code), s', ?_, htells.trans ?_⟩
  · unfold withCleanup
    rw [run_bind, run_catchExit, hbody]
    exact hcleanup
  · cases z with
    | none => exact iff_of_true hdecodes.2.1 (by simp)
    | some z =>
        rw [show converter s.err = _ from hdecodes]
        exact iff_of_false (not_not.mpr hcode) (by simp)

/-- A read that was answered is not told exactly when it succeeds. -/
theorem getAnswered_tells_iff {policy : PolicyRead} {key : AsKey}
    {filter : Option Zval} {s s' : CallState} {answer : Answer}
    (hread : (readWithFilter oracle policy key filter).run s = (.ok answer, s'))
    (herr : s'.err = answer.err) (hsound : answer.err.Sound)
    (hwarned : s'.Warned) :
    ∃ exit s', (withCleanup (getBody engine oracle policy key filter)
        getCleanup).run s = (.error exit, s') ∧
      (exit.Tells C s' ↔ ¬ ∃ record, answer.err.code = .ok ∧
        answer.record = some record ∧
        (recordZval engine.rt record (engine.digested key)
          (policy.key = policyKeySend)).isSome) := by
  have hbody : (getBody engine oracle policy key filter).run s = _ :=
    run_bind_ok hread
  by_cases hcode : answer.err.code = .ok
  · have hcode' : s'.err.code = .ok := by rw [herr, hcode]
    rw [run_bind_ok (cleanupOnError_run_ok hcode')] at hbody
    cases hrecord : answer.record with
    | none =>
        rw [hrecord] at hbody
        obtain ⟨exit, s', hrun, htells⟩ :=
          @withCleanup_of_exit C _ _ _ .crash hbody trivial
        exact ⟨exit, s', hrun, iff_of_true htells (by simp)⟩
    | some record =>
        rw [hrecord] at hbody
        have hdecodes := asRecordToZval_decodes engine.rt record
          (engine.digested key) (policy.key = policyKeySend) hcode'
        obtain ⟨exit, s', hrun, htells⟩ := @writeOutput_tells_iff C _ _ _ _
          hwarned (herr ▸ hsound) hcode' hdecodes _ _ hbody
        exact ⟨exit, s', hrun, htells.trans (by simp [hcode])⟩
  · have hcode' : s'.err.code ≠ .ok := by rwa [herr]
    rw [run_bind_error (cleanupOnError_run_error hcode')] at hbody
    obtain ⟨exit, s', hrun, htells⟩ := @withCleanup_of_exit C _ _ _ _ hbody
      (settled_of_failure hcode' (by
        rw [herr]
        exact hsound.failure_text hcode))
    exact ⟨exit, s', hrun, iff_of_true htells (by simp [hcode])⟩

variable [horacle : oracle.Explains]

/-- After the warning the call tells unless it succeeds. -/
theorem getTail_tells_iff {policy : PolicyRead} {key : AsKey}
    {filter : Option Zval} {s : CallState} (hwarned : s.Warned) :
    ∃ exit s', (withCleanup (getBody engine oracle policy key filter)
        getCleanup).run s = (.error exit, s') ∧
      (exit.Tells C s' ↔ ¬ ∃ request record,
        filterRequest policy key filter = some request ∧
        (oracle.answer s.requests.length request).err.code = .ok ∧
        (oracle.answer s.requests.length request).record = some record ∧
        (recordZval engine.rt record (engine.digested key)
          (policy.key = policyKeySend)).isSome) := by
  cases hrequest : filterRequest policy key filter with
  | none =>
      obtain ⟨exit, s', hread, htells⟩ :=
        @readWithFilter_of_none oracle policy key filter hrequest s
      have hbody : (getBody engine oracle policy key filter).run s =
          (.error exit, s') := run_bind_error hread
      obtain ⟨exit, s', hrun, htells⟩ := @withCleanup_of_exit C _ _ _ _ hbody htells
      exact ⟨exit, s', hrun, iff_of_true htells (by simp)⟩
  | some request =>
      have hread : (readWithFilter oracle policy key filter).run s =
          (.ok (oracle.answer s.requests.length request), { s with
            requests := s.requests ++ [request]
            err := (oracle.answer s.requests.length request).err }) := by
        rw [readWithFilter_of_request hrequest]
        rfl
      obtain ⟨exit, s', hrun, htells⟩ := @getAnswered_tells_iff engine oracle C
        _ _ _ _ _ _ hread rfl (horacle.answer s.requests.length request) hwarned
      refine ⟨exit, s', hrun, htells.trans (not_congr ?_)⟩
      simp only [Option.some.injEq, exists_and_left, exists_eq_left']

omit horacle in
theorem requirePolicy_run {P : Type} {field : PolicyField P}
    {converter : P → ConvertedPolicy P} {failure : Method Unit} (s : CallState) :
    ∃ ps, (requirePolicy field converter failure).run s =
      (match policyOf (converter (field.get s.policies)) with
        | .ok policy => pure policy
        | .error _ => do
            failure
            pure (converter (field.get s.policies)).policy : Method P).run
        { s with policies := ps } := by
  refine ⟨field.set (converter (field.get s.policies)).defaultPolicy s.policies,
    ?_⟩
  have hload : (loadPolicy field converter).run s =
      (.ok (converter (field.get s.policies)), { s with
        policies := field.set (converter (field.get s.policies)).defaultPolicy
          s.policies }) := rfl
  unfold requirePolicy policyOf
  rw [run_bind_ok hload]
  by_cases hstatus : (converter (field.get s.policies)).status = .ok
  · rw [runIf_neg (not_not.mpr hstatus), if_pos hstatus]
    rfl
  · rw [runIf_pos hstatus, if_neg hstatus]

omit horacle in
theorem requireKey_run {zKey : HashTable} {failure : Method AsKey}
    (s : CallState) :
    ∃ err, (requireKey engine zKey failure).run s =
      (orFail (keyOf engine.keyInit zKey) failure).run { s with err } := by
  refine ⟨(zHashtableToAsKey engine.keyInit zKey s.err).err, ?_⟩
  have hconvert : (convert (zHashtableToAsKey engine.keyInit zKey)).run s =
      (.ok (zHashtableToAsKey engine.keyInit zKey s.err), { s with
        err := (zHashtableToAsKey engine.keyInit zKey s.err).err }) := rfl
  unfold requireKey
  rw [run_bind_ok hconvert]
  cases hkey : keyOf engine.keyInit zKey with
  | some key =>
      rw [zHashtableToAsKey_of_some s.err hkey]
      rfl
  | none =>
      rw [(zHashtableToAsKey_of_none s.err hkey).2]
      split <;> rfl

/-- `get` after its policy. -/
theorem getKeyed_tells_iff {policy : PolicyRead} {a : GetArgs} {s : CallState}
    (hwarned : s.Warned) (hrequests : s.requests = []) :
    ∃ exit s', (do
        let key ← requireKey engine a.key (failReturn .errParam "Invalid key")
        withCleanup (getBody engine oracle policy key a.filter) getCleanup :
          Method Reply).run s = (.error exit, s') ∧
      (exit.Tells C s' ↔ ¬ ∃ key request record,
        keyOf engine.keyInit a.key = some key ∧
        filterRequest policy key a.filter = some request ∧
        (oracle.answer 0 request).err.code = .ok ∧
        (oracle.answer 0 request).record = some record ∧
        (recordZval engine.rt record (engine.digested key)
          (policy.key = policyKeySend)).isSome) := by
  obtain ⟨err, hkeyed⟩ := @requireKey_run engine a.key
    (failReturn .errParam "Invalid key") s
  rw [run_bind, hkeyed]
  cases hkey : keyOf engine.keyInit a.key with
  | none => exact ⟨_, _, rfl, iff_of_true (tells_of_failure rfl) (by simp)⟩
  | some key =>
      obtain ⟨exit, s', hrun, htells⟩ := @getTail_tells_iff engine oracle C _
        policy key a.filter { s with err } hwarned
      refine ⟨exit, s', hrun, htells.trans ?_⟩
      simp [hrequests]

/-- `get` after its check of the handle. -/
theorem getArgued_tells_iff {a : GetArgs} {s : CallState} (hwarned : s.Warned)
    (hpolicies : s.policies = policies) (hrequests : s.requests = []) :
    ∃ exit s', (do
        let policy ← requirePolicy readField
          (zvalToAsPolicyRead engine.init.read a.policy)
          (failReturn .errParam "Invalid read read_policy")
        let key ← requireKey engine a.key (failReturn .errParam "Invalid key")
        withCleanup (getBody engine oracle policy key a.filter) getCleanup :
          Method Reply).run s = (.error exit, s') ∧
      (exit.Tells C s' ↔ ¬ ∃ policy key request record,
        policyOf (zvalToAsPolicyRead engine.init.read a.policy policies.read) =
          .ok policy ∧
        keyOf engine.keyInit a.key = some key ∧
        filterRequest policy key a.filter = some request ∧
        (oracle.answer 0 request).err.code = .ok ∧
        (oracle.answer 0 request).record = some record ∧
        (recordZval engine.rt record (engine.digested key)
          (policy.key = policyKeySend)).isSome) := by
  obtain ⟨ps, hpolicy⟩ := @requirePolicy_run _ readField
    (zvalToAsPolicyRead engine.init.read a.policy)
    (failReturn .errParam "Invalid read read_policy") s
  have hget : readField.get s.policies = policies.read := by
    rw [hpolicies]
    rfl
  rw [run_bind, hpolicy, hget]
  cases hread : policyOf
      (zvalToAsPolicyRead engine.init.read a.policy policies.read) with
  | error halt =>
      exact ⟨_, _, rfl, iff_of_true (tells_of_failure rfl) (by simp)⟩
  | ok policy =>
      obtain ⟨exit, s', hrun, htells⟩ := @getKeyed_tells_iff engine oracle
        C _ policy a { s with policies := ps } hwarned hrequests
      refine ⟨exit, s', hrun, htells.trans ?_⟩
      simp

/-- `get` after its guard. -/
theorem getRest_tells_iff {args : Option GetArgs} {s : CallState}
    (hwarned : s.Warned) (hpolicies : s.policies = policies)
    (hrequests : s.requests = []) :
    ∃ exit s', (do
        let args ← orFail args
          (failReturn .errParam "Invalid parameters to Aerospike::get")
        setOutput .null
        runIf (client.hasClient = false) crash
        let policy ← requirePolicy readField
          (zvalToAsPolicyRead engine.init.read args.policy)
          (failReturn .errParam "Invalid read read_policy")
        let key ← requireKey engine args.key (failReturn .errParam "Invalid key")
        withCleanup (getBody engine oracle policy key args.filter) getCleanup :
          Method Reply).run s = (.error exit, s') ∧
      (exit.Tells C s' ↔ ¬ (client.hasClient = true ∧
        ∃ a policy key request record, args = some a ∧
          policyOf (zvalToAsPolicyRead engine.init.read a.policy policies.read) =
            .ok policy ∧
          keyOf engine.keyInit a.key = some key ∧
          filterRequest policy key a.filter = some request ∧
          (oracle.answer 0 request).err.code = .ok ∧
          (oracle.answer 0 request).record = some record ∧
          (recordZval engine.rt record (engine.digested key)
            (policy.key = policyKeySend)).isSome)) := by
  cases args with
  | none => exact ⟨_, _, rfl, iff_of_true (tells_of_failure rfl) (by simp)⟩
  | some a =>
      cases hhas : client.hasClient with
      | false => exact ⟨.crash, _, rfl, iff_of_true trivial (by simp)⟩
      | true =>
          obtain ⟨exit, s', hrun, htells⟩ := @getArgued_tells_iff engine oracle
            policies C _ a { s with output := some .null } hwarned hpolicies
            hrequests
          exact ⟨exit, s', hrun, htells.trans (by simp)⟩

theorem get_tells_iff (args : Option GetArgs) (clientError : AsError) :
    ((get engine client oracle args).call (.start policies clientError)).Tells ↔
      ¬ ∃ a, args = some a ∧ a.Slips engine client oracle policies := by
  by_cases hready : client.Ready
  · have htells : Tells CallState.Entered (fun _ => True)
        (get engine client oracle args) := by
      refine ⟨fun s hs => ?_⟩
      have hreset : (get engine client oracle args).run s = _ :=
        @run_bind_ok _ _ _ _ _ _ _ { s with clientError := .init } _ rfl
      rw [hreset, run_bind_ok (checkObjectAndConnection_of_ready hready _),
        runIf_neg (by simp), Proc.pure_bind]
      exact (inferInstance : Tells CallState.Quiet (fun _ => True) _).ends _ ⟨hs, rfl⟩
    have hleaves : Leaves (get engine client oracle args) := by
      unfold get
      infer_instance
    refine iff_of_true (outcome_tells _ policies clientError) ?_
    rintro ⟨a, -, -, hnot, -⟩
    exact hnot hready
  · obtain ⟨code, message, hcode, -, hguard⟩ :=
      checkObjectAndConnection_explains hready (.start policies .init)
    obtain ⟨exit, s', hrun, htells⟩ := @getRest_tells_iff engine client oracle
      policies (fun _ => True) _ args { CallState.start policies .init with
        err := AsError.init.update code message
        clientError := AsError.init.update code message } hcode rfl rfl
    have hget : (get engine client oracle args).run (.start policies clientError) =
        (.error exit, s') := by
      have hreset : (get engine client oracle args).run
          (.start policies clientError) = _ :=
        @run_bind_ok _ _ _ _ _ _ _ (.start policies .init) _ rfl
      rw [hreset, run_bind_ok hguard, runIf_pos hcode]
      exact hrun
    rw [call_tells_of_run hget, htells]
    refine not_congr ⟨?_, ?_⟩
    · rintro ⟨hhas, a, policy, key, request, record, hargs, hrest⟩
      exact ⟨a, hargs, hhas, hready, policy, key, request, record, hrest⟩
    · rintro ⟨a, hargs, hhas, -, policy, key, request, record, hrest⟩
      exact ⟨hhas, a, policy, key, request, record, hargs, hrest⟩

/-! ## All calls -/

variable (engine client oracle policies)

/-- The status that a call returns is told unless the call slips. -/
theorem call_tells_iff_not_slips (clientError : AsError) (call : Call) :
    (call.run engine client oracle policies clientError).Tells ↔
      ¬ call.Slips engine client oracle policies := by
  cases call with
  | get args => exact get_tells_iff args clientError
  | put args => exact put_tells_iff args clientError
  | remove args => exact remove_tells_iff args clientError
  | query args => exact query_tells_iff args clientError
  | changePassword args =>
      exact (changePassword_tells_iff args clientError).trans not_not.symm
  | listAppend args => exact listAppend_tells_iff args clientError
  | listMerge args => exact listMerge_tells_iff args clientError
  | listInsert args => exact listInsert_tells_iff args clientError
  | listInsertItems args => exact listInsertItems_tells_iff args clientError
  | listPop args => exact listPop_tells_iff args clientError
  | listPopRange args => exact listPopRange_tells_iff args clientError
  | listRemove args => exact listRemove_tells_iff args clientError
  | listRemoveRange args => exact rangeMethod_tells_iff _ args clientError
  | listTrim args => exact rangeMethod_tells_iff _ args clientError
  | listClear args => exact listClear_tells_iff args clientError
  | «exists» _ | removeBin _ | getMany _ | existsMany _ =>
      all_goals
        refine iff_of_true ?_ (by simp [Call.Slips])
        simp only [Call.run, Call.method, AerospikePhp.exists, removeBin, getMany,
          existsMany]
        exact outcome_tells _ policies clientError
  | operate _ | operateOrdered _ | touch _ | append _ | prepend _
  | increment _ =>
      all_goals
        refine iff_of_true ?_ (by simp [Call.Slips])
        simp only [Call.run, Call.method, operate, operateOrdered, touch, append,
          prepend, increment]
        exact outcome_tells _ policies clientError
  | listSize _ | listSet _ | listGet _ | listGetRange _ =>
      all_goals
        refine iff_of_true ?_ (by simp [Call.Slips])
        simp only [Call.run, Call.method, listSize, listSet, listGet, listGetRange]
        exact outcome_tells _ policies clientError
  | queryApply _ | aggregate _ | scan _ | scanApply _ | apply _ | scanInfo _
  | jobInfo _ =>
      all_goals
        refine iff_of_true ?_ (by simp [Call.Slips])
        simp only [Call.run, Call.method, queryApply, aggregate, scan, scanApply,
          apply, scanInfo, jobInfo]
        exact outcome_tells _ policies clientError
  | info _ | infoMany _ | getNodes | addIndex _ | dropIndex _ | truncate _
  | getRegistered _ | register _ | deregister _ | listRegistered _ =>
      all_goals
        refine iff_of_true ?_ (by simp [Call.Slips])
        simp only [Call.run, Call.method, info, infoMany, getNodes, addIndex,
          dropIndex, truncate, getRegistered, register, deregister, listRegistered]
        exact outcome_tells _ policies clientError
  | createRole _ | queryRole _ | queryRoles _ | dropRole _ | grantPrivileges _
  | revokePrivileges _ =>
      all_goals
        refine iff_of_true ?_ (by simp [Call.Slips])
        simp only [Call.run, Call.method, createRole, queryRole, queryRoles,
          dropRole, grantPrivileges, revokePrivileges]
        exact outcome_tells _ policies clientError
  | createUser _ | setPassword _ | grantRoles _ | revokeRoles _ | queryUser _
  | queryUsers _ | dropUser _ =>
      all_goals
        refine iff_of_true ?_ (by simp [Call.Slips])
        simp only [Call.run, Call.method, createUser, setPassword, grantRoles,
          revokeRoles, queryUser, queryUsers, dropUser]
        exact outcome_tells _ policies clientError

end

/-- The C client adds no operation. -/
def Oracle.refusing : Oracle := { Oracle.accepting with addOk := fun _ => false }

instance : Oracle.refusing.Explains where
  answer _ _ := AsError.sound_init
  udfFile code message hfailed := by cases hfailed

def removeFirst : ListArgs × Int64 :=
  (⟨[(.str "ns", .string "test"), (.str "set", .string "demo"),
    (.str "key", .long 1)], "list", none⟩, 0)

theorem call_tells_iff_not_slips_removeFirst :
    ((Call.listRemove (some removeFirst)).run .plain .connected .refusing default
      .init).Tells ↔
    ¬ (Call.listRemove (some removeFirst)).Slips .plain .connected .refusing
      default :=
  call_tells_iff_not_slips .plain .connected .refusing default .init _

/-- The status is that of the client, and there is no text for it. -/
example : ¬ ((Call.listRemove (some removeFirst)).run .plain .connected .refusing
    default .init).Tells := by
  intro htells
  have htold := htells .errClient rfl
  exact absurd (htold.2.mp rfl) (by decide)

end AerospikePhp
