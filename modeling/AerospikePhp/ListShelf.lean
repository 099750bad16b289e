import AerospikePhp.ListRuns
import AerospikePhp.RecordShelf
import Mathlib.Tactic

/-!
# The list methods as a shelf of PHP lists

Over any history of calls of the list methods, the methods over the cluster
reply as the shelf does: a list in a bin can be worked on as a PHP list, its
elements are converted on the way there and back and are not changed by that.
-/

namespace AerospikePhp

open Refinement System ListCommands List Procedure Method Proc

/-! ## Results and replies -/

/-- The call tells the program what the shelf of lists replies. -/
def ShowsList (outcome : Outcome) : ListReply → Prop
  | .refused => ∃ reply, outcome.reply = some reply ∧ reply.Failed
  | .failed code => outcome.reply = some (.long code)
  | .done => outcome.reply = some (.long .ok)
  | .absent => outcome.Returns fun output =>
      Blank output ∨ output = some (.array [])
  | .returned z => outcome.Returns fun output =>
      ∃ z', output = some z' ∧ z.Same z'

section

variable {rt : Runtime}

theorem sameTable_mapIdx {zs zs' : List Zval} (f : ℕ → ZKey)
    (hsame : Forall₂ Zval.Same zs zs') :
    SameTable (zs.mapIdx fun i z => (f i, z))
      (zs'.mapIdx fun i z => (f i, z)) := by
  induction hsame generalizing f with
  | nil => simp [SameTable]
  | cons hz _ ih =>
      rw [List.mapIdx_cons, List.mapIdx_cons, SameTable]
      exact ⟨_, _, rfl, hz, ih fun i => f (i + 1)⟩

/-- A list of the cluster is read as the list of what its elements are read
as. -/
theorem readsAs_list {values : List AsVal} {zs : List Zval}
    (hreads : Forall₂ (ReadsAs rt) values zs) :
    ReadsAs rt (.list values) (.array (HashTable.ofValues zs)) := by
  obtain ⟨zs', hdecode, hsame⟩ : ∃ zs',
      Forall₂ (fun value z => decode rt value = some z) values zs' ∧
        Forall₂ Zval.Same zs zs' := by
    induction hreads with
    | nil => exact ⟨[], .nil, .nil⟩
    | cons hhead _ ih =>
        obtain ⟨z', hdecode, hsame⟩ := hhead
        obtain ⟨zs', hdecodes, hsames⟩ := ih
        exact ⟨z' :: zs', .cons hdecode hdecodes, .cons hsame hsames⟩
  refine ⟨.array (HashTable.ofValues zs'), ?_, ?_⟩
  · have hpush := foldl_push_eq zs' []
    rw [decode, decodeItems_of_forall₂ [] hdecode, hpush]
    simp [HashTable.ofValues]
  · rw [Zval.Same]
    exact ⟨_, _, rfl, sameTable_mapIdx _ hsame, .refl _, fun _ => rfl⟩

/-- A result of the cluster and one of the shelf. -/
theorem readsAs_result {result : Result AsVal} {result' : Result Zval}
    (hanswers : @Answers ClusterError _ _ (ReadsAs rt) (.ok (some result))
      (.ok (some result'))) :
    ReadsAs rt (resultValue result) (resultZval result') := by
  cases hanswers with
  | number n =>
      exact ⟨.long (Int64.ofNat n), by rw [resultValue, decode],
        by simp [resultZval, Zval.Same]⟩
  | one hreads => exact hreads
  | many hreads => exact readsAs_list hreads

/-- The bin of the answer holds the result. -/
theorem answerBin_listAnswer (bin : String) (result : Option (Result AsVal)) :
    answerBin (listAnswer (cString bin) (.ok result)) bin =
      result.map resultValue := by
  cases result <;> simp [answerBin, listAnswer, resultRecord, asRecordGet]

end

/-! ## One call -/

section

variable {engine : Engine} {bin : String} {s : CallState}

/-- A method that looks at the result returns it, as PHP sees it. -/
theorem usesResult_returns {useResult : Answer → Method Unit}
    (huses : UsesResult engine bin useResult) {result : Result AsVal} {z : Zval}
    (hreads : ReadsAs engine.rt (resultValue result) z) (herr : s.err = .init) :
    ShowsList ((withCleanup (useResult (listAnswer (cString bin)
      (.ok (some result)))) cleanupErr).call s) (.returned z) := by
  obtain ⟨z', hdecode, hsame⟩ := hreads
  have hvalue := answerBin_listAnswer bin (some result)
  obtain ⟨s', hrun, hcode, houtput⟩ := huses.found _ s herr rfl _ hvalue
  have hclean : s.err.code = .ok := by rw [herr]; rfl
  have hdecodes := @asValToZval_decodes engine.rt (resultValue result) _ hclean
  rw [hdecode] at hdecodes
  have hconverted : asValToZval engine.rt (resultValue result) s.err =
      ⟨.ok, some z', s.err⟩ := hdecodes
  rw [hconverted] at hcode houtput
  obtain ⟨hreply, hshown, -⟩ := call_withCleanupErr hrun (.inl rfl)
  refine ⟨by rw [hreply, hcode.mpr rfl], z', ?_, hsame⟩
  rw [hshown, houtput]
  rfl

/-- There is nothing to return. -/
theorem usesResult_absent {useResult : Answer → Method Unit}
    (huses : UsesResult engine bin useResult) (herr : s.err = .init)
    (hblank : Blank s.output) :
    ShowsList ((withCleanup (useResult (listAnswer (cString bin) (.ok none)))
      cleanupErr).call s) .absent := by
  obtain ⟨s', hrun, herr', hdelivered⟩ := huses.missing _ s herr rfl hblank
    (answerBin_listAnswer bin none)
  obtain ⟨hreply, hshown, -⟩ := call_withCleanupErr hrun (.inl rfl)
  refine ⟨by rw [hreply, herr', herr]; rfl, ?_⟩
  rw [hshown]
  exact hdelivered

/-- What `listSize` makes of the bin of its answer. -/
def sizeRead : Option AsVal → Int64
  | some (.integer n) => n
  | _ => -1

theorem useSize_shows {result : Option (Result Zval)} (herr : s.err = .init)
    {sized : Option (Result AsVal)}
    (hnumber : ∀ found, sized = some found → ∃ n, found = .number n)
    (hanswers : @Answers ClusterError _ _ (ReadsAs engine.rt) (.ok sized)
      (.ok result)) :
    ShowsList ((withCleanup (useSize bin (listAnswer (cString bin) (.ok sized)))
      cleanupErr).call s) (sizeReply result) := by
  have hclean : s.err.code = .ok := by rw [herr]; rfl
  have hrun : (useSize bin (listAnswer (cString bin) (.ok sized))).run s =
      (.ok (), { s with
        output := some (.long (sizeRead (sized.map resultValue))) }) := by
    unfold useSize
    rw [run_bind_ok (cleanupOnError_run_ok hclean), answerBin_listAnswer]
    rfl
  obtain ⟨hreply, hshown, -⟩ := call_withCleanupErr hrun (.inl rfl)
  have hok : ((withCleanup (useSize bin (listAnswer (cString bin) (.ok sized)))
      cleanupErr).call s).reply = some (.long .ok) := by rw [hreply, hclean]
  cases hanswers with
  | nothing => exact ⟨hok, _, hshown, by simp [Zval.Same, sizeRead]⟩
  | number n => exact ⟨hok, _, hshown, by simp [Zval.Same, sizeRead, resultValue]⟩
  | one _ =>
      obtain ⟨n, hn⟩ := hnumber _ rfl
      cases hn
  | many _ =>
      obtain ⟨n, hn⟩ := hnumber _ rfl
      cases hn

theorem usesResult_shows {useResult : Answer → Method Unit}
    (huses : UsesResult engine bin useResult) {found : Option (Result AsVal)}
    {result : Option (Result Zval)}
    (hanswers : @Answers ClusterError _ _ (ReadsAs engine.rt) (.ok found)
      (.ok result)) (herr : s.err = .init) (hblank : Blank s.output) :
    ShowsList ((withCleanup (useResult (listAnswer (cString bin) (.ok found)))
      cleanupErr).call s) (readReply result) := by
  cases found with
  | none =>
      cases hanswers
      exact usesResult_absent huses herr hblank
  | some found =>
      cases result with
      | none => cases hanswers
      | some result =>
          exact usesResult_returns huses (readsAs_result hanswers) herr

/-- A call shows what the machine answers. -/
theorem SingleOp.use_shows {op : SingleOp} {command : Command Zval}
    (hcommand : op.command = some command)
    {found : Except ClusterError (Option (Result AsVal))}
    {result : Except ClusterError (Option (Result Zval))}
    (hsize : command = .size → ∀ sized, found = .ok (some sized) →
      ∃ n, sized = .number n)
    (hanswers : Answers (ReadsAs engine.rt) found result)
    (herr : s.err = (listAnswer (cString bin) found).err)
    (hblank : Blank s.output) :
    ShowsList ((withCleanup (op.useResult engine bin
      (listAnswer (cString bin) found)) cleanupErr).call s)
      (replyTo command result) := by
  cases found with
  | error error =>
      cases hanswers
      have hreply := @SingleOp.use_failed engine op command hcommand bin _ s herr
        error.failed
      cases command <;> exact hreply
  | ok found =>
      have hinit : s.err = .init := herr
      have hdone : ((withCleanup (ignoreResult (listAnswer (cString bin)
          (.ok found))) cleanupErr).call s).reply = some (.long .ok) := by
        rw [(call_withCleanupErr (rfl : (ignoreResult _).run s = _) (.inl rfl)).1,
          hinit]
        rfl
      have hnothing : ∀ s : CallState, Blank s.output →
          ∃ s', (pure () : Method Unit).run s = (.ok (), s') ∧ s'.err = s.err ∧
            ListRead.Delivered engine.rt none s'.output :=
        fun s hblank => ⟨s, rfl, rfl, .inl hblank⟩
      have hempty : ∀ s : CallState, Blank s.output →
          ∃ s', (setOutput (.array [])).run s = (.ok (), s') ∧ s'.err = s.err ∧
            ListRead.Delivered engine.rt none s'.output :=
        fun s _ => ⟨_, rfl, rfl, .inr rfl⟩
      cases result with
      | error error => cases hanswers
      | ok result =>
          cases op with
          | append _ | prepend _ | increment _ => simp [SingleOp.command] at hcommand
          | listSize =>
              cases hcommand
              refine useSize_shows hinit (fun sized hsized => ?_) hanswers
              exact hsize rfl sized (congrArg Except.ok hsized)
          | listPop _ | listPopRange _ _ =>
              all_goals
                cases hcommand
                exact usesResult_shows (usePopped_usesResult bin) hanswers hinit
                  hblank
          | listGet _ =>
              cases hcommand
              exact usesResult_shows (useReturned_usesResult bin hnothing) hanswers
                hinit hblank
          | listGetRange _ _ =>
              cases hcommand
              exact usesResult_shows (useReturned_usesResult bin hempty) hanswers
                hinit hblank
          | listAppend _ | listMerge _ | listInsert _ _ | listInsertItems _ _
          | listRemove _ | listRemoveRange _ _ | listTrim _ _ | listClear
          | listSet _ _ =>
              all_goals
                cases hcommand
                exact hdone

end

/-! ## What is sent -/

section

variable {engine : Engine} {zPolicy : Option Zval}

theorem readsSerializer_of_ok {serializer : SerializerType}
    (hserializer : serializerOf engine zPolicy = .ok serializer) :
    ReadsSerializer engine zPolicy := by
  unfold ReadsSerializer
  unfold serializerOf at hserializer ⊢
  split at hserializer
  · next hok =>
      rw [if_pos hok]
  · cases hserializer

/-- The elements of an array are read as these, if they are stored whole. -/
theorem encodeItems_readsAs {rt : Runtime} {serializerType : SerializerType}
    (hrt : Faithful rt) {items : HashTable}
    (hwhole : ∀ z ∈ HashTable.values items, StoredWhole rt serializerType z) :
    ∃ values, encodeItems rt serializerType items = some values ∧
      Forall₂ (ReadsAs rt) values (HashTable.values items) := by
  induction items with
  | nil => exact ⟨[], rfl, .nil⟩
  | cons entry items ih =>
      rw [HashTable.values_cons, List.forall_mem_cons] at hwhole
      obtain ⟨values, hvalues, hreads⟩ := ih hwhole.2
      obtain ⟨value, hencode, -⟩ := hwhole.1.readsBack hrt
      refine ⟨value :: values, ?_, ?_⟩
      · rw [encodeItems]
        simp [hencode, hvalues]
      · exact .cons (readsAs_of_stored hrt hwhole.1 hencode) hreads

theorem valueOperation_sends (hrt : Faithful engine.rt) {z : Zval}
    {make : Option AsVal → Operation} {operation : Operation}
    (hmade : valueOperation engine zPolicy z make = .ok operation)
    (hwhole : StoredWhole engine.rt (callSerializer engine zPolicy) z) :
    ∃ value, operation = make (some value) ∧ ReadsAs engine.rt value z := by
  obtain ⟨serializer, hserializer, -⟩ := verdict_bind_eq_ok.mp hmade
  have htoOption := valueOperation_toOption (readsSerializer_of_ok hserializer)
    z make
  rw [hmade] at htoOption
  obtain ⟨value, hencode, hmake⟩ := Option.map_eq_some_iff.mp htoOption.symm
  exact ⟨value, hmake.symm, readsAs_of_stored hrt hwhole hencode⟩

theorem itemsOperation_sends (hrt : Faithful engine.rt) {items : HashTable}
    {make : Option (List AsVal) → Operation} {operation : Operation}
    (hmade : itemsOperation engine zPolicy items make = .ok operation)
    (hwhole : ∀ z ∈ HashTable.values items,
      StoredWhole engine.rt (callSerializer engine zPolicy) z) :
    ∃ values, operation = make (some values) ∧
      Forall₂ (ReadsAs engine.rt) values (HashTable.values items) := by
  obtain ⟨serializer, hserializer, -⟩ := verdict_bind_eq_ok.mp hmade
  have htoOption := itemsOperation_toOption (readsSerializer_of_ok hserializer)
    items make
  obtain ⟨values, hencode, hreads⟩ := encodeItems_readsAs hrt hwhole
  rw [hmade, hencode] at htoOption
  obtain ⟨-, hmake⟩ := Option.ite_none_right_eq_some.mp htoOption.symm
  exact ⟨values, (Option.some.inj hmake).symm, hreads⟩

/-- The operation that a method sends stands for its command, with elements
that read as those of the command. -/
theorem SingleOp.operation_command (hrt : Faithful engine.rt) {bin : String}
    {op : SingleOp} {command : Command Zval} (hcommand : op.command = some command)
    {operation : Operation}
    (hmade : op.operation engine zPolicy bin = .ok operation)
    (hwhole : ∀ z ∈ command.elements,
      StoredWhole engine.rt (callSerializer engine zPolicy) z) :
    operation.bin = some (cString bin) ∧
      ∃ sent, operation.command = some sent ∧
        sent.Rel (ReadsAs engine.rt) command := by
  cases op with
  | append _ | prepend _ | increment _ => simp [SingleOp.command] at hcommand
  | listAppend z =>
      cases hcommand
      simp only [SingleOp.operation] at hmade
      obtain ⟨value, rfl, hreads⟩ :=
        valueOperation_sends hrt hmade (hwhole z (by simp [Command.elements]))
      exact ⟨rfl, .append value, rfl, .append ⟨(value, z), hreads⟩, rfl, rfl⟩
  | listInsert index z =>
      cases hcommand
      simp only [SingleOp.operation] at hmade
      obtain ⟨value, rfl, hreads⟩ :=
        valueOperation_sends hrt hmade (hwhole z (by simp [Command.elements]))
      exact ⟨rfl, .insert index.toInt value, rfl,
        .insert index.toInt ⟨(value, z), hreads⟩, rfl, rfl⟩
  | listSet index z =>
      cases hcommand
      simp only [SingleOp.operation] at hmade
      obtain ⟨value, rfl, hreads⟩ :=
        valueOperation_sends hrt hmade (hwhole z (by simp [Command.elements]))
      exact ⟨rfl, .set index.toInt value, rfl,
        .set index.toInt ⟨(value, z), hreads⟩, rfl, rfl⟩
  | listMerge items =>
      cases hcommand
      simp only [SingleOp.operation] at hmade
      obtain ⟨values, rfl, hreads⟩ := itemsOperation_sends hrt hmade hwhole
      obtain ⟨pairs, hvalues, hitems⟩ := exists_pairs hreads
      exact ⟨rfl, .appendAll values, rfl, .appendAll pairs,
        congrArg Command.appendAll hvalues, congrArg Command.appendAll hitems⟩
  | listInsertItems index items =>
      cases hcommand
      simp only [SingleOp.operation] at hmade
      obtain ⟨values, rfl, hreads⟩ := itemsOperation_sends hrt hmade hwhole
      obtain ⟨pairs, hvalues, hitems⟩ := exists_pairs hreads
      exact ⟨rfl, .insertAll index.toInt values, rfl,
        .insertAll index.toInt pairs,
        congrArg (Command.insertAll index.toInt) hvalues,
        congrArg (Command.insertAll index.toInt) hitems⟩
  | listPop index =>
      cases hcommand
      obtain ⟨-, -, hmade⟩ := verdict_bind_eq_ok.mp hmade
      cases hmade
      exact ⟨rfl, _, rfl, .pop index.toInt, rfl, rfl⟩
  | listSize =>
      cases hcommand
      cases hmade
      exact ⟨rfl, _, rfl, .size, rfl, rfl⟩
  | listClear =>
      cases hcommand
      cases hmade
      exact ⟨rfl, _, rfl, .clear, rfl, rfl⟩
  | listRemove index =>
      cases hcommand
      cases hmade
      exact ⟨rfl, _, rfl, .remove index.toInt, rfl, rfl⟩
  | listGet index =>
      cases hcommand
      cases hmade
      exact ⟨rfl, _, rfl, .get index.toInt, rfl, rfl⟩
  | listPopRange index count =>
      cases hcommand
      cases hmade
      exact ⟨rfl, _, rfl, .popRange index.toInt _, rfl, rfl⟩
  | listRemoveRange index count =>
      cases hcommand
      cases hmade
      exact ⟨rfl, _, rfl, .removeRange index.toInt _, rfl, rfl⟩
  | listTrim index count =>
      cases hcommand
      cases hmade
      exact ⟨rfl, _, rfl, .trim index.toInt _, rfl, rfl⟩
  | listGetRange index count =>
      cases hcommand
      cases hmade
      exact ⟨rfl, _, rfl, .getRange index.toInt _, rfl, rfl⟩

end

/-! ## Calls and operations -/

/-- The policy lets every operation through, and what it reads comes back as
values. -/
structure PolicyOperate.Unconditional (policy : PolicyOperate) : Prop where
  gen : policy.gen = 0
  «exists» : policy.exists = 0
  deserialize : policy.deserialize = true

/-- What a call asks of the shelf of lists. -/
inductive AsksList (engine : Engine) (oracle : Oracle) : CommandCall → ListOp → Prop
  | run {call : CommandCall} {policy : PolicyOperate} {key : AsKey}
      {operation : Operation} {gen ttl : ℕ}
      (hverdict : call.op.verdict engine call.client oracle call.policies
        call.args = .ok (.keyOperate (some policy) key ⟨[operation], gen, ttl⟩))
      (hplain : policy.Unconditional)
      (hwhole : ∀ z ∈ call.command.elements,
        StoredWhole engine.rt (callSerializer engine call.args.policy) z) :
      AsksList engine oracle call
        (.run (engine.place key, cString call.args.bin) call.command)
  | nothing {call : CommandCall}
      (hverdict : call.op.verdict engine call.client oracle call.policies
        call.args = .error .failed) : AsksList engine oracle call .nothing

/-- The lists in the bins are read as the lists on the shelf. -/
def StocksLists (rt : Runtime) (lists : Lists AsVal) (shelf : Lists Zval) : Prop :=
  ∀ place, Option.Rel (Forall₂ (ReadsAs rt)) (lists place) (shelf place)

theorem StocksLists.update {rt : Runtime} {lists : Lists AsVal}
    {shelf : Lists Zval} (hstocks : StocksLists rt lists shelf) (place : BinPlace)
    {held : Option (List AsVal)} {held' : Option (List Zval)}
    (hheld : Option.Rel (Forall₂ (ReadsAs rt)) held held') :
    StocksLists rt (Function.update lists place held)
      (Function.update shelf place held') := by
  intro other
  by_cases heq : other = place
  · subst heq
    rwa [Function.update_self, Function.update_self]
  · rw [Function.update_of_ne heq, Function.update_of_ne heq]
    exact hstocks other

section

variable {engine : Engine} {machine : Machine ClusterError} {oracle : Oracle}
variable {client : Client} {policies : Policies} {args : ListArgs} {op : SingleOp}

theorem SingleOp.operation_of_verdict {policy : Option PolicyOperate}
    {key : AsKey} {operation : Operation} {gen ttl : ℕ}
    (hverdict : op.verdict engine client oracle policies args =
      .ok (.keyOperate policy key ⟨[operation], gen, ttl⟩)) :
    op.operation engine args.policy args.bin = .ok operation := by
  unfold SingleOp.verdict listVerdict oneOperation at hverdict
  simp only [verdict_bind_eq_ok, ensure_eq_ok, present_eq_ok] at hverdict
  obtain ⟨-, -, -, -, _, -, _, -, _, -, _, -, made, hmade, -, -, hrequest⟩ :=
    hverdict
  cases hadds : oracle.addOk 0 with
  | true =>
      simp only [hadds, if_true, Except.ok.injEq, Request.keyOperate.injEq,
        AsOperations.mk.injEq, List.cons.injEq] at hrequest
      obtain ⟨-, -, ⟨rfl, -⟩, -⟩ := hrequest
      exact hmade
  | false => simp [hadds] at hrequest

/-- The cluster carries out the command of the operation. -/
theorem serveList_of_command {policy : Option PolicyOperate} {key : AsKey}
    {operation : Operation} {gen ttl : ℕ} {bin : String} {sent : Command AsVal}
    (hbin : operation.bin = some bin) (hsent : operation.command = some sent)
    (lists : Lists AsVal) :
    engine.serveList machine
        (.keyOperate policy key ⟨[operation], gen, ttl⟩) lists =
      (listAnswer bin (machine.step sent (lists (engine.place key, bin))).result,
        Function.update lists (engine.place key, bin)
          (machine.step sent (lists (engine.place key, bin))).held) := by
  simp only [Engine.serveList, hbin, hsent]

/-! ## Histories -/

variable {lists : Lists AsVal} {shelf : Lists Zval}

theorem run_agrees (hrt : Faithful engine.rt)
    (hstocks : StocksLists engine.rt lists shelf) {call : CommandCall}
    {policy : PolicyOperate} {key : AsKey} {operation : Operation} {gen ttl : ℕ}
    (hverdict : call.op.verdict engine call.client oracle call.policies call.args =
      .ok (.keyOperate (some policy) key ⟨[operation], gen, ttl⟩))
    (hwhole : ∀ z ∈ call.command.elements,
      StoredWhole engine.rt (callSerializer engine call.args.policy) z) :
    let place := (engine.place key, cString call.args.bin)
    ShowsList ((listClient engine machine oracle).step lists call).1
        ((listShelf machine).step shelf (.run place call.command)).1 ∧
      StocksLists engine.rt ((listClient engine machine oracle).step lists call).2
        ((listShelf machine).step shelf (.run place call.command)).2 := by
  intro place
  have hmade := SingleOp.operation_of_verdict hverdict
  obtain ⟨hbin, sent, hsent, hrel⟩ :=
    SingleOp.operation_command hrt call.commands hmade hwhole
  obtain ⟨hanswers, hheld⟩ := machine.related hrel (hstocks place)
  have hserve := @serveList_of_command engine machine (some policy) key operation
    gen ttl _ sent hbin hsent lists
  have hsize : call.command = .size → ∀ sized,
      (machine.step sent (lists place)).result = .ok (some sized) →
        ∃ n, sized = .number n := by
    intro hcommand sized hsized
    rw [hcommand, hsized] at hanswers
    generalize hresult : (machine.step .size (shelf place)).result = result
      at hanswers
    cases hanswers with
    | number n => exact ⟨n, rfl⟩
    | one _ | many _ =>
        all_goals
          obtain ⟨n, hn⟩ := machine.size _ _ hresult
          cases hn
  have hsends := @SingleOp.sends engine call.client
    (engine.servingLists machine oracle lists) call.policies call.args _ _
    call.commands
  have hdelivers := @SingleOp.delivers engine call.client
    (engine.servingLists machine oracle lists) call.policies call.args _ _
    call.commands
  have hserved : call.op.verdict engine call.client
      (engine.servingLists machine oracle lists) call.policies call.args = _ :=
    hverdict
  rw [hserved] at hsends hdelivers
  have hrequests := meets_sameRequests (call_of_sends call.clientError hsends)
  obtain ⟨s', hblank, herr, hcall⟩ := hdelivers.call call.clientError
  have hanswer : (engine.servingLists machine oracle lists).answer 0
      (.keyOperate (some policy) key ⟨[operation], gen, ttl⟩) =
        listAnswer place.2 (machine.step sent (lists place)).result :=
    congrArg Prod.fst hserve
  rw [hanswer] at herr hcall
  refine ⟨?_, ?_⟩
  · have hshows := SingleOp.use_shows call.commands hsize hanswers herr hblank
    rw [← hcall] at hshows
    exact hshows
  · have hnext : ((listClient engine machine oracle).step lists call).2 =
        (engine.serveList machine
          (.keyOperate (some policy) key ⟨[operation], gen, ttl⟩) lists).2 :=
      congrArg (List.foldl _ lists) hrequests
    rw [hnext, hserve]
    exact hstocks.update place hheld

theorem refusedList_agrees (hstocks : StocksLists engine.rt lists shelf)
    {call : CommandCall}
    (hverdict : call.op.verdict engine call.client oracle call.policies call.args =
      .error .failed) :
    ShowsList ((listClient engine machine oracle).step lists call).1 .refused ∧
      StocksLists engine.rt ((listClient engine machine oracle).step lists call).2
        shelf := by
  have hsends := @SingleOp.sends engine call.client
    (engine.servingLists machine oracle lists) call.policies call.args _ _
    call.commands
  have hserved : call.op.verdict engine call.client
      (engine.servingLists machine oracle lists) call.policies call.args = _ :=
    hverdict
  rw [hserved] at hsends
  obtain ⟨hfailed, hrequests⟩ := call_of_sends call.clientError hsends
  have hnext : ((listClient engine machine oracle).step lists call).2 = lists :=
    congrArg (List.foldl _ lists) hrequests
  rw [hnext]
  exact ⟨hfailed, hstocks⟩

theorem listClient_simulates (hrt : Faithful engine.rt) :
    Simulates (listClient engine machine oracle) (listShelf machine)
      (StocksLists engine.rt) (AsksList engine oracle) ShowsList := by
  intro lists shelf call op hstocks hasks
  cases hasks with
  | run hverdict _ hwhole => exact run_agrees hrt hstocks hverdict hwhole
  | nothing hverdict => exact refusedList_agrees hstocks hverdict

/-- Over a history of calls of the list methods, each of which asks a command of
the shelf, all the calls reply as the shelf of PHP lists does, whatever the
machine is that carries the commands out on both sides. -/
theorem listClient_replies (hrt : Faithful engine.rt)
    (hstocks : StocksLists engine.rt lists shelf) {calls : List CommandCall}
    {ops : List ListOp} (hasks : Forall₂ (AsksList engine oracle) calls ops) :
    Forall₂ ShowsList ((listClient engine machine oracle).replies lists calls)
      ((listShelf machine).replies shelf ops) :=
  (listClient_simulates hrt).replies hstocks hasks

end

/-- What the cluster answers for an index without an element. -/
def opNotApplicable : ClusterError where
  err := { AsError.init with code := .other 26 }
  failed := by decide

def stockedArgs : ListArgs := ⟨stockedTable 1, "l", none⟩

def stockedCommand {command : Command Zval} (op : SingleOp)
    (commands : op.command = some command) : CommandCall :=
  ⟨.connected, Engine.stocking.init, .init, stockedArgs, op, command, commands⟩

/-- A list is filled in three ways, read from both ends, and emptied until there
is nothing at the place that is asked for. -/
def stockedListCalls : List CommandCall :=
  [stockedCommand (.listAppend storedEverything) rfl,
    stockedCommand (.listMerge [(.idx 0, .long 1), (.idx 1, .string "a")]) rfl,
    stockedCommand (.listMerge [(.str "x", .long 1)]) rfl,
    stockedCommand (.listInsert 0 .null) rfl,
    stockedCommand (.listGet (-1)) rfl, stockedCommand (.listGetRange 0 9) rfl,
    stockedCommand (.listPopRange 0 3) rfl, stockedCommand .listSize rfl,
    stockedCommand (.listPop 0) rfl, stockedCommand (.listPop 0) rfl]

def stockedListOps : List ListOp :=
  let place := (Engine.stocking.place (stockedKey 1), cString "l")
  [.run place (.append storedEverything),
    .run place (.appendAll [.long 1, .string "a"]), .nothing,
    .run place (.insert 0 .null), .run place (.get (-1)),
    .run place (.getRange 0 9), .run place (.popRange 0 3), .run place .size,
    .run place (.pop 0), .run place (.pop 0)]

theorem stockedCommand_asks {command : Command Zval} {op : SingleOp}
    {commands : op.command = some command} {operation : Operation}
    (hverdict : op.verdict Engine.stocking .connected .accepting
      Engine.stocking.init stockedArgs = .ok (.keyOperate
        (some Engine.stocking.init.operate) (stockedKey 1) ⟨[operation], 0, 0⟩))
    (hwhole : ∀ z ∈ command.elements, StoredWhole Engine.stocking.rt
      (callSerializer Engine.stocking none) z) :
    AsksList Engine.stocking .accepting (stockedCommand op commands)
      (.run (Engine.stocking.place (stockedKey 1), cString "l") command) :=
  @AsksList.run Engine.stocking .accepting (stockedCommand op commands)
    Engine.stocking.init.operate (stockedKey 1) operation 0 0 hverdict
    ⟨rfl, rfl, rfl⟩ hwhole

theorem stockedListCalls_ask :
    Forall₂ (AsksList Engine.stocking .accepting) stockedListCalls
      stockedListOps := by
  have hnone : ∀ z ∈ ([] : List Zval), StoredWhole Engine.stocking.rt
      (callSerializer Engine.stocking none) z := by simp
  have heverything : StoredWhole Engine.stocking.rt
      (callSerializer Engine.stocking none) storedEverything := by
    rw [stockedSerializer_eq]
    exact storedEverything_whole
  have hnull : StoredWhole Engine.stocking.rt
      (callSerializer Engine.stocking none) .null := by
    rw [stockedSerializer_eq]
    exact ⟨rfl, by simp [Zval.leaves, Zval.ShortBytes]⟩
  have hitems : ∀ z ∈ [.long 1, .string "a"], StoredWhole Engine.stocking.rt
      (callSerializer Engine.stocking none) z := by
    have ha : NulFree "a" := by decide
    simp only [List.forall_mem_cons]
    exact ⟨⟨trivial, by simp [Zval.leaves, Zval.ShortBytes]⟩,
      ⟨ha, by simp [Zval.leaves, Zval.ShortBytes]⟩, by simp⟩
  refine .cons (stockedCommand_asks rfl (by simpa [Command.elements])) ?_
  refine .cons (stockedCommand_asks rfl hitems) ?_
  refine .cons (.nothing rfl) ?_
  refine .cons (stockedCommand_asks rfl (by simpa [Command.elements])) ?_
  refine .cons (stockedCommand_asks rfl hnone) ?_
  refine .cons (stockedCommand_asks rfl hnone) ?_
  refine .cons (stockedCommand_asks rfl hnone) ?_
  refine .cons (stockedCommand_asks rfl hnone) ?_
  refine .cons (stockedCommand_asks rfl hnone) ?_
  exact .cons (stockedCommand_asks rfl hnone) .nil

theorem listClient_replies_stocked :
    Forall₂ ShowsList ((listClient Engine.stocking (listMachine opNotApplicable)
        .accepting).replies (fun _ => none) stockedListCalls)
      ((listShelf (listMachine opNotApplicable)).replies (fun _ => none)
        stockedListOps) :=
  listClient_replies storingRuntime_faithful (fun _ => .none) stockedListCalls_ask

end AerospikePhp
