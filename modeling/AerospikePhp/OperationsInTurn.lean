import AerospikePhp.BatchAnswers
import AerospikePhp.KeyRequests
import AerospikePhp.OperateDefaults
import AerospikePhp.SingleOperations
import Mathlib.Tactic

/-!
# Operations in turn and together

The methods with one operation, called one after the other on one handle, and a
batch with an entry for each of the calls.  The batch sends in one request what
the calls send in turn.
-/

namespace AerospikePhp

open Procedure Method AddOp SingleCall
open List (Forall₂)

section

variable {engine : Engine} {client : Client} {oracle : Oracle}
variable {policies : Policies} {zPolicy : Option Zval}

/-! ## The requests -/

/-- What `operate` and the methods read before their operations.  The converter
of the operate policy writes over the configured policy and does not read it. -/
structure OperateSetup (engine : Engine) (client : Client) (zKey : HashTable)
    (zPolicy : Option Zval) (policy : PolicyOperate) (key : AsKey) (gen : ℕ) :
    Prop where
  ready : client.Ready
  key : keyOf engine.keyInit zKey = some key
  policy : ∀ policies, operatePolicyOf engine policies zPolicy = .ok policy
  gen : generationOf zPolicy = .ok gen

/-- The call sends the request with this property, and nothing when there is
none. -/
structure Outcome.SendsThe (outcome : Outcome) (asked : Request → Prop) : Prop where
  sent : ∀ request, outcome.state.requests = [request] ↔ asked request
  silent : outcome.state.requests = [] ↔ ∀ request, ¬ asked request

theorem sendsThe_of_sends {method : Method Reply} {verdict : Verdict Request}
    {asked : Request → Prop} (clientError : AsError)
    (hsends : Sends SameRequests false (cleanWith policies) method verdict)
    (hasked : ∀ request, verdict = .ok request ↔ asked request) :
    (method.call (.start policies clientError)).SendsThe asked := by
  have hcall := call_of_sends clientError hsends
  obtain rfl : (verdict = .ok ·) = asked :=
    funext fun request => propext (hasked request)
  cases verdict with
  | ok sent =>
      have hsent := meets_sameRequests hcall
      exact ⟨by simp [hsent], by simp [hsent]⟩
  | error halt =>
      have hnone : (method.call (.start policies clientError)).state.requests =
          [] := by
        cases halt with
        | failed => exact hcall.2
        | crashed => exact hcall.2
      exact ⟨by simp [hnone], by simp [hnone]⟩

section

variable {gen ttl₀ : ℕ} {zKey : HashTable}

/-- The request of one operation. -/
def OneRequest (engine : Engine) (client : Client) (zKey : HashTable)
    (zPolicy : Option Zval) (operation : Verdict Operation) (ttl : ℕ)
    (request : Request) : Prop :=
  ∃ policy key gen op,
    OperateSetup engine client zKey zPolicy policy key gen ∧
      operation = .ok op ∧
      request = .keyOperate (some policy) key ⟨[op], gen, ttl⟩

theorem listVerdict_eq_ok_iff {args : ListArgs} {made : Verdict Operation}
    {checked : Bool} (hadds : oracle.addOk 0 = true)
    (httl : ttlOf args.policy = .ok ttl₀) (request : Request) :
    listVerdict engine client oracle policies args made checked = .ok request ↔
      OneRequest engine client args.key args.policy
        (ensure (args.bin.length ≤ asBinNameMaxLen) >>= fun _ => made) ttl₀
        request := by
  unfold listVerdict oneOperation OneRequest
  simp only [verdict_bind_eq_ok, ensure_eq_ok, present_eq_ok, httl, hadds,
    if_true, Except.ok.injEq]
  constructor
  · rintro ⟨-, hready, -, hbin, key, hkey, policy, hpolicy, gen, hgen, ttl, rfl,
      op, hmade, -, -, rfl⟩
    exact ⟨policy, key, gen, op, ⟨hready, hkey, fun _ => hpolicy, hgen⟩,
      ⟨(), hbin, hmade⟩, rfl⟩
  · rintro ⟨policy, key, gen, op, ⟨hready, hkey, hpolicy, hgen⟩,
      ⟨-, hbin, hmade⟩, rfl⟩
    exact ⟨(), hready, (), hbin, key, hkey, policy, hpolicy policies, gen, hgen, _,
      rfl, op, hmade, (), fun _ => trivial, rfl⟩

theorem stringOpVerdict_eq (op : OpType) (args : StringOpArgs) :
    stringOpVerdict engine client oracle policies op args =
      listVerdict engine client oracle policies
        ⟨args.key, args.bin, args.policy⟩
        (.ok { op, bin := some (cString args.bin),
               value := .string (cString args.value) }) false := by
  have hunchecked : ensure (false = true → oracle.addOk 0 = true) = .ok () :=
    if_pos (by simp)
  unfold stringOpVerdict listVerdict
  rw [hunchecked]
  rfl

/-- `increment` looks at its offset first. -/
theorem incrementVerdict_eq_ok_iff {args : IncrementArgs} {request : Request} :
    incrementVerdict engine client oracle policies args = .ok request ↔
      listVerdict engine client oracle policies
        ⟨args.key, args.bin, args.policy⟩
        ((SingleOp.increment args.offset).operation engine args.policy args.bin)
        false = .ok request := by
  unfold incrementVerdict listVerdict SingleOp.operation
  simp only [verdict_bind_eq_ok, ensure_eq_ok, present_eq_ok, Except.ok.injEq]
  constructor
  · rintro ⟨u, hready, value, hvalue, u', hbin, key, hkey, policy, hpolicy, gen,
      hgen, ttl, httl, rfl⟩
    exact ⟨u, hready, u', hbin, key, hkey, policy, hpolicy, gen, hgen, ttl, httl,
      _, ⟨value, hvalue, rfl⟩, (), by simp, rfl⟩
  · rintro ⟨u, hready, u', hbin, key, hkey, policy, hpolicy, gen, hgen, ttl, httl,
      _, ⟨value, hvalue, rfl⟩, -, -, rfl⟩
    exact ⟨u, hready, value, hvalue, u', hbin, key, hkey, policy, hpolicy, gen,
      hgen, ttl, httl, rfl⟩

theorem touchVerdict_eq_ok_iff {args : TouchArgs} (hadds : oracle.addOk 0 = true)
    (request : Request) :
    touchVerdict engine client oracle policies args = .ok request ↔
      OneRequest engine client args.key args.policy
        (.ok { op := .touch }) (toUint32 args.ttl) request := by
  unfold touchVerdict oneOperation OneRequest
  simp only [verdict_bind_eq_ok, ensure_eq_ok, present_eq_ok, hadds, if_true,
    Except.ok.injEq]
  constructor
  · rintro ⟨-, hready, key, hkey, policy, hpolicy, gen, hgen, rfl⟩
    exact ⟨policy, key, gen, _, ⟨hready, hkey, fun _ => hpolicy, hgen⟩, rfl, rfl⟩
  · rintro ⟨policy, key, gen, op, ⟨hready, hkey, hpolicy, hgen⟩, rfl, rfl⟩
    exact ⟨(), hready, key, hkey, policy, hpolicy policies, gen, hgen, rfl⟩

/-- Each method sends the operation that it adds. -/
theorem singleOp_sendsThe {args : ListArgs} (single : SingleOp)
    (clientError : AsError) (hadds : oracle.addOk 0 = true)
    (httl : ttlOf args.policy = .ok ttl₀) :
    ((single.call args).run engine client oracle policies clientError).SendsThe
      (OneRequest engine client args.key args.policy
        ((onBin args.bin single).operation engine args.policy) ttl₀) := by
  have hlist : ∀ {method : Method Reply} {checked : Bool},
      Sends SameRequests false (cleanWith policies) method
        (listVerdict engine client oracle policies args
          (single.operation engine args.policy args.bin) checked) →
      (method.call (.start policies clientError)).SendsThe
        (OneRequest engine client args.key args.policy
          ((onBin args.bin single).operation engine args.policy) ttl₀) :=
    fun hsends => sendsThe_of_sends clientError hsends
      (listVerdict_eq_ok_iff hadds httl)
  cases single with
  | append value =>
      have hsends := @append_sends engine client oracle policies
        ⟨args.key, args.bin, value, args.policy⟩
      rw [stringOpVerdict_eq] at hsends
      exact hlist hsends
  | prepend value =>
      have hsends := @prepend_sends engine client oracle policies
        ⟨args.key, args.bin, value, args.policy⟩
      rw [stringOpVerdict_eq] at hsends
      exact hlist hsends
  | increment offset =>
      have hsends := @increment_sends engine client oracle policies
        ⟨args.key, args.bin, offset, args.policy⟩
      refine sendsThe_of_sends clientError hsends fun request => ?_
      exact incrementVerdict_eq_ok_iff.trans
        (listVerdict_eq_ok_iff hadds httl request)
  | listSize => exact hlist (listSize_sends args)
  | listAppend z => exact hlist (listAppend_sends args z)
  | listMerge items => exact hlist (listMerge_sends args items)
  | listInsert index z => exact hlist (listInsert_sends args index z)
  | listInsertItems index items =>
      exact hlist (listInsertItems_sends args index items)
  | listPop index => exact hlist (listPop_sends args index)
  | listPopRange index count => exact hlist (listPopRange_sends args index count)
  | listRemove index => exact hlist (listRemove_sends args index)
  | listRemoveRange index count =>
      exact hlist (rangeMethod_sends _ _ args index count)
  | listTrim index count => exact hlist (rangeMethod_sends _ _ args index count)
  | listClear => exact hlist (listClear_sends args)
  | listSet index z => exact hlist (listSet_sends args index z)
  | listGet index => exact hlist (listGet_sends args index)
  | listGetRange index count => exact hlist (listGetRange_sends args index count)

theorem singleCall_sendsThe (step : SingleCall) (clientError : AsError)
    (hadds : oracle.addOk 0 = true) (httl : ttlOf zPolicy = .ok ttl₀) :
    ((step.call zKey zPolicy).run engine client oracle policies
        clientError).SendsThe
      (OneRequest engine client zKey zPolicy
        (step.operation engine zPolicy) (step.ttl.getD ttl₀)) := by
  cases step with
  | touch ttl =>
      exact sendsThe_of_sends clientError (touch_sends ⟨zKey, ttl, zPolicy⟩)
        (touchVerdict_eq_ok_iff hadds)
  | onBin bin single =>
      exact @singleOp_sendsThe engine client oracle policies ttl₀
        ⟨zKey, bin, zPolicy⟩ single clientError hadds httl

/-- The elements of an operations array, each written for one of the calls. -/
def WrittenFor (engine : Engine) (steps : List SingleCall) (zOps : HashTable) :
    Prop :=
  HashTable.hashtableIsList zOps = true ∧
    Forall₂ (fun z step => ∃ entry, z = .array entry ∧
      SingleCall.Written engine.operators step entry)
      (HashTable.values zOps) steps

theorem keyRefused_of_isListFrom {ordered : Bool} {zOps : HashTable} {i : ℕ}
    (hlist : HashTable.isListFrom i zOps = true) :
    ∀ entry ∈ zOps, keyRefused ordered entry.1 = false := by
  induction zOps generalizing i with
  | nil => simp
  | cons entry zOps ih =>
      obtain ⟨key, z⟩ := entry
      cases key with
      | str name => simp [HashTable.isListFrom] at hlist
      | idx index =>
          simp only [HashTable.isListFrom, Bool.if_false_right,
            Bool.and_eq_true] at hlist
          exact List.forall_mem_cons.mpr ⟨rfl, ih hlist.2⟩

theorem addedFor_of_written {ordered : Bool} {steps : List SingleCall}
    {zOps : HashTable} (hadds : ∀ i, oracle.addOk i = true)
    (hwritten : WrittenFor engine steps zOps) :
    Forall₂ (AddedFor engine.operators ordered) (batchOf oracle zOps) steps := by
  obtain ⟨hlist, hforall⟩ := hwritten
  have hbatch : batchOf oracle zOps = zOps.map fun entry => (entry, true) := by
    unfold batchOf
    apply List.ext_getElem <;> simp [hadds]
  have hkeys := @keyRefused_of_isListFrom ordered zOps 0 hlist
  unfold HashTable.values at hforall
  rw [List.forall₂_map_left_iff] at hforall
  rw [hbatch, List.forall₂_map_left_iff]
  refine ((List.forall₂_and_left _ _).mpr ⟨hkeys, hforall⟩).imp ?_
  exact fun entry step h => ⟨h.1, h.2, rfl⟩

theorem mapM_operation_iff {steps : List SingleCall} (ops : List Operation) :
    (steps.mapM fun step => (step.operation engine zPolicy).toOption) = some ops ↔
      Forall₂ (fun step op => step.operation engine zPolicy = .ok op) steps
        ops := by
  have htoOption : ∀ (step : SingleCall) (op : Operation),
      (step.operation engine zPolicy).toOption = some op ↔
        step.operation engine zPolicy = .ok op := by
    intro step op
    cases step.operation engine zPolicy <;> simp [Except.toOption]
  rw [mapM_eq_some_iff]
  simp only [htoOption]

theorem addedOperations_eq_ok_iff {ordered : Bool} {steps : List SingleCall}
    {zOps : HashTable} {operations : AsOperations}
    (hadds : ∀ i, oracle.addOk i = true)
    (hserializer : ReadsSerializer engine zPolicy)
    (hplain : ∀ step ∈ steps, step.Plain engine zPolicy)
    (hwritten : WrittenFor engine steps zOps) :
    addedOperations engine oracle ordered (callSerializer engine zPolicy) zOps
        gen ttl₀ = .ok operations ↔
      operations.gen = gen ∧ operations.ttl = lastTtl ttl₀ steps ∧
        Forall₂ (fun step op => step.operation engine zPolicy = .ok op) steps
          operations.ops := by
  have hbatch := @addedFor_of_written engine oracle ordered _ _ hadds hwritten
  have hrun := @addOperations_contributes engine zPolicy _ _ _
    ⟨.init, [], ttl₀, gen⟩ rfl hserializer hplain hbatch
  have hops := @mapM_operation_iff engine zPolicy steps
  unfold addedOperations
  cases hmade : steps.mapM fun step =>
      (step.operation engine zPolicy).toOption with
  | none =>
      rw [hmade] at hrun
      obtain ⟨status, s', hend, -⟩ := hrun
      rw [hend]
      constructor
      · intro hok
        cases hok
      · rintro ⟨-, -, hall⟩
        rw [(hops _).mpr hall] at hmade
        cases hmade
  | some ops =>
      rw [hmade] at hrun
      rw [hrun]
      have hall := (hops ops).mp hmade
      constructor
      · rintro ⟨⟩
        exact ⟨rfl, rfl, hall⟩
      · rintro ⟨hgen, hlast, hall'⟩
        rw [(hops _).mpr hall'] at hmade
        obtain ⟨ops', gen', ttl'⟩ := operations
        cases hmade
        cases hgen
        cases hlast
        rfl

/-- The request of a batch, with the policy as the method sends it. -/
def BatchRequest (engine : Engine) (client : Client) (zKey : HashTable)
    (zPolicy : Option Zval) (steps : List SingleCall) (ttl₀ : ℕ)
    (sent : PolicyOperate → Option PolicyOperate) (request : Request) : Prop :=
  ∃ policy key operations,
    OperateSetup engine client zKey zPolicy policy key operations.gen ∧
      steps ≠ [] ∧ operations.ttl = lastTtl ttl₀ steps ∧
      Forall₂ (fun step op => step.operation engine zPolicy = .ok op) steps
        operations.ops ∧
      request = .keyOperate (sent policy) key operations

/-- `operateOrdered` sends no policy where none is given. -/
def givenPolicy (zPolicy : Option Zval) (policy : PolicyOperate) :
    Option PolicyOperate :=
  zPolicy.map fun _ => policy

theorem numElements_of_written {steps : List SingleCall} {zOps : HashTable}
    (hwritten : WrittenFor engine steps zOps) :
    HashTable.numElements zOps ≠ 0 ↔ steps ≠ [] := by
  rw [← HashTable.length_values, hwritten.2.length_eq, ne_eq,
    List.length_eq_zero_iff]

section

variable {steps : List SingleCall} {args : OperateArgs}

theorem operateVerdict_eq_ok_iff (hadds : ∀ i, oracle.addOk i = true)
    (hserializer : ReadsSerializer engine args.policy)
    (httl : ttlOf args.policy = .ok ttl₀)
    (hplain : ∀ step ∈ steps, step.Plain engine args.policy)
    (hwritten : WrittenFor engine steps args.operations) (request : Request) :
    operateVerdict engine client oracle policies args = .ok request ↔
      BatchRequest engine client args.key args.policy steps ttl₀ some
        request := by
  unfold operateVerdict BatchRequest
  simp only [verdict_bind_eq_ok, ensure_eq_ok, present_eq_ok, httl,
    Except.ok.injEq, numElements_of_written hwritten, hwritten.1,
    addedOperations_eq_ok_iff hadds hserializer hplain hwritten]
  constructor
  · rintro ⟨-, hready, key, hkey, policy, hpolicy, -, hsteps, gen, hgen, ttl, rfl,
      -, -, operations, ⟨rfl, hlast, hops⟩, rfl⟩
    exact ⟨policy, key, operations, ⟨hready, hkey, fun _ => hpolicy, hgen⟩,
      hsteps, hlast, hops, rfl⟩
  · rintro ⟨policy, key, operations, ⟨hready, hkey, hpolicy, hgen⟩, hsteps,
      hlast, hops, rfl⟩
    exact ⟨(), hready, key, hkey, policy, hpolicy policies, (), hsteps, _, hgen, _,
      rfl, (), trivial, operations, ⟨rfl, hlast, hops⟩, rfl⟩

theorem ifGiven_operatePolicy_iff {sent : Option PolicyOperate} :
    ifGiven zPolicy (operatePolicyOf engine policies zPolicy) = .ok sent ↔
      ∃ policy, operatePolicyOf engine policies zPolicy = .ok policy ∧
        sent = givenPolicy zPolicy policy := by
  cases zPolicy with
  | none =>
      have hnone : operatePolicyOf engine policies none =
          .ok (zvalToAsPolicyOperate engine.rt engine.init.operate none
            policies.operate).policy := rfl
      rw [hnone]
      simp [ifGiven, givenPolicy, eq_comm]
  | some z =>
      show (operatePolicyOf engine policies (some z) >>= fun value =>
        .ok (some value)) = .ok sent ↔ _
      rw [verdict_bind_eq_ok]
      simp [givenPolicy, eq_comm]

theorem operateOrderedVerdict_eq_ok_iff (hadds : ∀ i, oracle.addOk i = true)
    (hserializer : ReadsSerializer engine args.policy)
    (httl : ttlOf args.policy = .ok ttl₀)
    (hplain : ∀ step ∈ steps, step.Plain engine args.policy)
    (hwritten : WrittenFor engine steps args.operations) (request : Request) :
    operateOrderedVerdict engine client oracle policies args = .ok request ↔
      BatchRequest engine client args.key args.policy steps ttl₀
        (givenPolicy args.policy) request := by
  unfold operateOrderedVerdict BatchRequest
  simp only [verdict_bind_eq_ok, ensure_eq_ok, present_eq_ok, httl,
    Except.ok.injEq, numElements_of_written hwritten, ifGiven_operatePolicy_iff,
    addedOperations_eq_ok_iff hadds hserializer hplain hwritten]
  constructor
  · rintro ⟨-, hready, key, hkey, -, ⟨policy, hpolicy, rfl⟩, -, hsteps, gen, hgen,
      ttl, rfl, operations, ⟨rfl, hlast, hops⟩, rfl⟩
    exact ⟨policy, key, operations, ⟨hready, hkey, fun _ => hpolicy, hgen⟩,
      hsteps, hlast, hops, rfl⟩
  · rintro ⟨policy, key, operations, ⟨hready, hkey, hpolicy, hgen⟩, hsteps,
      hlast, hops, rfl⟩
    exact ⟨(), hready, key, hkey, _, ⟨policy, hpolicy policies, rfl⟩, (), hsteps,
      _, hgen, _, rfl, operations, ⟨rfl, hlast, hops⟩, rfl⟩

end

/-! ## In turn and together -/

/-- The outcomes of calls on one handle, each from the configured policies that
the calls before left. -/
def outcomesInTurn (engine : Engine) :
    Policies → List CallEvent → List Outcome
  | _, [] => []
  | policies, event :: events =>
      event.outcome engine policies :: outcomesInTurn engine
        (event.outcome engine policies).state.policies events

/-- The event is the call for this step. -/
structure MadeFor (client : Client) (zKey : HashTable) (zPolicy : Option Zval)
    (event : CallEvent) (step : SingleCall) : Prop where
  client : client = event.client
  call : event.call = step.call zKey zPolicy
  added : event.oracle.addOk 0 = true

/-- The calls send, one after the other, these operations under one policy,
key and generation; a touch brings its own ttl, and the batch has the last. -/
structure SentInTurn (engine : Engine) (policies : Policies)
    (events : List CallEvent) (steps : List SingleCall) (ttl₀ : ℕ)
    (policy : PolicyOperate) (key : AsKey) (operations : AsOperations) :
    Prop where
  nonempty : steps ≠ []
  ttl : operations.ttl = lastTtl ttl₀ steps
  length : steps.length = operations.ops.length
  requests : (outcomesInTurn engine policies events).map (·.state.requests) =
    List.zipWith (fun step op => [.keyOperate (some policy) key
      ⟨[op], operations.gen, step.ttl.getD ttl₀⟩]) steps operations.ops

theorem oneRequest_iff {operation : Verdict Operation} {policy : PolicyOperate}
    {key : AsKey} {op : Operation} {ttl : ℕ} :
    OneRequest engine client zKey zPolicy operation ttl
        (.keyOperate (some policy) key ⟨[op], gen, ttl⟩) ↔
      OperateSetup engine client zKey zPolicy policy key gen ∧
        operation = .ok op := by
  constructor
  · rintro ⟨policy', key', gen', op', hsetup, hop, hrequest⟩
    cases hrequest
    exact ⟨hsetup, hop⟩
  · rintro ⟨hsetup, hop⟩
    exact ⟨policy, key, gen, op, hsetup, hop, rfl⟩

/-- Each call of a run, whatever the calls before did to the policies. -/
theorem outcomesInTurn_sendThe {events : List CallEvent}
    {steps : List SingleCall} (policies : Policies)
    (httl : ttlOf zPolicy = .ok ttl₀)
    (hevents : Forall₂ (MadeFor client zKey zPolicy) events steps) :
    Forall₂ (fun outcome step => outcome.SendsThe
        (OneRequest engine client zKey zPolicy
          (SingleCall.operation engine zPolicy step) (step.ttl.getD ttl₀)))
      (outcomesInTurn engine policies events) steps := by
  induction hevents generalizing policies with
  | nil => exact .nil
  | @cons event step events steps hhead _ ih =>
      refine .cons ?_ (ih _)
      obtain ⟨eventClient, oracle, clientError, call⟩ := event
      obtain ⟨rfl, rfl, hadded⟩ := hhead
      exact singleCall_sendsThe step clientError hadded httl

/-- The requests of a run of calls. -/
theorem requests_eq_zipWith_iff {steps : List SingleCall}
    {outcomes : List Outcome} {policy : PolicyOperate} {key : AsKey}
    {ops : List Operation}
    (houtcomes : Forall₂ (fun outcome step => outcome.SendsThe
        (OneRequest engine client zKey zPolicy
          (SingleCall.operation engine zPolicy step) (step.ttl.getD ttl₀)))
      outcomes steps) :
    (steps.length = ops.length ∧ outcomes.map (·.state.requests) =
        List.zipWith (fun step op => [.keyOperate (some policy) key
          ⟨[op], gen, step.ttl.getD ttl₀⟩]) steps ops) ↔
      Forall₂ (fun step op =>
        OperateSetup engine client zKey zPolicy policy key gen ∧
          SingleCall.operation engine zPolicy step = .ok op) steps ops := by
  induction houtcomes generalizing ops with
  | nil => cases ops <;> simp
  | @cons outcome step outcomes steps hhead _ ih =>
      cases ops with
      | nil => simp
      | cons op ops =>
          have hrest := @ih ops
          simp only [List.length_cons, Nat.add_right_cancel_iff, List.map_cons,
            List.zipWith_cons_cons, List.cons.injEq, List.forall₂_cons,
            hhead.sent, oneRequest_iff, ← hrest]
          tauto

theorem batchRequest_iff {steps : List SingleCall} {events : List CallEvent}
    {request : Request} {sent : PolicyOperate → Option PolicyOperate}
    (policies : Policies) (httl : ttlOf zPolicy = .ok ttl₀)
    (hevents : Forall₂ (MadeFor client zKey zPolicy) events steps) :
    BatchRequest engine client zKey zPolicy steps ttl₀ sent request ↔
      ∃ policy key operations, request = .keyOperate (sent policy) key operations ∧
        SentInTurn engine policies events steps ttl₀ policy key operations := by
  have houtcomes := @outcomesInTurn_sendThe engine client zPolicy ttl₀ zKey
    events steps policies httl hevents
  constructor
  · rintro ⟨policy, key, operations, hsetup, hsteps, hlast, hops, rfl⟩
    obtain ⟨hlength, hrequests⟩ := (requests_eq_zipWith_iff houtcomes).mpr
      (hops.imp fun _ _ hop => ⟨hsetup, hop⟩)
    exact ⟨policy, key, operations, rfl, hsteps, hlast, hlength, hrequests⟩
  · rintro ⟨policy, key, operations, rfl, hsteps, hlast, hlength, hrequests⟩
    have hall := (@requests_eq_zipWith_iff engine client zPolicy operations.gen
      ttl₀ zKey steps _ policy key operations.ops houtcomes).mp
        ⟨hlength, hrequests⟩
    refine ⟨policy, key, operations, ?_, hsteps, hlast,
      hall.imp fun _ _ h => h.2, rfl⟩
    generalize operations.ops = ops at hall
    cases hall with
    | nil => exact absurd rfl hsteps
    | cons hhead _ => exact hhead.1

/-- All can be sent together when every call of the run sends something. -/
theorem exists_sentInTurn_iff {steps : List SingleCall} {events : List CallEvent}
    (policies : Policies) (httl : ttlOf zPolicy = .ok ttl₀)
    (hevents : Forall₂ (MadeFor client zKey zPolicy) events steps) :
    (∃ policy key operations,
        SentInTurn engine policies events steps ttl₀ policy key operations) ↔
      steps ≠ [] ∧ ∀ outcome ∈ outcomesInTurn engine policies events,
        outcome.state.requests ≠ [] := by
  have houtcomes := @outcomesInTurn_sendThe engine client zPolicy ttl₀ zKey
    events steps policies httl hevents
  constructor
  · rintro ⟨policy, key, operations, hsteps, -, -, hrequests⟩
    have hsome : ∀ sent ∈ List.zipWith (fun (step : SingleCall) op =>
        [Request.keyOperate (some policy) key
          ⟨[op], operations.gen, step.ttl.getD ttl₀⟩]) steps operations.ops,
        sent ≠ [] := by
      intro sent hmem
      obtain ⟨i, hi, rfl⟩ := List.getElem_of_mem hmem
      simp
    rw [← hrequests, List.forall_mem_map] at hsome
    exact ⟨hsteps, hsome⟩
  · rintro ⟨hsteps, hall⟩
    have hone : ∀ step ∈ steps, ∃ request, OneRequest engine client zKey zPolicy
        (SingleCall.operation engine zPolicy step) (step.ttl.getD ttl₀)
        request := by
      have hboth := (List.forall₂_and_left _ _).mpr ⟨hall, houtcomes⟩
      have hsteps : Forall₂ (fun step (_ : Outcome) => (∃ request, OneRequest
          engine client zKey zPolicy (SingleCall.operation engine zPolicy step)
          (step.ttl.getD ttl₀) request) ∧ True) steps
          (outcomesInTurn engine policies events) := by
        refine hboth.flip.imp fun step outcome ⟨hsent, hsends⟩ => ⟨?_, trivial⟩
        rw [ne_eq, hsends.silent] at hsent
        exact not_forall_not.mp hsent
      exact ((List.forall₂_and_left _ _).mp hsteps).1
    have hmade : (steps.mapM fun step : SingleCall =>
        (step.operation engine zPolicy).toOption).isSome := by
      rw [mapM_isSome_iff]
      intro step hmem
      obtain ⟨request, -, -, -, op, -, hop, -⟩ := hone step hmem
      rw [hop]
      rfl
    obtain ⟨ops, hops⟩ := Option.isSome_iff_exists.mp hmade
    obtain ⟨first, hfirst⟩ := List.exists_mem_of_ne_nil steps hsteps
    obtain ⟨request, policy, key, gen, -, hsetup, -, -⟩ := hone first hfirst
    obtain ⟨hlength, hrequests⟩ := (requests_eq_zipWith_iff houtcomes).mpr
      (((mapM_operation_iff ops).mp hops).imp fun _ _ hop => ⟨hsetup, hop⟩)
    exact ⟨policy, key, ⟨ops, gen, lastTtl ttl₀ steps⟩, hsteps, rfl, hlength,
      hrequests⟩

end

/-- A batch sends in one request what its calls send in turn, and nothing when
one of them sends nothing. -/
theorem operate_sends_in_turn (engine : Engine) (client : Client)
    (oracle : Oracle) (policies : Policies) (clientError : AsError)
    (args : OperateArgs) (steps : List SingleCall) (events : List CallEvent)
    (ttl₀ : ℕ) (hadds : ∀ i, oracle.addOk i = true)
    (hserializer : ReadsSerializer engine args.policy)
    (httl : ttlOf args.policy = .ok ttl₀)
    (hplain : ∀ step ∈ steps, step.Plain engine args.policy)
    (hwritten : WrittenFor engine steps args.operations)
    (hevents : Forall₂ (MadeFor client args.key args.policy) events steps) :
    ((Call.operate (some args)).run engine client oracle policies
        clientError).SendsThe (fun request => ∃ policy key operations,
      request = .keyOperate (some policy) key operations ∧
        SentInTurn engine policies events steps ttl₀ policy key operations) ∧
    ((Call.operateOrdered (some args)).run engine client oracle policies
        clientError).SendsThe (fun request => ∃ policy key operations,
      request = .keyOperate (givenPolicy args.policy policy) key operations ∧
        SentInTurn engine policies events steps ttl₀ policy key operations) ∧
    ((∃ policy key operations,
        SentInTurn engine policies events steps ttl₀ policy key operations) ↔
      steps ≠ [] ∧ ∀ outcome ∈ outcomesInTurn engine policies events,
        outcome.state.requests ≠ []) := by
  refine ⟨?_, ?_, exists_sentInTurn_iff policies httl hevents⟩
  · refine sendsThe_of_sends clientError (operate_sends args) fun request => ?_
    exact (operateVerdict_eq_ok_iff hadds hserializer httl hplain hwritten
      request).trans (batchRequest_iff policies httl hevents)
  · refine sendsThe_of_sends clientError (operateOrdered_sends args)
      fun request => ?_
    exact (operateOrderedVerdict_eq_ok_iff hadds hserializer httl hplain hwritten
      request).trans (batchRequest_iff policies httl hevents)

end

/-- A string, a time to live and two changes of a list. -/
def mixedSteps : List SingleCall :=
  [.onBin "s" (.append "x"), .touch 60,
    .onBin "l" (.listMerge [(.idx 0, .long 1), (.idx 1, .string "a")]),
    .onBin "l" (.listInsert 0 (.long 7))]

def mixedBatch : OperateArgs where
  key := lostTouch.key
  operations := [
    (.idx 0, .array [(.str "bin", .string "s"), (.str "op", .long 9),
      (.str "val", .string "x")]),
    (.idx 1, .array [(.str "op", .long 11), (.str "ttl", .long 60)]),
    (.idx 2, .array [(.str "op", .long 1002), (.str "bin", .string "l"),
      (.str "val", .array [(.idx 0, .long 1), (.idx 1, .string "a")])]),
    (.idx 3, .array [(.str "op", .long 1003), (.str "bin", .string "l"),
      (.str "index", .long 0), (.str "val", .long 7)])]
  returned := false
  policy := none

theorem mixedBatch_written :
    WrittenFor Engine.plain mixedSteps mixedBatch.operations := by
  refine ⟨by decide, ?_⟩
  refine .cons ⟨_, rfl, ⟨_, rfl, by decide⟩, rfl, by simp [SingleOp.index], ?_⟩
    (.cons ⟨_, rfl, ⟨_, rfl, by decide⟩, rfl⟩
    (.cons ⟨_, rfl, ⟨_, rfl, by decide⟩, rfl, by simp [SingleOp.index], ?_⟩
    (.cons ⟨_, rfl, ⟨_, rfl, by decide⟩, rfl, ?_, ?_⟩ .nil)))
  · rintro z ⟨⟩
    rfl
  · rintro z ⟨⟩
    rfl
  · rintro index ⟨⟩
    rfl
  · rintro z ⟨⟩
    rfl

theorem mixedSteps_plain :
    ∀ step ∈ mixedSteps, step.Plain Engine.plain mixedBatch.policy := by
  simp only [mixedSteps, List.forall_mem_cons, SingleCall.Plain, SingleOp.items]
  refine ⟨⟨by decide, by simp⟩, trivial, ⟨by decide, ?_⟩, ⟨by decide, by simp⟩,
    by simp⟩
  rintro items ⟨⟩
  rfl

/-- The calls for them, one after the other. -/
def mixedEvents : List CallEvent :=
  mixedSteps.map fun step =>
    ⟨.connected, .accepting, .init, step.call mixedBatch.key mixedBatch.policy⟩

theorem mixedEvents_made :
    Forall₂ (MadeFor Client.connected mixedBatch.key mixedBatch.policy)
      mixedEvents mixedSteps := by
  unfold mixedEvents
  rw [List.forall₂_map_left_iff, List.forall₂_same]
  exact fun step _ => ⟨rfl, rfl, rfl⟩

theorem operate_sends_in_turn_mixed :
    ((Call.operate (some mixedBatch)).run Engine.plain Client.connected
        Oracle.accepting default .init).SendsThe
      (fun request => ∃ policy key operations,
        request = .keyOperate (some policy) key operations ∧
          SentInTurn Engine.plain default mixedEvents mixedSteps 0 policy key
            operations) :=
  (operate_sends_in_turn Engine.plain Client.connected Oracle.accepting default
    .init mixedBatch mixedSteps mixedEvents 0 (fun _ => rfl) rfl rfl
    mixedSteps_plain mixedBatch_written mixedEvents_made).1

end AerospikePhp
