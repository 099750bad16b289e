import AerospikePhp.Library.Transition
import AerospikePhp.PolicyFrames
import Mathlib.Tactic

/-!
# The configured operate policy

The converter of the operate policy copies a fresh policy over the configured
one.  This module finds, for every call, whether it reaches the converter, and
follows the configured policies through any sequence of calls on one handle.
-/

namespace AerospikePhp

open Procedure Method Proc

set_option synthInstance.maxSize 200000

/-! ## Pieces before and after the converter -/

/-- The piece goes on exactly when the condition holds, and keeps the
configured policies. -/
class Checks {α : Type} (condition : outParam Prop) (body : Method α) : Prop
    extends Moves SamePolicies body where
  goesOn : ∀ s, condition → ∃ value s', body.run s = (.ok value, s')
  stops : ∀ s, ¬ condition → ∃ exit s', body.run s = (.error exit, s')

/-- The piece overwrites the configured operate policy exactly when the
condition holds, and changes no other policy. -/
class Overwrites {α : Type} (condition : outParam Prop) (init : PolicyOperate)
    (body : Method α) : Prop where
  overwrites : ∀ s, condition →
    (body.run s).2.policies = { s.policies with operate := init }
  keeps : ∀ s, ¬ condition → (body.run s).2.policies = s.policies

section

variable {α β : Type} {condition : Prop} {init : PolicyOperate}

theorem checks_of_yields {body : Method α} {verdict : Verdict α}
    [Moves SamePolicies body]
    (hyields : Yields true anything body verdict anything)
    (hverdict : (∃ value, verdict = .ok value) ↔ condition) :
    Checks condition body where
  goesOn s hcondition := by
    have hrun := hyields s trivial
    obtain ⟨value, hvalue⟩ := hverdict.mpr hcondition
    rw [hvalue] at hrun
    obtain ⟨s', hrun, -⟩ := hrun
    exact ⟨value, s', hrun⟩
  stops s hcondition := by
    have hrun := hyields s trivial
    cases hvalue : verdict with
    | ok value => exact absurd (hverdict.mp ⟨value, hvalue⟩) hcondition
    | error halt =>
        rw [hvalue] at hrun
        obtain ⟨exit, s', hrun, -⟩ := hrun
        exact ⟨exit, s', hrun⟩

theorem checks_of_ensure {body : Method Unit} [Decidable condition]
    [Moves SamePolicies body]
    (hyields : Yields true anything body (ensure condition) anything) :
    Checks condition body :=
  checks_of_yields hyields (by simp)

instance : Checks True resetClientError :=
  checks_of_yields yields_resetClientError (by simp)

instance : Checks True errorInit :=
  checks_of_yields (yields_errorInit_any.weaken fun _ _ _ => trivial) (by simp)

instance (z : Zval) : Checks True (setOutput z) :=
  checks_of_yields (yields_setOutput z) (by simp)

instance (value : α) : Checks True (pure value : Method α) :=
  checks_of_yields (yields_pure value) (by simp)

instance (bad : Prop) [Decidable bad] (statement : Method Unit)
    [hstatement : Checks True statement] :
    Checks True (runIf bad statement) := by
  by_cases hbad : bad
  · rw [runIf_pos hbad]
    exact hstatement
  · rw [runIf_neg hbad]
    infer_instance

instance (bad : Prop) [Decidable bad] (failure : Method Unit)
    [Fails true failure] [Moves SamePolicies failure] :
    Checks (¬ bad) (runIf bad failure) :=
  checks_of_ensure (yields_check Iff.rfl)

instance (value : Option α) (failure : Method α) [Fails true failure]
    [Moves SamePolicies failure] :
    Checks value.isSome (orFail value failure) :=
  checks_of_yields yields_orFail (by simp [Option.isSome_iff_exists])

section

variable {engine : Engine} {client : Client}

instance (zKey : HashTable) (failure : Method AsKey) [Fails true failure]
    [Moves SamePolicies failure] :
    Checks (keyOf engine.keyInit zKey).isSome
      (requireKey engine zKey failure) :=
  checks_of_yields yields_requireKey (by simp [Option.isSome_iff_exists])

instance (invalid notConnected : String) :
    Checks client.Ready (validateClientAndConnection client .errClient invalid
      notConnected) :=
  checks_of_ensure (yields_validate (by decide))

instance (invalid notConnected : String) :
    Checks client.Ready (validateClientAndConnection client .errCluster invalid
      notConnected) :=
  checks_of_ensure (yields_validate (by decide))

instance : Checks client.Ready (validateListClient client) :=
  checks_of_ensure (yields_validate (by decide))

instance : Checks client.Ready (requireConnectionOrCleanup client) :=
  checks_of_ensure yields_requireConnectionOrCleanup

instance (bin : String) : Checks (bin.length ≤ asBinNameMaxLen) (checkBinName bin) :=
  checks_of_ensure yields_checkBinName

instance (offset : Zval) :
    Checks (incrValue engine.rt (some offset)).isSome
      (requireIncrement engine offset) := by
  unfold requireIncrement
  cases offset <;>
    · dsimp only
      infer_instance

end

/-! ## Rules -/

theorem overwrites_of_moves {body : Method α} [hmoves : Moves SamePolicies body] :
    Overwrites False init body where
  overwrites _ h := h.elim
  keeps s _ := hmoves.moves s

instance (body : Method β) (next : β → Method α) [hbody : Overwrites True init body]
    [hnext : ∀ value, Moves SamePolicies (next value)] :
    Overwrites True init (body >>= next) where
  overwrites s _ := by
    have hfirst := hbody.overwrites s trivial
    rw [run_bind]
    cases hrun : body.run s with
    | mk outcome s' =>
        rw [hrun] at hfirst
        cases outcome with
        | ok value => exact ((hnext value).moves s').trans hfirst
        | error exit => exact hfirst
  keeps _ h := absurd trivial h

instance (body : Method β) (next : β → Method α) {goesOn : Prop}
    [hbody : Checks goesOn body]
    [hnext : ∀ value, Overwrites condition init (next value)] :
    Overwrites (goesOn ∧ condition) init (body >>= next) where
  overwrites s h := by
    obtain ⟨value, s', hrun⟩ := hbody.goesOn s h.1
    have hsame := hbody.moves s
    rw [hrun] at hsame
    rw [run_bind_ok hrun, (hnext value).overwrites s' h.2, hsame]
  keeps s h := by
    have hsame := hbody.moves s
    by_cases hgoes : goesOn
    · obtain ⟨value, s', hrun⟩ := hbody.goesOn s hgoes
      rw [hrun] at hsame
      rw [run_bind_ok hrun, (hnext value).keeps s' fun hc => h ⟨hgoes, hc⟩]
      exact hsame
    · obtain ⟨exit, s', hrun⟩ := hbody.stops s hgoes
      rw [hrun] at hsame
      rw [run_bind_error hrun]
      exact hsame

/-- The rest of a call may look at arguments that are there. -/
instance (priority := high) (value : β) (failure : Method β)
    (next : β → Method α) [hnext : Overwrites condition init (next value)] :
    Overwrites condition init (orFail (some value) failure >>= next) := hnext

instance (priority := high) (failure : Method β) (next : β → Method α)
    [hfails : Fails true failure] [hmoves : Moves SamePolicies failure] :
    Overwrites False init (orFail none failure >>= next) where
  overwrites _ h := h.elim
  keeps s _ := by
    obtain ⟨exit, s', hrun, -⟩ := hfails.yields s trivial
    have hsame := hmoves.moves s
    have hnone : (orFail none failure).run s = (.error exit, s') := hrun
    rw [hrun] at hsame
    rw [run_bind_error hnone]
    exact hsame

instance (body : Method Unit) (cleanup : Method α)
    [hbody : Overwrites condition init body]
    [hcleanup : Moves SamePolicies cleanup] :
    Overwrites condition init (withCleanup body cleanup) := by
  have hafter : ∀ s, ((withCleanup body cleanup).run s).2.policies =
      (body.run s).2.policies := by
    intro s
    unfold withCleanup
    rw [run_bind, run_catchExit]
    cases hrun : body.run s with
    | mk outcome s' =>
        cases outcome with
        | ok value => exact hcleanup.moves s'
        | error exit =>
            cases exit with
            | ret reply => rfl
            | cleanup => exact hcleanup.moves s'
            | crash => rfl
  exact ⟨fun s h => (hafter s).trans (hbody.overwrites s h),
    fun s h => (hafter s).trans (hbody.keeps s h)⟩

theorem Overwrites.congr {condition' : Prop} {body : Method α}
    (hbody : Overwrites condition init body) (hiff : condition ↔ condition') :
    Overwrites condition' init body := by
  obtain rfl := propext hiff
  exact hbody

instance {engine : Engine} (zPolicy : Option Zval) (failure : Method Unit)
    [hfailure : Moves SamePolicies failure] :
    Overwrites True engine.init.operate
      (requireOperatePolicy engine zPolicy failure) where
  overwrites s _ := by
    obtain ⟨converted, s', hload, hpolicies⟩ : ∃ converted s',
        (loadPolicy operateField (zvalToAsPolicyOperate engine.rt
          engine.init.operate zPolicy)).run s = (.ok converted, s') ∧
        s'.policies = { s.policies with operate := engine.init.operate } := by
      refine ⟨_, _, rfl, ?_⟩
      have hdefault : (zvalToAsPolicyOperate engine.rt engine.init.operate
          zPolicy s.policies.operate).defaultPolicy = engine.init.operate :=
        policyFromZval_default ..
      show operateField.set (zvalToAsPolicyOperate engine.rt engine.init.operate
        zPolicy s.policies.operate).defaultPolicy s.policies = _
      rw [hdefault]
      rfl
    have hrest : Moves SamePolicies (do
        runIf (converted.status ≠ .ok) failure
        pure converted.policy : Method PolicyOperate) := inferInstance
    unfold requireOperatePolicy requirePolicy
    rw [run_bind_ok hload]
    exact (hrest.moves s').trans hpolicies
  keeps _ h := absurd trivial h

end

/-! ## The calls -/

/-- The key of a call that converts an operate policy, when the checks that
come before the key have nothing to object to. -/
def Call.operateKey (engine : Engine) : Call → Option HashTable
  | .operate (some args) => some args.key
  | .operateOrdered (some args) => args.policy.map fun _ => args.key
  | .touch (some args) => some args.key
  | .append (some args) | .prepend (some args) => keyWith args.bin args.key
  | .increment (some args) =>
      if (incrValue engine.rt (some args.offset)).isSome then
        keyWith args.bin args.key
      else none
  | .listSize (some args) | .listClear (some args) => keyWith args.bin args.key
  | .listAppend (some (args, _)) | .listMerge (some (args, _))
  | .listInsert (some (args, _)) | .listInsertItems (some (args, _))
  | .listPop (some (args, _)) | .listPopRange (some (args, _))
  | .listRemove (some (args, _)) | .listRemoveRange (some (args, _))
  | .listTrim (some (args, _)) | .listSet (some (args, _))
  | .listGet (some (args, _)) | .listGetRange (some (args, _)) =>
      keyWith args.bin args.key
  | _ => none
where
  keyWith (bin : String) (zKey : HashTable) : Option HashTable :=
    if bin.length ≤ asBinNameMaxLen then some zKey else none

/-- The call gets as far as the conversion of its operate options. -/
def Call.ConvertsOperate (engine : Engine) (client : Client) (call : Call) :
    Prop :=
  client.Ready ∧ ∃ zKey, call.operateKey engine = some zKey ∧
    (keyOf engine.keyInit zKey).isSome

section

variable {engine : Engine} {client : Client} {oracle : Oracle}

/-- The body of a list operation, whatever operation it makes. -/
instance (args : ListArgs) (makeOperation : Method Operation)
    (notAdded : Method Unit) (useResult : Answer → Method Unit)
    [Moves SamePolicies makeOperation] [Moves SamePolicies notAdded]
    [∀ answer, Moves SamePolicies (useResult answer)] :
    Overwrites (True ∧ (keyOf engine.keyInit args.key).isSome ∧ True)
      engine.init.operate
      (listBody engine oracle args makeOperation notAdded useResult) := by
  have hsetup : Overwrites
      (True ∧ (keyOf engine.keyInit args.key).isSome ∧ True)
      engine.init.operate (do
        errorInit
        let key ← requireKey engine args.key
          (failCleanup .errParam "Invalid key")
        let policy ← requireOperatePolicy engine args.policy
          (failCleanup .errParam "Invalid operate policy")
        let gen ← requireGeneration args.policy
          (failCleanup .errParam "Invalid generation policy")
        let ttl ← requireTtl args.policy (failCleanup .errParam "Invalid TTL")
        let op ← makeOperation
        runIf (oracle.addOk 0 = false) notAdded
        let answer ← issue oracle (.keyOperate (some policy) key
          (oneOperation (oracle.addOk 0) op gen ttl))
        useResult answer) := inferInstance
  unfold listBody setupListOperationVariables
  simp only [bind_assoc]
  exact hsetup

instance : Fails true (Proc.exit (.ret .null) : Method TouchArgs) :=
  ⟨fun s _ => ⟨.ret .null, s, rfl, rfl, trivial⟩⟩

/-- `operateOrdered` converts the options only when they are given. -/
instance (key : AsKey) (args : OperateArgs) :
    Overwrites args.policy.isSome engine.init.operate
      (operateOrderedBody engine oracle key args) := by
  obtain ⟨zKey, operations, returned, policy⟩ := args
  unfold operateOrderedBody
  cases policy with
  | none =>
      simp only [whenGiven]
      refine Overwrites.congr overwrites_of_moves ?_
      simp
  | some z =>
      simp only [whenGiven]
      refine Overwrites.congr inferInstance ?_
      simp

/-- What a call does to the configured operate policy. -/
theorem call_overwrites (call : Call) :
    Overwrites (call.ConvertsOperate engine client) engine.init.operate
      (call.method engine client oracle) := by
  by_cases hoperate : call.isOperate = false
  · have hmoves := @call_keepsPolicies engine client oracle call hoperate
    refine Overwrites.congr overwrites_of_moves ?_
    cases call <;> simp_all [Call.isOperate, Call.ConvertsOperate,
      Call.operateKey]
  cases call with
  | listSize args | listAppend args | listMerge args | listInsert args
  | listInsertItems args | listPop args | listPopRange args | listRemove args
  | listRemoveRange args | listTrim args | listClear args | listSet args
  | listGet args | listGetRange args =>
      all_goals
        simp only [Call.method, listSize, listAppend, appendItem, listMerge,
          mergeItems, listInsert, insertItem, listInsertItems, insertItems,
          listPop, popOperation, listPopRange, listRemove, listRemoveRange,
          listTrim, rangeMethod, listClear, listSet, setItem, listGet,
          getOperation, listGetRange]
        cases args with
        | none =>
            refine Overwrites.congr inferInstance ?_
            simp [Call.ConvertsOperate, Call.operateKey]
        | some args =>
            refine Overwrites.congr inferInstance ?_
            simp [Call.ConvertsOperate, Call.operateKey,
              Call.operateKey.keyWith]
  | operate args | operateOrdered args | touch args | append args
  | prepend args | increment args =>
      all_goals
        simp only [Call.method, operate, operateBody, operateOrdered, touch,
          touchBody, append, appendBody, prepend, prependBody, increment,
          incrementBody]
        cases args with
        | none =>
            refine Overwrites.congr inferInstance ?_
            simp [Call.ConvertsOperate, Call.operateKey]
        | some args =>
            refine Overwrites.congr inferInstance ?_
            simp [Call.ConvertsOperate, Call.operateKey,
              Call.operateKey.keyWith, Option.isSome_iff_exists]
              <;> tauto
  | _ => exact absurd rfl hoperate

/-- The policies after a call differ from those before in the operate policy,
if at all. -/
theorem run_policies_eq_iff (policies : Policies) (clientError : AsError)
    (call : Call) :
    (call.run engine client oracle policies clientError).state.policies =
        policies ↔
      (call.ConvertsOperate engine client →
        policies.operate = engine.init.operate) := by
  have hcall := @call_overwrites engine client oracle call
  have hstate : ∀ (method : Method Reply) (s : CallState),
      (method.call s).state = (method.run s).2 := by
    intro method s
    unfold Method.call
    cases method.run s with
    | mk outcome s' =>
        cases outcome with
        | ok reply => rfl
        | error exit => cases exit <;> rfl
  unfold Call.run
  rw [hstate]
  by_cases hconverts : call.ConvertsOperate engine client
  · rw [hcall.overwrites _ hconverts]
    constructor
    · intro heq _
      have hoperate := congrArg Policies.operate heq
      exact hoperate.symm
    · intro hsame
      have hoperate := hsame hconverts
      show { policies with operate := engine.init.operate } = policies
      rw [← hoperate]
  · rw [hcall.keeps _ hconverts]
    exact ⟨fun _ h => absurd h hconverts, fun _ => rfl⟩

end

/-! ## Runs of calls on one handle -/

open Transition

/-- A call that some client makes on the handle: the client's flags, what the
environment answers, and the error the client holds. -/
structure CallEvent where
  client : Client
  oracle : Oracle
  clientError : AsError
  call : Call

def CallEvent.outcome (engine : Engine) (policies : Policies)
    (event : CallEvent) : Outcome :=
  event.call.run engine event.client event.oracle policies event.clientError

/-- The configured policies of a handle, from those the constructor set. -/
def policyMachine (engine : Engine) (configured : Policies) :
    Machine Policies CallEvent where
  init := configured
  step policies event := (event.outcome engine policies).state.policies

/-- In a run of calls the configured policies stay those of the constructor,
so that every call comes to what it would come to as the first one. -/
def KeepsConfigured (engine : Engine) (configured : Policies)
    (events : List CallEvent) : Prop :=
  ∀ before after, events = before ++ after →
    (policyMachine engine configured).run before = configured ∧
    ∀ event rest, after = event :: rest →
      event.outcome engine ((policyMachine engine configured).run before) =
        event.outcome engine configured

/-- The call does not reach the operate converter, or the configured operate
policy is the fresh one. -/
def SparesOperate (engine : Engine) (policies : Policies)
    (event : CallEvent) : Prop :=
  event.call.ConvertsOperate engine event.client →
    policies.operate = engine.init.operate

variable {engine : Engine} {configured : Policies}

theorem step_eq_iff (policies : Policies) (event : CallEvent) :
    (policyMachine engine configured).step policies event = policies ↔
      SparesOperate engine policies event :=
  run_policies_eq_iff policies event.clientError event.call

theorem run_sparing {events : List CallEvent}
    (hevery : (policyMachine engine configured).EveryStep
      (SparesOperate engine) configured events) :
    (policyMachine engine configured).run events = configured := by
  have hstep : ∀ policies event, policies = configured →
      SparesOperate engine policies event →
      (policyMachine engine configured).step policies event = configured := by
    rintro policies event rfl hspares
    exact (step_eq_iff policies event).mpr hspares
  exact Machine.invariant_everyStep hstep rfl hevery

/-- The configured policies last through a run exactly when every call of it
spares the operate policy. -/
theorem keepsConfigured_iff (engine : Engine) (configured : Policies)
    (events : List CallEvent) :
    KeepsConfigured engine configured events ↔
      (policyMachine engine configured).EveryStep (SparesOperate engine)
        configured events := by
  constructor
  · intro hkeeps
    by_contra hnot
    obtain ⟨before, event, after, rfl, hbefore, hbad⟩ :=
      Machine.exists_first_of_not_everyStep hnot
    have hrun := run_sparing hbefore
    have hnext := (hkeeps (before ++ [event]) after (by simp)).1
    rw [Machine.run, Machine.runFrom_append] at hnext
    have hstep : (policyMachine engine configured).step configured event =
        configured := by
      rw [Machine.run] at hrun
      rw [hrun] at hnext
      exact hnext
    refine hbad ?_
    have hspares := (step_eq_iff configured event).mp hstep
    rwa [← hrun] at hspares
  · intro hevery before after heq
    rw [heq, Machine.everyStep_append] at hevery
    have hrun := run_sparing hevery.1
    refine ⟨hrun, fun event rest _ => ?_⟩
    rw [hrun]

/-- Policies whose operate timeout is five seconds. -/
def fiveSecondOperate : Policies :=
  { (default : Policies) with operate.base.totalTimeout := 5000 }

/-- `touch` without options. -/
def touchOnce : CallEvent where
  client := .connected
  oracle := .accepting
  clientError := .init
  call := .touch (some ⟨[(.str "ns", .string "test"), (.str "set", .string "demo"),
    (.str "key", .long 1)], 0, none⟩)

theorem touchOnce_not_keepsConfigured :
    ¬ KeepsConfigured .plain fiveSecondOperate [touchOnce] := by
  intro hkeeps
  have hrun := (hkeeps [touchOnce] [] rfl).1
  have hafter : ((policyMachine .plain fiveSecondOperate).run
      [touchOnce]).operate.base.totalTimeout = 0 := by rfl
  rw [hrun] at hafter
  simp [fiveSecondOperate] at hafter

end AerospikePhp
