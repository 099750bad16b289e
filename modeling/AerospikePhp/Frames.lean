import AerospikePhp.ListMethods
import AerospikePhp.BatchMethods
import Mathlib.Tactic

/-!
# What the pieces of a method leave alone

Most statements of a method touch neither the client's policies nor the list of
requests.  A policy converter can change the first, and only a request changes
the second.
-/

namespace AerospikePhp

open Procedure Method Proc

def SamePolicies (s s' : CallState) : Prop := s'.policies = s.policies

def SameRequests (s s' : CallState) : Prop := s'.requests = s.requests

/-- A relation between entry and exit that does not look at the error
objects. -/
class ErrorFrame (R : CallState → CallState → Prop) : Prop
    extends Std.Refl R, IsTrans CallState R where
  errorOnly : ∀ {s s' : CallState}, s'.policies = s.policies →
    s'.requests = s.requests → s'.output = s.output → R s s'

/-- A relation between entry and exit that looks only at the policies and the
requests. -/
class Frame (R : CallState → CallState → Prop) : Prop
    extends Std.Refl R, IsTrans CallState R where
  untouched : ∀ {s s' : CallState}, s'.policies = s.policies →
    s'.requests = s.requests → R s s'

instance (R : CallState → CallState → Prop) [Frame R] : ErrorFrame R where
  errorOnly hpolicies hrequests _ := Frame.untouched hpolicies hrequests

instance : Frame SamePolicies where
  refl _ := rfl
  trans _ _ _ h h' := Eq.trans h' h
  untouched h _ := h

instance : Frame SameRequests where
  refl _ := rfl
  trans _ _ _ h h' := Eq.trans h' h
  untouched _ h := h

section

variable {α : Type} {R : CallState → CallState → Prop} [ErrorFrame R]

theorem moves_local {change : CallState → CallState}
    (hpolicies : ∀ s, (change s).policies = s.policies)
    (hrequests : ∀ s, (change s).requests = s.requests)
    (houtput : ∀ s, (change s).output = s.output) :
    Moves R (modify change : Method Unit) :=
  moves_modify fun s =>
    ErrorFrame.errorOnly (hpolicies s) (hrequests s) (houtput s)

/-! ## Statements -/

instance (code : AsStatus) (message : String) : Moves R (setErr code message) :=
  moves_local (fun _ => rfl) (fun _ => rfl) fun _ => rfl

instance (code : AsStatus) : Moves R (setErrCode code) :=
  moves_local (fun _ => rfl) (fun _ => rfl) fun _ => rfl

instance (err : AsError) : Moves R (setErrTo err) :=
  moves_local (fun _ => rfl) (fun _ => rfl) fun _ => rfl

instance : Moves R errorInit := moves_local (fun _ => rfl) (fun _ => rfl) fun _ => rfl

instance : Moves R resetClientError := moves_local (fun _ => rfl) (fun _ => rfl) fun _ => rfl

instance (code : AsStatus) (message : String) :
    Moves R (updateClientError code message) :=
  moves_local (fun _ => rfl) (fun _ => rfl) fun _ => rfl

instance : Moves R reportErr := moves_local (fun _ => rfl) (fun _ => rfl) fun _ => rfl

instance (status : AsStatus) : Moves R (returnLong status : Method α) := by
  unfold returnLong
  infer_instance

instance : Moves R (returnErrCode : Method α) := by
  unfold returnErrCode
  infer_instance

instance : Moves R (gotoCleanup : Method α) := by
  unfold gotoCleanup
  infer_instance

instance : Moves R (crash : Method α) := by
  unfold crash
  infer_instance

instance (code : AsStatus) (message : String) :
    Moves R (failReturn code message : Method α) := by
  unfold failReturn
  infer_instance

instance (code : AsStatus) (message : String) :
    Moves R (failCleanup code message : Method α) := by
  unfold failCleanup
  infer_instance

instance (code : AsStatus) (message : String) :
    Moves R (failCode code message : Method α) := by
  unfold failCode
  infer_instance

/-! ## Combinators -/

instance (condition : Prop) [Decidable condition] (statement : Method Unit)
    [Moves R statement] : Moves R (runIf condition statement) := by
  unfold runIf
  infer_instance

instance (value : Option α) (failure : Method α) [h : Moves R failure] :
    Moves R (orFail value failure) := by
  cases value with
  | none => exact h
  | some v => exact inferInstanceAs (Moves R (pure v))

instance (value : Option α) (statement : α → Method Unit)
    [h : ∀ v, Moves R (statement v)] : Moves R (forSome value statement) := by
  cases value with
  | none => exact inferInstanceAs (Moves R (pure ()))
  | some v => exact h v

instance (z : Option Zval) (load : Method α) [Moves R load] :
    Moves R (whenGiven z load) := by
  cases z with
  | none => exact inferInstanceAs (Moves R (pure none))
  | some z =>
      unfold whenGiven
      infer_instance

instance (body : Method Unit) (cleanup : Method α) [Moves R body]
    [Moves R cleanup] : Moves R (withCleanup body cleanup) := by
  have hhandler : ∀ exit : Exit, Moves R (match exit with
      | .cleanup => (pure () : Method Unit)
      | exit => Proc.exit exit) := by
    intro exit
    cases exit <;> infer_instance
  unfold withCleanup
  infer_instance

instance : Moves R cleanupErr := by
  unfold cleanupErr
  infer_instance

instance : Moves R cleanupOnError := by
  unfold cleanupOnError
  infer_instance

instance (converter : AsError → Converted α) : Moves R (convert converter) := by
  unfold convert
  infer_instance

instance (answer : Answer) : Moves R (returnAnswer answer) := by
  unfold returnAnswer
  infer_instance

/-! ## Guards and arguments -/

section

variable (engine : Engine) (client : Client) (oracle : Oracle)

instance : Moves R (checkObjectAndConnection client) := by
  unfold checkObjectAndConnection
  infer_instance

instance : Moves R (requireConnection client) := by
  unfold requireConnection
  infer_instance

instance : Moves R (requireConnectionOrCleanup client) := by
  unfold requireConnectionOrCleanup
  infer_instance

instance (code : AsStatus) (invalid notConnected : String) :
    Moves R (validateClientAndConnection client code invalid notConnected) := by
  unfold validateClientAndConnection
  infer_instance

instance : Moves R (validateListClient client) := by
  unfold validateListClient
  infer_instance

instance (bin : String) : Moves R (checkBinName bin) := by
  unfold checkBinName
  infer_instance

instance (zKey : HashTable) (failure : Method AsKey) [Moves R failure] :
    Moves R (requireKey engine zKey failure) := by
  unfold requireKey
  infer_instance

instance (zPolicy : Option Zval) (failure : Method Unit) [Moves R failure] :
    Moves R (requireGeneration zPolicy failure) := by
  unfold requireGeneration
  infer_instance

instance (zPolicy : Option Zval) (failure : Method Unit) [Moves R failure] :
    Moves R (requireTtl zPolicy failure) := by
  unfold requireTtl
  infer_instance

instance (zPolicy : Option Zval) (failure : Method Unit) [Moves R failure] :
    Moves R (requireSerializer engine zPolicy failure) := by
  unfold requireSerializer
  infer_instance

instance : Moves R invalidSerializer := by
  unfold invalidSerializer
  infer_instance

instance (offset : Zval) : Moves R (requireIncrement engine offset) := by
  unfold requireIncrement
  cases offset <;> infer_instance

instance : Moves R notAddedCode := by
  unfold notAddedCode
  infer_instance

instance : Moves R notAddedErr := by
  unfold notAddedErr
  infer_instance

section

variable (policy : Option Zval) (notConverted : Method Unit)
variable [Moves R notConverted]

instance (items : HashTable) (notList : String) :
    Moves R (convertItems engine policy items notList notConverted) := by
  unfold convertItems
  infer_instance

instance (z : Zval) (badSerializer : Method Unit) [Moves R badSerializer] :
    Moves R (convertItem engine policy z badSerializer notConverted) := by
  unfold convertItem
  infer_instance

end

instance (op : OpType) (bin : String) (index count : Option Int64) :
    Moves R (plainOperation op bin index count) := by
  unfold plainOperation
  infer_instance

instance (ordered : Bool) (serializerType : SerializerType) (zOps : HashTable)
    (gen ttl : ℕ) :
    Moves R (addAllOperations engine oracle ordered serializerType zOps gen
      ttl) := by
  unfold addAllOperations
  infer_instance

instance (notArray : String) (zKeys : List Zval) :
    Moves R (convertKeys engine notArray zKeys) := by
  induction zKeys with
  | nil =>
      unfold convertKeys
      infer_instance
  | cons z zs ih =>
      cases z <;>
        · unfold convertKeys
          infer_instance

end

end

/-! ## Output, requests and policies -/

section

variable {R : CallState → CallState → Prop} [Frame R]

instance (z : Zval) : Moves R (setOutput z) :=
  moves_modify fun _ => Frame.untouched rfl rfl

instance (converter : AsError → Converted Zval) :
    Moves R (writeOutput converter) := by
  unfold writeOutput
  infer_instance

instance : Moves R getCleanup := by
  unfold getCleanup
  infer_instance

instance (filter : Option HashTable) : Moves R (requireBatchBinNames filter) := by
  unfold requireBatchBinNames
  cases batchBinNames filter <;> infer_instance

instance (engine : Engine) (key : AsKey) (result : BatchResult) :
    Moves R (getManyEntry engine key result) := by
  unfold getManyEntry
  infer_instance

instance (engine : Engine) (results : List (AsKey × BatchResult))
    (table : HashTable) : Moves R (getManyLoop engine results table) := by
  induction results generalizing table with
  | nil =>
      unfold getManyLoop
      infer_instance
  | cons result results ih =>
      unfold getManyLoop
      infer_instance

instance (results : List (AsKey × BatchResult)) (table : HashTable) :
    Moves R (existsCallback results table) := by
  induction results generalizing table with
  | nil =>
      unfold existsCallback
      infer_instance
  | cons result results ih =>
      unfold existsCallback
      dsimp only
      infer_instance

instance : Moves R clearArrayOutput := by
  have hclear : ∀ output : Option Zval, Moves R (match output with
      | some (.array _) => setOutput .null
      | _ => pure () : Method Unit) := by
    intro output
    split <;> infer_instance
  unfold clearArrayOutput
  infer_instance

instance : Moves R existsManyCleanup := by
  unfold existsManyCleanup
  infer_instance

end

instance (oracle : Oracle) (request : Request) :
    Moves SamePolicies (issue oracle request) := ⟨fun _ => rfl⟩

instance {P : Type} (field : PolicyField P)
    (converter : P → ConvertedPolicy P) :
    Moves SameRequests (loadPolicy field converter) := ⟨fun _ => rfl⟩

instance {P : Type} (field : PolicyField P)
    (converter : P → ConvertedPolicy P) (failure : Method Unit)
    [Moves SameRequests failure] :
    Moves SameRequests (requirePolicy field converter failure) := by
  unfold requirePolicy
  infer_instance

instance (engine : Engine) (zPolicy : Option Zval) (failure : Method Unit)
    [Moves SameRequests failure] :
    Moves SameRequests (requireOperatePolicy engine zPolicy failure) := by
  unfold requireOperatePolicy
  infer_instance

/-- The converter does not write through its pointer to the default policy. -/
class KeepsDefault {P : Type} (converter : P → ConvertedPolicy P) : Prop where
  keeps : ∀ policy, (converter policy).defaultPolicy = policy

instance {P : Type} (field : PolicyField P)
    (converter : P → ConvertedPolicy P) [hkeeps : KeepsDefault converter] :
    Moves SamePolicies (loadPolicy field converter) := by
  refine ⟨fun s => ?_⟩
  show field.set (converter (field.get s.policies)).defaultPolicy s.policies =
    s.policies
  rw [hkeeps.keeps, field.set_get]

instance {P : Type} (field : PolicyField P)
    (converter : P → ConvertedPolicy P) (failure : Method Unit)
    [Moves SamePolicies failure] [KeepsDefault converter] :
    Moves SamePolicies (requirePolicy field converter failure) := by
  unfold requirePolicy
  infer_instance

theorem policyFromZval_default {P : Type} (zPolicy : Option Zval)
    (policy defaultPolicy : P) (readHash : HashTable → P → AsStatus × P) :
    (policyFromZval zPolicy policy defaultPolicy readHash).defaultPolicy =
      defaultPolicy := by
  unfold policyFromZval
  split <;> rfl

section

variable (z : Option Zval)

instance (init : PolicyRead) : KeepsDefault (zvalToAsPolicyRead init z) :=
  ⟨fun _ => policyFromZval_default ..⟩

instance (init : PolicyWrite) : KeepsDefault (zvalToAsPolicyWrite init z) :=
  ⟨fun _ => policyFromZval_default ..⟩

instance (init : PolicyInfo) : KeepsDefault (zvalToAsPolicyInfo init z) :=
  ⟨fun _ => policyFromZval_default ..⟩

instance (init : PolicyApply) : KeepsDefault (zvalToAsPolicyApply init z) :=
  ⟨fun _ => policyFromZval_default ..⟩

instance (init : PolicyScan) : KeepsDefault (zvalToAsPolicyScan init z) :=
  ⟨fun _ => policyFromZval_default ..⟩

instance (init : PolicyQuery) : KeepsDefault (zvalToAsPolicyQuery init z) :=
  ⟨fun _ => policyFromZval_default ..⟩

instance (init : PolicyBatch) : KeepsDefault (zvalToAsPolicyBatch init z) :=
  ⟨fun _ => policyFromZval_default ..⟩

instance (init : PolicyInfo) : KeepsDefault (zvalToAsPolicyAdmin init z) :=
  ⟨fun _ => policyFromZval_default ..⟩

end

/-- The remove converter keeps the default policy where it ends. -/
theorem zvalToAsPolicyRemove_default {rt : Runtime} {init : PolicyRemove}
    {z : Option Zval} {policy : PolicyRemove}
    {converted : ConvertedPolicy PolicyRemove}
    (hconverted : zvalToAsPolicyRemove rt init z policy = some converted) :
    converted.defaultPolicy = policy := by
  unfold zvalToAsPolicyRemove at hconverted
  split at hconverted
  · obtain rfl := Option.some.inj hconverted
    rfl
  · obtain rfl := Option.some.inj hconverted
    rfl
  · split at hconverted
    · simp at hconverted
    all_goals
      obtain rfl := Option.some.inj hconverted
      rfl
  · obtain rfl := Option.some.inj hconverted
    rfl

instance (engine : Engine) (options : Option Zval) :
    Moves SamePolicies (requireRemovePolicy engine options) := by
  refine ⟨fun s => ?_⟩
  unfold requireRemovePolicy
  rw [run_bind_ok (run_get s)]
  cases hconverted : zvalToAsPolicyRemove engine.rt engine.init.remove options
      s.policies.remove with
  | none => rfl
  | some converted =>
      have hkeeps := zvalToAsPolicyRemove_default hconverted
      have hsome : (orFail (some converted) crash).run s =
          (.ok converted, s) := rfl
      rw [run_bind_ok hsome]
      unfold requirePolicy
      have hload : (loadPolicy removeField fun _ => converted).run s =
          (.ok converted, s) := by
        have hset : removeField.set converted.defaultPolicy s.policies =
            s.policies := by
          rw [hkeeps]
          rfl
        show (Except.ok converted, { s with
          policies := removeField.set converted.defaultPolicy s.policies }) = _
        rw [hset]
      rw [run_bind_ok hload]
      have hrest : Moves SamePolicies (do
          runIf (converted.status ≠ .ok)
            (failReturn .errParam "Invalid remove policy")
          pure converted.policy : Method PolicyRemove) := inferInstance
      exact hrest.moves s

instance (engine : Engine) (options : Option Zval) :
    Moves SameRequests (requireRemovePolicy engine options) := by
  unfold requireRemovePolicy
  infer_instance

end AerospikePhp
