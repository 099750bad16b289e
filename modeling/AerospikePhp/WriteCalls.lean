import AerospikePhp.Generations
import Mathlib.Tactic

/-!
# Writes under a generation policy

The methods that take `OPT_POLICY_GEN`, as one type of calls, and the condition
under which each of them sends the generation it was given.
-/

namespace AerospikePhp

open Procedure Method Proc

/-! ## Calls -/

inductive ListCall where
  | size (args : Option ListArgs)
  | append (args : Option (ListArgs × Zval))
  | merge (args : Option (ListArgs × HashTable))
  | insert (args : Option (ListArgs × Int64 × Zval))
  | insertItems (args : Option (ListArgs × Int64 × HashTable))
  | pop (args : Option (ListArgs × Int64))
  | popRange (args : Option (ListArgs × Int64 × Int64))
  | remove (args : Option (ListArgs × Int64))
  | removeRange (args : Option (ListArgs × Int64 × Int64))
  | trim (args : Option (ListArgs × Int64 × Int64))
  | clear (args : Option ListArgs)
  | set (args : Option (ListArgs × Int64 × Zval))
  | get (args : Option (ListArgs × Int64))
  | getRange (args : Option (ListArgs × Int64 × Int64))

inductive WriteCall where
  | put (args : Option PutArgs)
  | remove (args : Option RemoveArgs)
  | removeBin (args : Option RemoveBinArgs)
  | operate (args : Option OperateArgs)
  | operateOrdered (args : Option OperateArgs)
  | touch (args : Option TouchArgs)
  | append (args : Option StringOpArgs)
  | prepend (args : Option StringOpArgs)
  | increment (args : Option IncrementArgs)
  | list (call : ListCall)

namespace ListCall

def args : ListCall → Option ListArgs
  | size args | clear args => args
  | append args => args.map Prod.fst
  | merge args => args.map Prod.fst
  | insert args | set args => args.map Prod.fst
  | insertItems args => args.map Prod.fst
  | pop args | remove args | get args => args.map Prod.fst
  | popRange args | removeRange args | trim args | getRange args =>
      args.map Prod.fst

section

variable (engine : Engine) (client : Client) (oracle : Oracle)

def method : ListCall → Method Reply
  | size args => listSize engine client oracle args
  | append args => listAppend engine client oracle args
  | merge args => listMerge engine client oracle args
  | insert args => listInsert engine client oracle args
  | insertItems args => listInsertItems engine client oracle args
  | pop args => listPop engine client oracle args
  | popRange args => listPopRange engine client oracle args
  | remove args => listRemove engine client oracle args
  | removeRange args => listRemoveRange engine client oracle args
  | trim args => listTrim engine client oracle args
  | clear args => listClear engine client oracle args
  | set args => listSet engine client oracle args
  | get args => listGet engine client oracle args
  | getRange args => listGetRange engine client oracle args

end

end ListCall

/-- The serializer option is well formed. -/
abbrev SerializerAccepted (engine : Engine) (zPolicy : Option Zval) : Prop :=
  (setSerializerFromPolicyHash engine.iniSerializer
    (toInt32 engine.iniSerializer) zPolicy).1 = .ok

namespace ListCall

/-- The argument of the operation does not stop the call. -/
def Converts (engine : Engine) : ListCall → Prop
  | append (some (args, z)) | insert (some (args, _, z))
  | set (some (args, _, z)) =>
      SerializerAccepted engine args.policy ∧
        (encode engine.rt (callSerializer engine args.policy) z).isSome
  | merge (some (args, items)) | insertItems (some (args, _, items)) =>
      SerializerAccepted engine args.policy ∧
        HashTable.hashtableIsList items = true
  | pop (some (args, _)) => SerializerAccepted engine args.policy
  | _ => True

/-- The method looks at the result of the add call. -/
def checked : ListCall → Bool
  | size _ | append _ => false
  | _ => true

end ListCall

/-- The checks of a list operation, other than the one of the generation. -/
def ListPasses (engine : Engine) (client : Client) (oracle : Oracle)
    (policies : Policies) (call : ListCall) (args : ListArgs) : Prop :=
  client.Ready ∧ args.bin.length ≤ asBinNameMaxLen ∧
    (keyOf engine.keyInit args.key).isSome ∧
    (zvalToAsPolicyOperate engine.rt engine.init.operate args.policy
      policies.operate).status = .ok ∧
    (setOperationsTtlFromOperatePolicy args.policy 0).1 = .ok ∧
    call.Converts engine ∧
    (call.checked = true → oracle.addOk 0 = true)

/-- The checks of `put`, other than the one of the generation. -/
def PutPasses (engine : Engine) (client : Client) (policies : Policies)
    (args : PutArgs) : Prop :=
  client.Ready ∧ (putTtl args.ttl).isSome ∧
    ∃ bins, storeBins args.store = some bins ∧ HashTable.numElements bins ≠ 0 ∧
      (zvalToAsPolicyWrite engine.init.write args.policy
        policies.write).status = .ok ∧
      (keyOf engine.keyInit args.key).isSome ∧
      SerializerAccepted engine args.policy ∧
      ∃ record, recordOf engine (callSerializer engine args.policy) bins =
        .ok record

/-- The checks of `removeBin`, other than the one of the generation. -/
def RemoveBinPasses (engine : Engine) (client : Client) (policies : Policies)
    (args : RemoveBinArgs) : Prop :=
  client.Ready ∧
    (zvalToAsPolicyWrite engine.init.write args.policy
      policies.write).status = .ok ∧
    (keyOf engine.keyInit args.key).isSome ∧
    HashTable.hashtableIsList args.bins = true

def TouchPasses (engine : Engine) (client : Client) (policies : Policies)
    (args : TouchArgs) : Prop :=
  client.Ready ∧ (keyOf engine.keyInit args.key).isSome ∧
    (zvalToAsPolicyOperate engine.rt engine.init.operate args.policy
      policies.operate).status = .ok

/-- The checks that `append`, `prepend` and `increment` share. -/
def BinPasses (engine : Engine) (client : Client) (policies : Policies)
    (bin : String) (key : HashTable) (zPolicy : Option Zval) : Prop :=
  client.Ready ∧ bin.length ≤ asBinNameMaxLen ∧
    (keyOf engine.keyInit key).isSome ∧
    (zvalToAsPolicyOperate engine.rt engine.init.operate zPolicy
      policies.operate).status = .ok ∧
    (setOperationsTtlFromOperatePolicy zPolicy 0).1 = .ok

/-- The checks of an operate call and those of its loop. -/
def BatchPasses (engine : Engine) (client : Client) (oracle : Oracle)
    (policies : Policies) (ordered : Bool) (args : OperateArgs) : Prop :=
  OperatePasses engine client policies ordered args ∧
    ¬ BatchRefused engine.rt engine.operators
      (callSerializer engine args.policy) ordered true
      (batchOf oracle args.operations)

/-- `remove` reads the pair in its policy converter alone: it looks for two
elements, crashes when they are not under 0 and 1, and otherwise leaves the
defaults of the client. -/
def RemoveKeeps (engine : Engine) (client : Client) (policies : Policies)
    (z : Zval) (args : RemoveArgs) : Prop :=
  client.Ready →
    match z with
    | .array pair =>
        if HashTable.numElements pair = 2 then
          ((HashTable.indexFind pair 0).isSome ∧
            (HashTable.indexFind pair 1).isSome) ∧
          ((keyOf engine.keyInit args.key).isSome → GenerationExact z)
        else
          (keyOf engine.keyInit args.key).isSome →
            (suppliedGeneration z).CarriedBy policies.remove.gen
              policies.remove.generation
    | _ => (keyOf engine.keyInit args.key).isNone

namespace WriteCall

def options : WriteCall → Option Zval
  | put args => args.bind PutArgs.policy
  | remove args => args.bind RemoveArgs.options
  | removeBin args => args.bind RemoveBinArgs.policy
  | operate args | operateOrdered args => args.bind OperateArgs.policy
  | touch args => args.bind TouchArgs.policy
  | append args | prepend args => args.bind StringOpArgs.policy
  | increment args => args.bind IncrementArgs.policy
  | list call => call.args.bind ListArgs.policy

section

variable (engine : Engine) (client : Client) (oracle : Oracle)

def method : WriteCall → Method Reply
  | put args => AerospikePhp.put engine client oracle args
  | remove args => AerospikePhp.remove engine client oracle args
  | removeBin args => AerospikePhp.removeBin engine client oracle args
  | operate args => AerospikePhp.operate engine client oracle args
  | operateOrdered args => AerospikePhp.operateOrdered engine client oracle args
  | touch args => AerospikePhp.touch engine client oracle args
  | append args => AerospikePhp.append engine client oracle args
  | prepend args => AerospikePhp.prepend engine client oracle args
  | increment args => AerospikePhp.increment engine client oracle args
  | list call => call.method engine client oracle

/-- The condition under which the call keeps the generation it was given. -/
def Keeps (policies : Policies) (z : Zval) : WriteCall → Prop
  | put (some args) =>
      PutPasses engine client policies args → GenerationExact z
  | remove (some args) => RemoveKeeps engine client policies z args
  | removeBin (some args) =>
      RemoveBinPasses engine client policies args →
        GenerationRefused z ∨ (suppliedGeneration z).Fits ∧
          (setNilBins args.bins).isSome
  | operate (some args) =>
      BatchPasses engine client oracle policies false args → GenerationExact z
  | operateOrdered (some args) =>
      BatchPasses engine client oracle policies true args → GenerationExact z
  | touch (some args) =>
      TouchPasses engine client policies args → GenerationExact z
  | append (some args) | prepend (some args) =>
      BinPasses engine client policies args.bin args.key args.policy →
        GenerationExact z
  | increment (some args) =>
      (incrValue engine.rt (some args.offset)).isSome →
        BinPasses engine client policies args.bin args.key args.policy →
        GenerationExact z
  | list call => ∀ args, call.args = some args →
      ListPasses engine client oracle policies call args → GenerationExact z
  | _ => True

end

end WriteCall

section

variable {engine : Engine} {client : Client} {oracle : Oracle}
variable {policies : Policies}

/-! ## List operations -/

/-- The verdict is a value when the condition holds, and a failure when it does
not. -/
def GivenWhen {α : Type} (condition : Prop) (verdict : Verdict α) : Prop :=
  Gated condition (fun verdict => ∃ value, verdict = .ok value) verdict

theorem GivenWhen.ne_crashed {α : Type} {condition : Prop} {verdict : Verdict α}
    (hgiven : GivenWhen condition verdict) : verdict ≠ .error .crashed := by
  rcases hgiven with ⟨-, value, rfl⟩ | ⟨-, rfl⟩ <;> simp

theorem GivenWhen.iff {α : Type} {condition : Prop} {verdict : Verdict α}
    (hgiven : GivenWhen condition verdict) :
    (∃ value, verdict = .ok value) ↔ condition := by
  rcases hgiven with ⟨hcondition, value, rfl⟩ | ⟨hcondition, rfl⟩
  · simp [hcondition]
  · simp [hcondition]

theorem givenWhen_ok {α : Type} (value : α) :
    GivenWhen True (.ok value : Verdict α) := .inl ⟨trivial, value, rfl⟩

theorem valueOperation_given {zPolicy : Option Zval} {z : Zval}
    {make : Option AsVal → Operation} :
    GivenWhen
      (SerializerAccepted engine zPolicy ∧
        (encode engine.rt (callSerializer engine zPolicy) z).isSome)
      (valueOperation engine zPolicy z make) :=
  gated_if fun _ => gated_and_true (gated_present fun _ _ => givenWhen_ok _)

theorem itemsOperation_given {zPolicy : Option Zval} {items : HashTable}
    {make : Option (List AsVal) → Operation} :
    GivenWhen
      (SerializerAccepted engine zPolicy ∧
        HashTable.hashtableIsList items = true)
      (itemsOperation engine zPolicy items make) :=
  gated_if fun _ => gated_and_true (gated_ensure fun _ => givenWhen_ok _)

theorem poppedOperation_given {zPolicy : Option Zval} {op : Operation} :
    GivenWhen (SerializerAccepted engine zPolicy) (do
      let _ ← serializerOf engine zPolicy
      .ok op) :=
  gated_and_true (gated_if fun _ => givenWhen_ok _)

/-- Every list operation sends what `listVerdict` says, for an operation that
is there when the argument converts. -/
theorem ListCall.sends {call : ListCall} {args : ListArgs}
    (hargs : call.args = some args) :
    ∃ op, Sends SameRequests false (cleanWith policies)
        (call.method engine client oracle)
        (listVerdict engine client oracle policies args op call.checked) ∧
      GivenWhen (call.Converts engine) op := by
  cases call with
  | size a =>
      obtain rfl : a = some args := hargs
      exact ⟨_, listSize_sends args, givenWhen_ok _⟩
  | clear a =>
      obtain rfl : a = some args := hargs
      exact ⟨_, listClear_sends args, givenWhen_ok _⟩
  | append a =>
      obtain ⟨⟨args, z⟩, rfl, rfl⟩ := Option.map_eq_some_iff.mp hargs
      exact ⟨_, listAppend_sends args z, valueOperation_given⟩
  | merge a =>
      obtain ⟨⟨args, items⟩, rfl, rfl⟩ := Option.map_eq_some_iff.mp hargs
      exact ⟨_, listMerge_sends args items, itemsOperation_given⟩
  | insert a =>
      obtain ⟨⟨args, index, z⟩, rfl, rfl⟩ := Option.map_eq_some_iff.mp hargs
      exact ⟨_, listInsert_sends args index z, valueOperation_given⟩
  | insertItems a =>
      obtain ⟨⟨args, index, items⟩, rfl, rfl⟩ := Option.map_eq_some_iff.mp hargs
      exact ⟨_, listInsertItems_sends args index items, itemsOperation_given⟩
  | pop a =>
      obtain ⟨⟨args, index⟩, rfl, rfl⟩ := Option.map_eq_some_iff.mp hargs
      exact ⟨_, listPop_sends args index, poppedOperation_given⟩
  | popRange a =>
      obtain ⟨⟨args, index, n⟩, rfl, rfl⟩ := Option.map_eq_some_iff.mp hargs
      exact ⟨_, listPopRange_sends args index n, givenWhen_ok _⟩
  | remove a =>
      obtain ⟨⟨args, index⟩, rfl, rfl⟩ := Option.map_eq_some_iff.mp hargs
      exact ⟨_, listRemove_sends args index, givenWhen_ok _⟩
  | removeRange a =>
      obtain ⟨⟨args, index, n⟩, rfl, rfl⟩ := Option.map_eq_some_iff.mp hargs
      exact ⟨_, rangeMethod_sends _ _ args index n, givenWhen_ok _⟩
  | trim a =>
      obtain ⟨⟨args, index, n⟩, rfl, rfl⟩ := Option.map_eq_some_iff.mp hargs
      exact ⟨_, rangeMethod_sends _ _ args index n, givenWhen_ok _⟩
  | set a =>
      obtain ⟨⟨args, index, z⟩, rfl, rfl⟩ := Option.map_eq_some_iff.mp hargs
      exact ⟨_, listSet_sends args index z, valueOperation_given⟩
  | get a =>
      obtain ⟨⟨args, index⟩, rfl, rfl⟩ := Option.map_eq_some_iff.mp hargs
      exact ⟨_, listGet_sends args index, givenWhen_ok _⟩
  | getRange a =>
      obtain ⟨⟨args, index, n⟩, rfl, rfl⟩ := Option.map_eq_some_iff.mp hargs
      exact ⟨_, listGetRange_sends args index n, givenWhen_ok _⟩

variable {hash : HashTable} {z : Zval}

/-- The generation policy that the operate converter reads. -/
def operateGen (engine : Engine) (policies : Policies) (hash : HashTable) : ℕ :=
  (zvalToAsPolicyOperate engine.rt engine.init.operate (some (.array hash))
    policies.operate).policy.gen

theorem operateGen_eq (pair : HashTable) (p : Int64)
    (hz : hash.indexFind optPolicyGen = some z) (hpair : z = .array pair)
    (hp : HashTable.indexFind pair 0 = some (.long p)) :
    operateGen engine policies hash = toUint32 p := by
  subst hpair
  exact setGenFromOperateHash_eq hz hp

theorem operationsGeneration_status_iff {zPolicy : Option Zval}
    (hpolicy : zPolicy = some (.array hash))
    (hz : hash.indexFind optPolicyGen = some z) :
    (setOperationsGenerationFromOperatePolicy zPolicy 0).1 = .ok ↔
      ¬ GenerationRefused z := by
  subst hpolicy
  exact recordGeneration_status_iff hz

theorem listCall_generationKept {call : ListCall} {args : ListArgs}
    (hargs : call.args = some args) (hpolicy : args.policy = some (.array hash))
    (hz : hash.indexFind optPolicyGen = some z) (clientError : AsError) :
    GenerationKept z ((call.method engine client oracle).call
        (.start policies clientError)) ↔
      (ListPasses engine client oracle policies call args →
        GenerationExact z) := by
  obtain ⟨op, hsends, hgiven⟩ := @ListCall.sends engine client oracle policies
      _ _ hargs
  refine generationKept_iff (operateGen engine policies hash) clientError hsends
    hz (fun pair p hpair hp => operateGen_eq pair p hz hpair hp) ?_
  refine gated_congr (gated_ensure fun _ => gated_ensure fun _ =>
    gated_present fun key _ => gated_if fun _ => gated_if fun _ =>
    gated_if fun _ => gated_verdict hgiven.ne_crashed fun op _ =>
    gated_ensure fun _ => gated_of_true trivial ?_) ?_
  · rw [hpolicy]
    exact ⟨_, 0, rfl, rfl⟩
  · have hstatus := operationsGeneration_status_iff hpolicy hz
    rw [hgiven.iff, hstatus]
    unfold ListPasses
    tauto

/-! ## Operate policies -/

theorem touch_generationKept {args : TouchArgs}
    (hpolicy : args.policy = some (.array hash))
    (hz : hash.indexFind optPolicyGen = some z) (clientError : AsError) :
    GenerationKept z ((touch engine client oracle (some args)).call
        (.start policies clientError)) ↔
      (TouchPasses engine client policies args → GenerationExact z) := by
  have hstatus := operationsGeneration_status_iff hpolicy hz
  refine generationKept_iff (operateGen engine policies hash) clientError
    (touch_sends args) hz
    (fun pair p hpair hp => operateGen_eq pair p hz hpair hp) ?_
  refine gated_congr (gated_ensure fun _ => gated_present fun key _ =>
    gated_if fun _ => gated_if fun _ => gated_of_true trivial ?_) ?_
  · rw [hpolicy]
    exact ⟨_, 0, rfl, rfl⟩
  · rw [hstatus]
    unfold TouchPasses
    tauto

theorem stringOp_gated {op : OpType} {args : StringOpArgs}
    (hpolicy : args.policy = some (.array hash))
    (hz : hash.indexFind optPolicyGen = some z) :
    Gated (BinPasses engine client policies args.bin args.key args.policy ∧
        ¬ GenerationRefused z)
      (SubmitsGeneration hash (operateGen engine policies hash))
      (stringOpVerdict engine client oracle policies op args) := by
  have hstatus := operationsGeneration_status_iff hpolicy hz
  refine gated_congr (gated_ensure fun _ => gated_ensure fun _ =>
    gated_present fun key _ => gated_if fun _ => gated_if fun _ =>
    gated_if fun _ => gated_of_true trivial ?_) ?_
  · rw [hpolicy]
    exact ⟨_, 0, rfl, rfl⟩
  · rw [hstatus]
    unfold BinPasses
    tauto

theorem stringOp_generationKept {method : Method Reply} {op : OpType}
    {args : StringOpArgs}
    (hsends : Sends SameRequests false (cleanWith policies) method
      (stringOpVerdict engine client oracle policies op args))
    (hpolicy : args.policy = some (.array hash))
    (hz : hash.indexFind optPolicyGen = some z) (clientError : AsError) :
    GenerationKept z (method.call (.start policies clientError)) ↔
      (BinPasses engine client policies args.bin args.key args.policy →
        GenerationExact z) :=
  generationKept_iff (operateGen engine policies hash) clientError hsends hz
    (fun pair p hpair hp => operateGen_eq pair p hz hpair hp)
    (stringOp_gated hpolicy hz)

theorem increment_generationKept {args : IncrementArgs}
    (hpolicy : args.policy = some (.array hash))
    (hz : hash.indexFind optPolicyGen = some z) (clientError : AsError) :
    GenerationKept z ((increment engine client oracle (some args)).call
        (.start policies clientError)) ↔
      ((incrValue engine.rt (some args.offset)).isSome ∧
          BinPasses engine client policies args.bin args.key args.policy →
        GenerationExact z) := by
  have hstatus := operationsGeneration_status_iff hpolicy hz
  refine generationKept_iff (operateGen engine policies hash) clientError
    (increment_sends args) hz
    (fun pair p hpair hp => operateGen_eq pair p hz hpair hp) ?_
  refine gated_congr (gated_ensure fun _ => gated_present fun value _ =>
    gated_ensure fun _ => gated_present fun key _ => gated_if fun _ =>
    gated_if fun _ => gated_if fun _ => gated_of_true trivial ?_) ?_
  · rw [hpolicy]
    exact ⟨_, 0, rfl, rfl⟩
  · rw [hstatus]
    unfold BinPasses
    tauto

/-! ## Batches -/

theorem addedOperations_given {ordered : Bool} {serializerType : SerializerType}
    {zOps : HashTable} {gen ttl : ℕ} :
    GivenWhen (¬ BatchRefused engine.rt engine.operators serializerType ordered
        true (batchOf oracle zOps))
      (addedOperations engine oracle ordered serializerType zOps gen ttl) := by
  by_cases hrefused : BatchRefused engine.rt engine.operators serializerType
      ordered true (batchOf oracle zOps)
  · exact .inr ⟨not_not.mpr hrefused, addedOperations_of_refused hrefused⟩
  · obtain ⟨operations, hadded, -⟩ :=
      addedOperations_of_not_refused gen ttl hrefused
    exact .inl ⟨hrefused, operations, hadded⟩

theorem addedOperations_gen {ordered : Bool} {serializerType : SerializerType}
    {zOps : HashTable} {gen ttl : ℕ} {operations : AsOperations}
    (hadded : addedOperations engine oracle ordered serializerType zOps gen ttl =
      .ok operations) : operations.gen = gen := by
  have hnot := addedOperations_given.iff.mp ⟨operations, hadded⟩
  obtain ⟨operations', hadded', -, hgen⟩ :=
    addedOperations_of_not_refused gen ttl hnot
  obtain rfl : operations = operations' :=
    Except.ok.inj (hadded.symm.trans hadded')
  exact hgen

theorem batch_submitsGeneration {ordered : Bool} {args : OperateArgs}
    (policy : PolicyOperate) (key : AsKey) {ttl : ℕ} {operations : AsOperations}
    (hpolicy : args.policy = some (.array hash))
    (hadded : addedOperations engine oracle ordered
      (callSerializer engine args.policy) args.operations
      (setOperationsGenerationFromOperatePolicy args.policy 0).2 ttl =
      .ok operations) :
    SubmitsGeneration hash policy.gen
      (.ok (.keyOperate (some policy) key operations)) := by
  refine ⟨_, 0, rfl, ?_⟩
  have hgen := addedOperations_gen hadded
  rw [hpolicy] at hgen
  show some (policy.gen, operations.gen) = _
  rw [hgen]
  rfl

theorem operate_generationKept {args : OperateArgs}
    (hpolicy : args.policy = some (.array hash))
    (hz : hash.indexFind optPolicyGen = some z) (clientError : AsError) :
    GenerationKept z ((operate engine client oracle (some args)).call
        (.start policies clientError)) ↔
      (BatchPasses engine client oracle policies false args →
        GenerationExact z) := by
  have hstatus := operationsGeneration_status_iff hpolicy hz
  refine generationKept_iff (operateGen engine policies hash) clientError
    (operate_sends args) hz
    (fun pair p hpair hp => operateGen_eq pair p hz hpair hp) ?_
  refine gated_congr (gated_ensure fun _ => gated_present fun key _ =>
    gated_if fun _ => gated_ensure fun _ => gated_if fun _ => gated_if fun _ =>
    gated_ensure fun _ => gated_verdict addedOperations_given.ne_crashed
      fun operations hadded => gated_of_true trivial ?_) ?_
  · have hgeneration := batch_submitsGeneration
      (zvalToAsPolicyOperate engine.rt engine.init.operate args.policy
        policies.operate).policy key hpolicy hadded
    rw [hpolicy] at hgeneration ⊢
    exact hgeneration
  · rw [addedOperations_given.iff]
    unfold BatchPasses OperatePasses
    rw [hstatus]
    tauto

theorem operateOrdered_generationKept {args : OperateArgs}
    (hpolicy : args.policy = some (.array hash))
    (hz : hash.indexFind optPolicyGen = some z) (clientError : AsError) :
    GenerationKept z ((operateOrdered engine client oracle (some args)).call
        (.start policies clientError)) ↔
      (BatchPasses engine client oracle policies true args →
        GenerationExact z) := by
  have hstatus := operationsGeneration_status_iff hpolicy hz
  have hload : ifGiven args.policy (operatePolicyOf engine policies args.policy) =
      _ := ifGiven_policyOf fun hnone => by rw [hnone]; rfl
  refine generationKept_iff (operateGen engine policies hash) clientError
    (operateOrdered_sends args) hz
    (fun pair p hpair hp => operateGen_eq pair p hz hpair hp) ?_
  unfold operateOrderedVerdict
  rw [hload]
  refine gated_congr (gated_ensure fun _ => gated_present fun key _ =>
    gated_if fun _ => gated_ensure fun _ => gated_if fun _ => gated_if fun _ =>
    gated_verdict addedOperations_given.ne_crashed
      fun operations hadded => gated_of_true trivial ?_) ?_
  · have hgeneration := batch_submitsGeneration
      (zvalToAsPolicyOperate engine.rt engine.init.operate args.policy
        policies.operate).policy key hpolicy hadded
    rw [hpolicy] at hgeneration ⊢
    exact hgeneration
  · rw [addedOperations_given.iff]
    unfold BatchPasses OperatePasses
    rw [hstatus]
    tauto

/-! ## Records -/

theorem writeGen_eq (pair : HashTable) (p : Int64)
    (hz : hash.indexFind optPolicyGen = some z) (hpair : z = .array pair)
    (hp : HashTable.indexFind pair 0 = some (.long p)) :
    setGenFromWriteHash hash policies.write.gen = toUint32 p := by
  subst hpair
  exact setGenFromWriteHash_eq hz hp

theorem setRecordGeneration_status_iff {zPolicy : Option Zval}
    {record : AsRecord} (hpolicy : zPolicy = some (.array hash))
    (hz : hash.indexFind optPolicyGen = some z) :
    (setRecordGeneration zPolicy record).1 = .ok ↔ ¬ GenerationRefused z := by
  subst hpolicy
  exact recordGeneration_status_iff hz

theorem recordOf_ne_crashed {serializerType : SerializerType} {bins : HashTable} :
    recordOf engine serializerType bins ≠ .error .crashed := by
  unfold recordOf
  dsimp only
  split
  · exact present_ne_crashed
  · simp

theorem put_generationKept {args : PutArgs}
    (hpolicy : args.policy = some (.array hash))
    (hz : hash.indexFind optPolicyGen = some z) (clientError : AsError) :
    GenerationKept z ((put engine client oracle (some args)).call
        (.start policies clientError)) ↔
      (PutPasses engine client policies args → GenerationExact z) := by
  have hload : ifGiven args.policy (policyOf (zvalToAsPolicyWrite
      engine.init.write args.policy policies.write)) = _ :=
    ifGiven_policyOf fun hnone => by rw [hnone]; rfl
  refine generationKept_iff (setGenFromWriteHash hash policies.write.gen)
    clientError (put_sends args) hz
    (fun pair p hpair hp => writeGen_eq pair p hz hpair hp) ?_
  unfold putVerdict
  rw [hload]
  refine gated_congr (gated_ensure fun _ => gated_present fun ttl _ =>
    gated_some fun bins _ => gated_ensure fun _ => gated_if fun _ =>
    gated_present fun key _ => gated_if fun _ =>
    gated_verdict recordOf_ne_crashed fun record _ =>
    gated_congr (gated_if fun _ => gated_of_true trivial ?_)
      (by rw [setRecordGeneration_status_iff hpolicy hz])) ?_
  · rw [hpolicy]
    exact ⟨_, _, rfl, rfl⟩
  · unfold PutPasses
    aesop

theorem removeBin_gated {args : RemoveBinArgs} {bins : List (String × AsVal)}
    (hpolicy : args.policy = some (.array hash))
    (hz : hash.indexFind optPolicyGen = some z)
    (hbins : setNilBins args.bins = some bins) :
    Gated (RemoveBinPasses engine client policies args ∧ ¬ GenerationRefused z)
      (SubmitsGeneration hash (setGenFromWriteHash hash policies.write.gen))
      (removeBinVerdict engine client policies args) := by
  unfold removeBinVerdict recordWithGeneration
  rw [hbins]
  refine gated_congr (gated_ensure fun _ => gated_if fun _ =>
    gated_present fun key _ => gated_if fun _ => gated_ensure fun _ =>
    gated_of_true trivial ?_) ?_
  · rw [hpolicy]
    exact ⟨_, _, rfl, rfl⟩
  · rw [setRecordGeneration_status_iff hpolicy hz]
    unfold RemoveBinPasses
    tauto

/-- With a name that is not a text the method crashes when it gets there. -/
theorem removeBin_gated_crash {args : RemoveBinArgs}
    (hpolicy : args.policy = some (.array hash))
    (hz : hash.indexFind optPolicyGen = some z)
    (hbins : setNilBins args.bins = none) :
    Gated (RemoveBinPasses engine client policies args ∧ ¬ GenerationRefused z)
      (fun verdict => verdict = .error .crashed)
      (removeBinVerdict engine client policies args) := by
  unfold removeBinVerdict recordWithGeneration
  rw [hbins]
  refine gated_congr (gated_ensure fun _ => gated_if fun _ =>
    gated_present fun key _ => gated_if fun _ => gated_ensure fun _ =>
    gated_of_true trivial rfl) ?_
  rw [setRecordGeneration_status_iff hpolicy hz]
  unfold RemoveBinPasses
  tauto

theorem crashed_not_kept {outcome : Outcome}
    (hcrash : outcome.reply = none ∧ outcome.state.requests = []) :
    ¬ GenerationKept z outcome := by
  rintro (⟨⟨reply, hreply, -⟩, -⟩ | ⟨request, -, -, hone, -⟩)
  · exact absurd (hcrash.1.symm.trans hreply) (by simp)
  · exact absurd (hcrash.2.symm.trans hone) (by simp)

theorem removeBin_generationKept {args : RemoveBinArgs}
    (hpolicy : args.policy = some (.array hash))
    (hz : hash.indexFind optPolicyGen = some z) (clientError : AsError) :
    GenerationKept z ((removeBin engine client oracle (some args)).call
        (.start policies clientError)) ↔
      (RemoveBinPasses engine client policies args →
        GenerationRefused z ∨ (suppliedGeneration z).Fits ∧
          (setNilBins args.bins).isSome) := by
  cases hbins : setNilBins args.bins with
  | some bins =>
      have hkept := generationKept_iff
        (setGenFromWriteHash hash policies.write.gen) clientError
        (@removeBin_sends engine client oracle _ args) hz
        (fun pair p hpair hp => writeGen_eq pair p hz hpair hp)
        (removeBin_gated hpolicy hz hbins)
      simpa [GenerationExact] using hkept
  | none =>
      have hcall := call_of_sends clientError
        (@removeBin_sends engine client oracle policies args)
      rcases @removeBin_gated_crash engine client policies _ _ _ hpolicy hz
        hbins with
        ⟨⟨hpasses, haccepted⟩, hcrash⟩ | ⟨hstops, hfailed⟩
      · rw [hcrash] at hcall
        exact iff_of_false (crashed_not_kept hcall)
          (by simp [hpasses, haccepted])
      · rw [hfailed] at hcall
        refine iff_of_true (.inl hcall) fun hpasses => .inl ?_
        by_contra haccepted
        exact hstops ⟨hpasses, haccepted⟩

/-! ## Deletes -/

/-- The request of `remove` with this generation policy and generation. -/
def removeRequest (engine : Engine) (policies : Policies) (hash : HashTable)
    (args : RemoveArgs) (gen generation : ℕ) : Verdict Request := do
  let timeout := setUint32FromHashIndex hash optWriteTimeout
    policies.remove.base.totalTimeout
  let key ← present (keyOf engine.keyInit args.key)
  .ok (.keyRemove (setRemovePolicyFromHash hash
    { policies.remove with base.totalTimeout := timeout, gen, generation }) key)

theorem removeVerdict_eq {args : RemoveArgs}
    (hoptions : args.options = some (.array hash)) (hready : client.Ready) :
    removeVerdict engine client policies args =
      match removeGenFromHash engine.rt hash with
      | .crash => .error .crashed
      | .refused _ => .error .failed
      | .set gen generation =>
          removeRequest engine policies hash args gen generation
      | .unchanged =>
          removeRequest engine policies hash args policies.remove.gen
            policies.remove.generation := by
  unfold removeVerdict removePolicyOf ensure
  rw [if_pos hready, hoptions]
  simp only [zvalToAsPolicyRemove]
  cases removeGenFromHash engine.rt hash <;> rfl

/-- A delete under this generation policy and generation. -/
theorem removeRequest_kept_iff {args : RemoveArgs} {gen generation : ℕ}
    {outcome : Outcome}
    (hcall : outcome.Meets SameRequests
      (removeRequest engine policies hash args gen generation)) :
    GenerationKept z outcome ↔
      ((keyOf engine.keyInit args.key).isSome →
        (suppliedGeneration z).CarriedBy gen generation) := by
  unfold removeRequest at hcall
  cases hkey : keyOf engine.keyInit args.key with
  | none =>
      rw [hkey] at hcall
      exact iff_of_true (.inl hcall) (by simp)
  | some key =>
      rw [hkey] at hcall
      rw [generationKept_of_sent (meets_sameRequests hcall) rfl]
      simp [setRemovePolicyFromHash]

/-- A pair of two elements, as the converter reads it. -/
theorem removePair_carriedBy_iff {pair : HashTable} {zGen : Zval}
    {generation : Int64}
    (htwo : HashTable.numElements pair = 2)
    (hgen : HashTable.indexFind pair 0 = some zGen)
    (hgeneration : HashTable.indexFind pair 1 = some (.long generation)) :
    (suppliedGeneration (.array pair)).CarriedBy
        (toUint32 (engine.rt.zLval zGen)) (toUint16 generation) ↔
      GenerationExact (.array pair) := by
  have haccepted : ¬ GenerationRefused (.array pair) := by
    simp [GenerationRefused, hgeneration]
  unfold GenerationExact
  rw [or_iff_right haccepted]
  cases zGen with
  | long p =>
      simp only [suppliedGeneration, hgen, hgeneration, htwo]
      exact and_congr (toUint32_eq_iff p) (toUint16_eq_iff generation)
  | undef | null | bool _ | double _ | string _ | array _ | object _ _
  | resource | reference _ =>
      simp [suppliedGeneration, hgen, SuppliedGeneration.CarriedBy,
        SuppliedGeneration.Fits]

theorem remove_generationKept {args : RemoveArgs}
    (hoptions : args.options = some (.array hash))
    (hz : hash.indexFind optPolicyGen = some z) (clientError : AsError) :
    GenerationKept z ((remove engine client oracle (some args)).call
        (.start policies clientError)) ↔
      RemoveKeeps engine client policies z args := by
  have hcall := call_of_sends clientError
    (@remove_sends engine client oracle policies args)
  unfold RemoveKeeps
  by_cases hready : client.Ready
  · rw [removeVerdict_eq hoptions hready] at hcall
    simp only [hready, forall_const]
    unfold removeGenFromHash at hcall
    rw [hz] at hcall
    cases z with
    | array pair =>
        by_cases htwo : HashTable.numElements pair = 2
        · simp only [htwo, if_true] at hcall ⊢
          cases hgen : HashTable.indexFind pair 0 with
          | none =>
              simp only [hgen] at hcall
              exact iff_of_false (crashed_not_kept hcall) (by simp)
          | some zGen =>
              cases hgeneration : HashTable.indexFind pair 1 with
              | none =>
                  simp only [hgen, hgeneration] at hcall
                  exact iff_of_false (crashed_not_kept hcall) (by simp)
              | some zGeneration =>
                  simp only [hgen, hgeneration] at hcall
                  cases zGeneration with
                  | long generation =>
                      rw [removeRequest_kept_iff hcall,
                        removePair_carriedBy_iff htwo hgen hgeneration]
                      simp
                  | undef | null | bool _ | double _ | string _ | array _
                  | object _ _ | resource | reference _ =>
                      refine iff_of_true (.inl hcall) ⟨by simp, fun _ => .inl ?_⟩
                      simp [GenerationRefused, htwo, hgeneration]
        · simp only [htwo, if_false] at hcall ⊢
          exact removeRequest_kept_iff hcall
    | undef | null | bool _ | long _ | double _ | string _ | object _ _
    | resource | reference _ =>
        rw [removeRequest_kept_iff hcall]
        simp [suppliedGeneration, SuppliedGeneration.CarriedBy]
  · unfold removeVerdict ensure at hcall
    rw [if_neg hready] at hcall
    exact iff_of_true (.inl hcall) fun hready' => absurd hready' hready

/-! ## All writes -/

/-- When a write keeps the generation it was given. -/
theorem writes_generationKept_iff (engine : Engine) (client : Client)
    (oracle : Oracle) (policies : Policies) (clientError : AsError)
    (call : WriteCall) {hash : HashTable} {z : Zval}
    (hoptions : call.options = some (.array hash))
    (hz : hash.indexFind optPolicyGen = some z) :
    GenerationKept z ((call.method engine client oracle).call
        (.start policies clientError)) ↔
      call.Keeps engine client oracle policies z := by
  cases call with
  | put args =>
      obtain ⟨args, rfl, hpolicy⟩ := Option.bind_eq_some_iff.mp hoptions
      exact put_generationKept hpolicy hz clientError
  | remove args =>
      obtain ⟨args, rfl, hpolicy⟩ := Option.bind_eq_some_iff.mp hoptions
      exact remove_generationKept hpolicy hz clientError
  | removeBin args =>
      obtain ⟨args, rfl, hpolicy⟩ := Option.bind_eq_some_iff.mp hoptions
      exact removeBin_generationKept hpolicy hz clientError
  | operate args =>
      obtain ⟨args, rfl, hpolicy⟩ := Option.bind_eq_some_iff.mp hoptions
      exact operate_generationKept hpolicy hz clientError
  | operateOrdered args =>
      obtain ⟨args, rfl, hpolicy⟩ := Option.bind_eq_some_iff.mp hoptions
      exact operateOrdered_generationKept hpolicy hz clientError
  | touch args =>
      obtain ⟨args, rfl, hpolicy⟩ := Option.bind_eq_some_iff.mp hoptions
      exact touch_generationKept hpolicy hz clientError
  | append args =>
      obtain ⟨args, rfl, hpolicy⟩ := Option.bind_eq_some_iff.mp hoptions
      exact stringOp_generationKept (append_sends args) hpolicy hz clientError
  | prepend args =>
      obtain ⟨args, rfl, hpolicy⟩ := Option.bind_eq_some_iff.mp hoptions
      exact stringOp_generationKept (prepend_sends args) hpolicy hz clientError
  | increment args =>
      obtain ⟨args, rfl, hpolicy⟩ := Option.bind_eq_some_iff.mp hoptions
      exact (increment_generationKept hpolicy hz clientError).trans and_imp
  | list call =>
      obtain ⟨args, hargs, hpolicy⟩ := Option.bind_eq_some_iff.mp hoptions
      refine (listCall_generationKept hargs hpolicy hz clientError).trans ?_
      show _ ↔ ∀ args', call.args = some args' → _
      simp [hargs]

end

/-- An increment whose generation does not fit 16 bits: it goes out with
generation 1. -/
def truncatedIncrement : IncrementArgs where
  key := [(.str "ns", .string "test"), (.str "set", .string "demo"),
    (.str "key", .long 1)]
  bin := "b"
  offset := .long 1
  policy := some (.array [(.idx optPolicyGen,
    .array [(.idx 0, .long 1), (.idx 1, .long 65537)])])

theorem writes_generationKept_iff_truncatedIncrement :
    GenerationKept (.array [(.idx 0, .long 1), (.idx 1, .long 65537)])
        (((WriteCall.increment (some truncatedIncrement)).method Engine.plain
          Client.connected Oracle.accepting).call (.start default .init)) ↔
      (WriteCall.increment (some truncatedIncrement)).Keeps Engine.plain
        Client.connected Oracle.accepting default
        (.array [(.idx 0, .long 1), (.idx 1, .long 65537)]) :=
  writes_generationKept_iff _ _ _ _ _ _ rfl rfl

theorem truncatedIncrement_not_kept :
    ¬ GenerationKept (.array [(.idx 0, .long 1), (.idx 1, .long 65537)])
      ((increment Engine.plain Client.connected Oracle.accepting
        (some truncatedIncrement)).call (.start default .init)) := by
  have hsent : ((increment Engine.plain Client.connected Oracle.accepting
      (some truncatedIncrement)).call (.start default .init)).state.requests =
      [.keyOperate (some { (default : PolicyOperate) with gen := 1 })
        ⟨"test", "demo", .integer 1, none⟩
        ⟨[{ op := .incr, bin := some "b", value := .integer 1 }], 1, 0⟩] := rfl
  have hgeneration : (suppliedGeneration
      (.array [(.idx 0, .long 1), (.idx 1, .long 65537)])) =
      .pair 1 65537 := rfl
  rw [generationKept_of_sent hsent rfl, hgeneration]
  simp [SuppliedGeneration.CarriedBy]

end AerospikePhp
