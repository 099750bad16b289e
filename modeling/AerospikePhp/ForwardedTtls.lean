import AerospikePhp.ForwardedOptions
import Mathlib.Tactic

/-!
# Calls with a ttl

The calls that write a record or operate on one.  The ttl of an operations array
is that of its last touch; an entry of any other kind leaves the ttl alone.
-/

namespace AerospikePhp

open Procedure Method Proc

-- a method body is one instance problem with a premise for every statement
set_option synthInstance.maxSize 200000

/-! ## The ttl of a batch -/

/-- The ttl of the operations is left alone. -/
def SameTtl (s s' : OpsState) : Prop := s'.ttl = s.ttl

instance : Std.Refl SameTtl := ⟨fun _ => rfl⟩

instance : IsTrans OpsState SameTtl := ⟨fun _ _ _ h h' => Eq.trans h' h⟩

section

open AddOp

variable {α : Type} {rt : Runtime} {operators : OperatorCodes}
variable {serializerType : SerializerType} {entry : HashTable} {addOk : Bool}

instance (code status : AsStatus) (message : String) :
    Moves SameTtl (refuseWith code status message : AddOp α) := by
  have herr : Moves SameTtl (modify fun s : OpsState =>
      { s with err := s.err.update code message } : AddOp Unit) :=
    moves_modify fun _ => rfl
  unfold refuseWith
  infer_instance

instance (code : AsStatus) (message : String) :
    Moves SameTtl (refuse code message : AddOp α) := by
  unfold refuse
  infer_instance

instance (value : Option α) (message : String) :
    Moves SameTtl (orRefuse value message) := by
  cases value with
  | none => exact inferInstanceAs (Moves SameTtl (refuse _ message : AddOp α))
  | some value => exact inferInstanceAs (Moves SameTtl (pure value))

instance (message : String) (op : Operation) :
    Moves SameTtl (AddOp.add addOk message op) := by
  have hadd : Moves SameTtl (modify fun s : OpsState =>
      { s with ops := s.ops ++ [op] } : AddOp Unit) := moves_modify fun _ => rfl
  unfold AddOp.add
  infer_instance

instance (converter : AsError → Converted α) :
    Moves SameTtl (AddOp.convert converter) :=
  ⟨fun _ => rfl⟩

instance (required : Bool) (read : AddOp α) [Moves SameTtl read] :
    Moves SameTtl (whenRequired required read) := by
  unfold whenRequired
  infer_instance

instance (required : Bool) (read : AddOp (Option AsVal)) [Moves SameTtl read] :
    Moves SameTtl (valWhenRequired required read) := by
  unfold valWhenRequired
  infer_instance

instance (name missing notLong : String) :
    Moves SameTtl (requireLong entry name missing notLong) := by
  unfold requireLong
  refine moves_seq fun z => ?_
  cases z <;> infer_instance

instance (op : Option OpType) : Moves SameTtl (requireBin op entry) := by
  have hbin : Moves SameTtl (match entry.strFind "bin" with
      | some (.string bin) =>
          if strlen bin > asBinNameMaxLen then
            refuse .errParam "Bin name is too long"
          else pure (some (cString bin))
      | _ => refuse .errParam
          "Operation must contain a bin name of string type" :
      AddOp (Option String)) := by
    split <;> infer_instance
  unfold requireBin
  infer_instance

instance (op : Option OpType) : Moves SameTtl (requireIndex op entry) := by
  unfold requireIndex
  infer_instance

instance (name missing : String) :
    Moves SameTtl (getAsValFromOpHash rt serializerType entry name missing) := by
  unfold getAsValFromOpHash
  infer_instance

instance (op : OpType) :
    Moves SameTtl (readMapOpArgs rt serializerType op entry) := by
  unfold readMapOpArgs getCountFromOpHash getIndexFromOpHash getRankFromOpHash
    getReturnTypeFromOpHash getMapPolicyFromOpHash
  infer_instance

instance : Moves SameTtl returnLastCode := by
  unfold returnLastCode
  infer_instance

instance (op : OpType) (bin : Option String) :
    Moves SameTtl (addMapOpToOperations rt serializerType addOk op bin entry) := by
  unfold addMapOpToOperations
  refine moves_seq fun args => ?_
  cases mapOpTypeError op args <;> infer_instance

instance (op : Option OpType) : Moves SameTtl (requireVal op entry) := by
  unfold requireVal
  split
  · refine moves_seq fun zVal => ?_
    cases zVal <;> infer_instance
  · infer_instance

instance (op : Option OpType) (zVal : Option Zval) :
    Moves SameTtl (requireAsVal rt serializerType op zVal) := by
  cases zVal with
  | none => exact inferInstanceAs (Moves SameTtl (pure none))
  | some z =>
      unfold requireAsVal
      infer_instance

instance (zVal : Option Zval) :
    Moves SameTtl (requireListItems rt serializerType zVal) := by
  unfold requireListItems
  split <;> infer_instance

instance (op : Option OpType) (bin : Option String) (index : Option Int64)
    (zVal : Option Zval) (opVal : Option AsVal) :
    Moves SameTtl
      (addSwitch rt serializerType addOk op bin index zVal opVal) := by
  unfold addSwitch
  dsimp only
  split <;> infer_instance

instance (op : Option OpType) (bin : Option String) (index : Option Int64) :
    Moves SameTtl
      (addValueOpToOperations rt serializerType addOk op bin index entry) := by
  unfold addValueOpToOperations
  infer_instance

theorem returns_requireOpType :
    Returns (requireOpType operators entry) fun op =>
      entryOpType operators entry = op := by
  intro s op s' hrun
  have hread := @requireOpType_reads operators s entry
  unfold entryOpType
  cases hcode : longEntry entry "op" with
  | none =>
      rw [hcode] at hread
      obtain ⟨status, s'', hrefused, -⟩ := hread
      rw [hrefused] at hrun
      cases hrun
  | some code =>
      rw [hcode] at hread
      have hread : (requireOpType operators entry).run s =
          (.ok (opTypeOf operators (toInt32 code)), s) := hread
      rw [hread] at hrun
      exact Except.ok.inj (congrArg Prod.fst hrun)

theorem ttl_of_moves {body : AddOp α} {value : α} {s s' : OpsState}
    (hbody : Moves SameTtl body) (hrun : body.run s = (.ok value, s')) :
    s'.ttl = s.ttl := by
  have hmoves := hbody.moves s
  rwa [hrun] at hmoves

theorem touchTtl_array : touchTtl operators (.array entry) =
    if entryOpType operators entry = some .touch then longEntry entry "ttl"
    else none := rfl

theorem addTouch_ttl {s s' : OpsState}
    (hrun : (addTouch addOk entry).run s = (.ok (), s')) :
    s'.ttl = ((longEntry entry "ttl").map toUint32).getD s.ttl := by
  unfold addTouch at hrun
  unfold longEntry
  cases httl : entry.strFind "ttl" with
  | none =>
      rw [httl] at hrun
      obtain rfl : s = s' := congrArg Prod.snd hrun
      rfl
  | some z =>
      rw [httl] at hrun
      cases z with
      | long n =>
          obtain rfl := congrArg Prod.snd hrun
          rfl
      | undef | null | bool _ | double _ | string _ | array _ | object _ _
      | resource | reference _ => cases congrArg Prod.fst hrun

/-- A touch leaves its ttl, and no other entry does. -/
theorem addOpToOperations_ttl {s s' : OpsState}
    (hrun : (addOpToOperations rt operators serializerType addOk entry).run s =
      (.ok (), s')) :
    s'.ttl = ((touchTtl operators (.array entry)).map toUint32).getD s.ttl := by
  unfold addOpToOperations at hrun
  obtain ⟨op, middle, hop, hrest⟩ := bind_eq_ok hrun
  have hsame : middle.ttl = s.ttl := by
    refine ttl_of_moves ?_ hop
    unfold requireOpType
    refine moves_seq fun z => ?_
    cases z <;> infer_instance
  have htype : entryOpType operators entry = op :=
    returns_requireOpType s op middle hop
  rw [touchTtl_array, htype, ← hsame]
  by_cases htouch : op = some .touch
  · rw [if_pos htouch] at hrest ⊢
    exact addTouch_ttl hrest
  · rw [if_neg htouch] at hrest ⊢
    refine ttl_of_moves ?_ hrest
    refine moves_seq fun bin => moves_seq fun index => ?_
    cases op <;> infer_instance

/-- The ttls of the touches in a batch. -/
def touchTtls (operators : OperatorCodes) (batch : Batch) : List Int64 :=
  batch.filterMap fun entry => touchTtl operators entry.1.2

/-- The last touch of the batch leaves its ttl. -/
theorem addOperations_ttl {ordered : Bool} {batch : Batch} {s s' : OpsState}
    (hrun : (addOperations rt operators serializerType ordered batch).run s =
      (.ok (), s')) :
    s'.ttl = (((touchTtls operators batch).getLast?).map toUint32).getD s.ttl := by
  induction batch generalizing s with
  | nil =>
      obtain rfl : s = s' := congrArg Prod.snd hrun
      rfl
  | cons head rest ih =>
      obtain ⟨⟨key, z⟩, addOk⟩ := head
      unfold addOperations at hrun
      split at hrun
      · cases congrArg Prod.fst hrun
      · split at hrun
        · next entry =>
            obtain ⟨⟨⟩, middle, hfirst, hrest⟩ := bind_eq_ok hrun
            have hentry := addOpToOperations_ttl hfirst
            rw [ih hrest, hentry]
            unfold touchTtls
            cases htouch : touchTtl operators (.array entry) with
            | none => simp [htouch]
            | some n =>
                rw [List.filterMap_cons_some (by exact htouch), List.getLast?_cons]
                cases (rest.filterMap fun entry =>
                  touchTtl operators entry.1.2).getLast? <;> rfl
        · cases congrArg Prod.fst hrun

end

section

variable {engine : Engine} {client : Client} {oracle : Oracle}

theorem touchTtls_batchOf (zOps : HashTable) :
    touchTtls engine.operators (batchOf oracle zOps) =
      (HashTable.values zOps).filterMap (touchTtl engine.operators) := by
  have hvalues : (batchOf oracle zOps).map (fun entry => entry.1.2) =
      HashTable.values zOps := by
    unfold batchOf HashTable.values
    refine List.ext_getElem? fun i => ?_
    cases hentry : zOps[i]? <;> simp [hentry]
  rw [← hvalues, List.filterMap_map]
  rfl

theorem returns_addAllOperations {ordered : Bool}
    {serializerType : SerializerType} {zOps : HashTable} {gen ttl : ℕ} :
    Returns (addAllOperations engine oracle ordered serializerType zOps gen ttl)
      fun operations => operations.ttl =
        ((((HashTable.values zOps).filterMap
          (touchTtl engine.operators)).getLast?).map toUint32).getD ttl := by
  unfold addAllOperations
  refine returns_bind (returns_true _) fun s _ => ?_
  refine returns_bind (returns_true _) fun _ _ => ?_
  cases hadded : (addOperations engine.rt engine.operators serializerType ordered
      (batchOf oracle zOps)).run ⟨s.err, [], ttl, gen⟩ with
  | mk outcome s' =>
      cases outcome with
      | error status => exact returns_exit
      | ok _ =>
          refine returns_pure ?_
          rw [← touchTtls_batchOf]
          exact addOperations_ttl hadded

/-! ## The options of an operate call -/

theorem returns_requireTtl {zPolicy : Option Zval} {failure : Method Unit} :
    Returns (requireTtl zPolicy failure) fun ttl =>
      ∀ n, optionTtl zPolicy = some n → ttl = toUint32 n := by
  unfold requireTtl
  refine returns_bind (returns_true _) fun _ _ => returns_pure fun n hgiven => ?_
  unfold optionTtl at hgiven
  split at hgiven
  · next hash =>
      unfold setOperationsTtlFromOperatePolicy
      simp only [longOf_eq_some.mp hgiven]
  · cases hgiven

theorem returns_operatePolicy {z : Option Zval} {failure : Method Unit}
    [Fails true failure] :
    Returns (requireOperatePolicy engine z failure) fun policy =>
      Carries .write z policy.base.integer :=
  returns_requirePolicy fun _ _ => zvalToAsPolicyOperate_carries

instance (Q : Request → Prop) (z : Option Zval) (failure : Method Unit)
    [Moves (SendsOnly Q) failure] :
    Moves (SendsOnly Q) (requireOperatePolicy engine z failure) := by
  unfold requireOperatePolicy
  infer_instance

theorem Call.respects_operate {operators : OperatorCodes} {call : Call}
    {policy : Option PolicyOperate} {key : AsKey} {operations : AsOperations}
    (hintegers : Carries call.kind call.options
      (policyInteger (fun p => p.base.integer) policy))
    (httl : ∀ n, call.givenTtl operators = some n →
      operations.ttl = call.sentTtl n)
    (hport : call.givenPort = none) :
    call.Respects operators (.keyOperate policy key operations) :=
  fun _ => ⟨hintegers, fun n hgiven => congrArg some (httl n hgiven),
    fun n hgiven => by simp [hport] at hgiven⟩

/-- The ttl of an operate call, once the touches are read after the options. -/
theorem operateTtl_of_last {args : OperateArgs} {ttl : ℕ}
    {operations : AsOperations} {n : Int64}
    (httl : ∀ n, optionTtl args.policy = some n → ttl = toUint32 n)
    (hoperations : operations.ttl =
      ((((HashTable.values args.operations).filterMap
        (touchTtl engine.operators)).getLast?).map toUint32).getD ttl)
    (hgiven : operateTtl engine.operators args = some n) :
    operations.ttl = toUint32 n := by
  unfold operateTtl at hgiven
  rw [hoperations]
  cases hlast : ((HashTable.values args.operations).filterMap
      (touchTtl engine.operators)).getLast? with
  | none =>
      rw [hlast] at hgiven
      exact httl n hgiven
  | some m =>
      rw [hlast] at hgiven
      obtain rfl : m = n := Option.some.inj hgiven
      rfl

/-! ## Records -/

theorem put_respects (args : PutArgs) :
    Moves (SendsOnly ((Call.put (some args)).Respects engine.operators))
      (put engine client oracle (some args)) := by
  unfold put putBody
  iterate 2 refine moves_seq fun _ => ?_
  refine moves_args ?_
  refine moves_bind_of returns_orFail fun ttl httl => ?_
  iterate 2 refine moves_seq fun _ => ?_
  refine moves_withCleanup ?_
  refine moves_bind_of
    (returns_whenGiven givenInteger_of_none returns_writePolicy)
    fun policy hpolicy => ?_
  have hput : ∀ key record,
      Sendable ((Call.put (some args)).Respects engine.operators) (.keyPut policy
        key (setRecordGeneration args.policy (recordWithTtl record ttl)).2) := by
    refine fun key record => ⟨fun _ => ⟨hpolicy, fun n hgiven => ?_,
      fun n hgiven => by cases hgiven⟩⟩
    obtain rfl : ttl = some n := by
      have hgiven : (putTtl args.ttl).join = some n := hgiven
      rw [httl] at hgiven
      exact hgiven
    rfl
  infer_instance

/-- The record of `removeBin` has no ttl, whatever the options say. -/
theorem removeBin_respects (args : RemoveBinArgs) :
    Moves (SendsOnly ((Call.removeBin (some args)).Respects engine.operators))
      (removeBin engine client oracle (some args)) := by
  unfold removeBin
  iterate 2 refine moves_seq fun _ => ?_
  refine moves_args ?_
  refine moves_bind_of returns_writePolicy fun policy hpolicy => ?_
  have hput : ∀ key bins,
      Sendable ((Call.removeBin (some args)).Respects engine.operators)
        (.keyPut (some policy) key
          { (setRecordGeneration args.policy asRecordNew).2 with bins := bins }) :=
    fun _ _ =>
      ⟨fun _ => ⟨hpolicy, fun _ _ => rfl, fun _ hgiven => (nomatch hgiven)⟩⟩
  infer_instance

/-! ## Operations -/

theorem operate_respects (args : OperateArgs) :
    Moves (SendsOnly ((Call.operate (some args)).Respects engine.operators))
      (operate engine client oracle (some args)) := by
  unfold operate operateBody
  refine moves_seq fun _ => ?_
  refine moves_args ?_
  iterate 3 refine moves_seq fun _ => ?_
  refine moves_withCleanup ?_
  refine moves_bind_of returns_operatePolicy fun policy hpolicy => ?_
  iterate 2 refine moves_seq fun _ => ?_
  refine moves_bind_of returns_requireTtl fun ttl httl => ?_
  refine moves_seq fun _ => ?_
  refine moves_bind_of returns_addAllOperations fun operations hoperations => ?_
  have hsend : ∀ key,
      Sendable ((Call.operate (some args)).Respects engine.operators)
        (.keyOperate (some policy) key operations) := fun _ =>
    ⟨Call.respects_operate hpolicy
      (fun n hgiven => operateTtl_of_last httl hoperations hgiven) rfl⟩
  infer_instance

theorem operateOrdered_respects (args : OperateArgs) :
    Moves (SendsOnly ((Call.operateOrdered (some args)).Respects engine.operators))
      (operateOrdered engine client oracle (some args)) := by
  unfold operateOrdered operateOrderedBody
  refine moves_seq fun _ => ?_
  refine moves_args ?_
  iterate 3 refine moves_seq fun _ => ?_
  refine moves_withCleanup ?_
  refine moves_bind_of
    (returns_whenGiven givenInteger_of_none returns_operatePolicy)
    fun policy hpolicy => ?_
  iterate 2 refine moves_seq fun _ => ?_
  refine moves_bind_of returns_requireTtl fun ttl httl => ?_
  refine moves_bind_of returns_addAllOperations fun operations hoperations => ?_
  have hsend : ∀ key,
      Sendable ((Call.operateOrdered (some args)).Respects engine.operators)
        (.keyOperate policy key operations) := fun _ =>
    ⟨Call.respects_operate hpolicy
      (fun n hgiven => operateTtl_of_last httl hoperations hgiven) rfl⟩
  infer_instance

theorem touch_respects (args : TouchArgs) :
    Moves (SendsOnly ((Call.touch (some args)).Respects engine.operators))
      (touch engine client oracle (some args)) := by
  unfold touch touchBody
  iterate 2 refine moves_seq fun _ => ?_
  refine moves_args ?_
  refine moves_withCleanup ?_
  refine moves_seq fun _ => ?_
  refine moves_bind_of returns_operatePolicy fun policy hpolicy => ?_
  have hsend : ∀ key gen, Sendable
      ((Call.touch (some args)).Respects engine.operators)
      (.keyOperate (some policy) key (oneOperation (oracle.addOk 0)
        { op := .touch } gen (toUint32 args.ttl))) := fun _ _ =>
    ⟨Call.respects_operate hpolicy
      (fun n hgiven => congrArg toUint32 (Option.some.inj hgiven)) rfl⟩
  infer_instance

/-- The call writes with these options, which can have a ttl. -/
structure Call.WritesWith (operators : OperatorCodes) (call : Call)
    (z : Option Zval) : Prop where
  kind : call.kind = .write
  options : call.options = z
  ttl : call.givenTtl operators = optionTtl z
  sent : ∀ n, call.sentTtl n = toUint32 n
  port : call.givenPort = none

/-- A single operation goes with the ttl of the options. -/
theorem Call.WritesWith.sendable {operators : OperatorCodes} {call : Call}
    {z : Option Zval} {policy : PolicyOperate} {op : Operation} {key : AsKey}
    {addOk : Bool} {gen ttl : ℕ} (hcall : call.WritesWith operators z)
    (hpolicy : Carries .write z policy.base.integer)
    (httl : ∀ n, optionTtl z = some n → ttl = toUint32 n) :
    Sendable (call.Respects operators)
      (.keyOperate (some policy) key (oneOperation addOk op gen ttl)) := by
  refine ⟨Call.respects_operate ?_ (fun n hgiven => ?_) hcall.port⟩
  · rw [hcall.kind, hcall.options]
    exact hpolicy
  · rw [hcall.ttl] at hgiven
    rw [hcall.sent]
    exact httl n hgiven

theorem moves_oneOperation {call : Call} {operators : OperatorCodes}
    {z : Option Zval} {policy : PolicyOperate} {op : Operation} {key : AsKey}
    {failure failure' : Method Unit} {next : Answer → Method Unit}
    [Moves (SendsOnly (call.Respects operators)) failure]
    [Moves (SendsOnly (call.Respects operators)) failure']
    [∀ answer, Moves (SendsOnly (call.Respects operators)) (next answer)]
    (hcall : call.WritesWith operators z)
    (hpolicy : Carries .write z policy.base.integer) :
    Moves (SendsOnly (call.Respects operators)) (do
      let gen ← requireGeneration z failure
      let ttl ← requireTtl z failure'
      let answer ← issue oracle (.keyOperate (some policy) key
        (oneOperation (oracle.addOk 0) op gen ttl))
      next answer) := by
  refine moves_seq fun gen => ?_
  refine moves_bind_of returns_requireTtl fun ttl httl => ?_
  have hsend : Sendable (call.Respects operators) (.keyOperate (some policy) key
      (oneOperation (oracle.addOk 0) op gen ttl)) := hcall.sendable hpolicy httl
  infer_instance

theorem append_respects (args : StringOpArgs) :
    Moves (SendsOnly ((Call.append (some args)).Respects engine.operators))
      (append engine client oracle (some args)) := by
  unfold append appendBody
  refine moves_withCleanup ?_
  iterate 2 refine moves_seq fun _ => ?_
  refine moves_args ?_
  iterate 2 refine moves_seq fun _ => ?_
  refine moves_bind_of returns_operatePolicy fun policy hpolicy => ?_
  exact moves_oneOperation ⟨rfl, rfl, rfl, fun _ => rfl, rfl⟩ hpolicy

theorem prepend_respects (args : StringOpArgs) :
    Moves (SendsOnly ((Call.prepend (some args)).Respects engine.operators))
      (prepend engine client oracle (some args)) := by
  unfold prepend prependBody
  iterate 2 refine moves_seq fun _ => ?_
  refine moves_args ?_
  iterate 2 refine moves_seq fun _ => ?_
  refine moves_bind_of returns_operatePolicy fun policy hpolicy => ?_
  refine moves_withCleanup ?_
  exact moves_oneOperation ⟨rfl, rfl, rfl, fun _ => rfl, rfl⟩ hpolicy

theorem increment_respects (args : IncrementArgs) :
    Moves (SendsOnly ((Call.increment (some args)).Respects engine.operators))
      (increment engine client oracle (some args)) := by
  unfold increment incrementBody
  iterate 2 refine moves_seq fun _ => ?_
  refine moves_args ?_
  iterate 3 refine moves_seq fun _ => ?_
  refine moves_bind_of returns_operatePolicy fun policy hpolicy => ?_
  refine moves_withCleanup ?_
  exact moves_oneOperation ⟨rfl, rfl, rfl, fun _ => rfl, rfl⟩ hpolicy

/-! ## List operations -/

theorem listBody_respects {call : Call} {operators : OperatorCodes}
    {args : ListArgs} {makeOperation : Method Operation}
    {notAdded : Method Unit} {useResult : Answer → Method Unit}
    [Moves (SendsOnly (call.Respects operators)) makeOperation]
    [Moves (SendsOnly (call.Respects operators)) notAdded]
    [∀ answer, Moves (SendsOnly (call.Respects operators)) (useResult answer)]
    (hcall : call.WritesWith operators args.policy) :
    Moves (SendsOnly (call.Respects operators))
      (listBody engine oracle args makeOperation notAdded useResult) := by
  unfold listBody setupListOperationVariables
  simp only [bind_assoc, pure_bind]
  iterate 2 refine moves_seq fun _ => ?_
  refine moves_bind_of returns_operatePolicy fun policy hpolicy => ?_
  refine moves_seq fun gen => ?_
  refine moves_bind_of returns_requireTtl fun ttl httl => ?_
  have hsend : ∀ key op, Sendable (call.Respects operators)
      (.keyOperate (some policy) key (oneOperation (oracle.addOk 0) op gen ttl)) :=
    fun _ _ => hcall.sendable hpolicy httl
  infer_instance

theorem listSize_respects (args : ListArgs) :
    Moves (SendsOnly ((Call.listSize (some args)).Respects engine.operators))
      (listSize engine client oracle (some args)) := by
  unfold listSize
  iterate 2 refine moves_seq fun _ => ?_
  refine moves_args ?_
  iterate 2 refine moves_seq fun _ => ?_
  exact moves_withCleanup (listBody_respects ⟨rfl, rfl, rfl, fun _ => rfl, rfl⟩)

theorem listAppend_respects (args : ListArgs × Zval) :
    Moves (SendsOnly ((Call.listAppend (some args)).Respects engine.operators))
      (listAppend engine client oracle (some args)) := by
  unfold listAppend appendItem
  iterate 2 refine moves_seq fun _ => ?_
  refine moves_args ?_
  refine moves_seq fun _ => ?_
  exact moves_withCleanup (listBody_respects ⟨rfl, rfl, rfl, fun _ => rfl, rfl⟩)

theorem listMerge_respects (args : ListArgs × HashTable) :
    Moves (SendsOnly ((Call.listMerge (some args)).Respects engine.operators))
      (listMerge engine client oracle (some args)) := by
  unfold listMerge mergeItems
  iterate 2 refine moves_seq fun _ => ?_
  refine moves_args ?_
  refine moves_seq fun _ => ?_
  exact moves_withCleanup (listBody_respects ⟨rfl, rfl, rfl, fun _ => rfl, rfl⟩)

theorem listInsert_respects (args : ListArgs × Int64 × Zval) :
    Moves (SendsOnly ((Call.listInsert (some args)).Respects engine.operators))
      (listInsert engine client oracle (some args)) := by
  unfold listInsert insertItem
  iterate 2 refine moves_seq fun _ => ?_
  refine moves_args ?_
  refine moves_seq fun _ => ?_
  exact moves_withCleanup (listBody_respects ⟨rfl, rfl, rfl, fun _ => rfl, rfl⟩)

theorem listInsertItems_respects (args : ListArgs × Int64 × HashTable) :
    Moves (SendsOnly ((Call.listInsertItems (some args)).Respects engine.operators))
      (listInsertItems engine client oracle (some args)) := by
  unfold listInsertItems insertItems
  iterate 2 refine moves_seq fun _ => ?_
  refine moves_args ?_
  refine moves_seq fun _ => ?_
  exact moves_withCleanup (listBody_respects ⟨rfl, rfl, rfl, fun _ => rfl, rfl⟩)

theorem listPop_respects (args : ListArgs × Int64) :
    Moves (SendsOnly ((Call.listPop (some args)).Respects engine.operators))
      (listPop engine client oracle (some args)) := by
  unfold listPop popOperation
  iterate 2 refine moves_seq fun _ => ?_
  refine moves_args ?_
  iterate 2 refine moves_seq fun _ => ?_
  exact moves_withCleanup (listBody_respects ⟨rfl, rfl, rfl, fun _ => rfl, rfl⟩)

theorem listPopRange_respects (args : ListArgs × Int64 × Int64) :
    Moves (SendsOnly ((Call.listPopRange (some args)).Respects engine.operators))
      (listPopRange engine client oracle (some args)) := by
  unfold listPopRange
  iterate 2 refine moves_seq fun _ => ?_
  refine moves_args ?_
  iterate 2 refine moves_seq fun _ => ?_
  exact moves_withCleanup (listBody_respects ⟨rfl, rfl, rfl, fun _ => rfl, rfl⟩)

theorem listRemove_respects (args : ListArgs × Int64) :
    Moves (SendsOnly ((Call.listRemove (some args)).Respects engine.operators))
      (listRemove engine client oracle (some args)) := by
  unfold listRemove
  iterate 2 refine moves_seq fun _ => ?_
  refine moves_args ?_
  refine moves_seq fun _ => ?_
  exact moves_withCleanup (listBody_respects ⟨rfl, rfl, rfl, fun _ => rfl, rfl⟩)

theorem listRemoveRange_respects (args : ListArgs × Int64 × Int64) :
    Moves (SendsOnly ((Call.listRemoveRange (some args)).Respects engine.operators))
      (listRemoveRange engine client oracle (some args)) := by
  unfold listRemoveRange rangeMethod
  iterate 2 refine moves_seq fun _ => ?_
  refine moves_args ?_
  refine moves_seq fun _ => ?_
  exact moves_withCleanup (listBody_respects ⟨rfl, rfl, rfl, fun _ => rfl, rfl⟩)

theorem listTrim_respects (args : ListArgs × Int64 × Int64) :
    Moves (SendsOnly ((Call.listTrim (some args)).Respects engine.operators))
      (listTrim engine client oracle (some args)) := by
  unfold listTrim rangeMethod
  iterate 2 refine moves_seq fun _ => ?_
  refine moves_args ?_
  refine moves_seq fun _ => ?_
  exact moves_withCleanup (listBody_respects ⟨rfl, rfl, rfl, fun _ => rfl, rfl⟩)

theorem listClear_respects (args : ListArgs) :
    Moves (SendsOnly ((Call.listClear (some args)).Respects engine.operators))
      (listClear engine client oracle (some args)) := by
  unfold listClear
  iterate 2 refine moves_seq fun _ => ?_
  refine moves_args ?_
  refine moves_seq fun _ => ?_
  exact moves_withCleanup (listBody_respects ⟨rfl, rfl, rfl, fun _ => rfl, rfl⟩)

theorem listSet_respects (args : ListArgs × Int64 × Zval) :
    Moves (SendsOnly ((Call.listSet (some args)).Respects engine.operators))
      (listSet engine client oracle (some args)) := by
  unfold listSet setItem
  iterate 2 refine moves_seq fun _ => ?_
  refine moves_args ?_
  refine moves_seq fun _ => ?_
  exact moves_withCleanup (listBody_respects ⟨rfl, rfl, rfl, fun _ => rfl, rfl⟩)

theorem listGet_respects (args : ListArgs × Int64) :
    Moves (SendsOnly ((Call.listGet (some args)).Respects engine.operators))
      (listGet engine client oracle (some args)) := by
  unfold listGet getOperation
  iterate 2 refine moves_seq fun _ => ?_
  refine moves_args ?_
  refine moves_seq fun _ => ?_
  exact moves_withCleanup (listBody_respects ⟨rfl, rfl, rfl, fun _ => rfl, rfl⟩)

theorem listGetRange_respects (args : ListArgs × Int64 × Int64) :
    Moves (SendsOnly ((Call.listGetRange (some args)).Respects engine.operators))
      (listGetRange engine client oracle (some args)) := by
  unfold listGetRange
  iterate 2 refine moves_seq fun _ => ?_
  refine moves_args ?_
  iterate 2 refine moves_seq fun _ => ?_
  exact moves_withCleanup (listBody_respects ⟨rfl, rfl, rfl, fun _ => rfl, rfl⟩)

end

end AerospikePhp
