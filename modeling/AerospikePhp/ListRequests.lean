import AerospikePhp.OperateRequests
import AerospikePhp.QueryRequests
import Mathlib.Tactic

/-!
# What the list operations send

Each list operation sends one operation under the policy, the generation and
the ttl of its options.
-/

namespace AerospikePhp

open Procedure Method Proc

section

variable (engine : Engine) (client : Client) (oracle : Oracle)
variable (policies : Policies)

/-- The verdict of a list operation; `checked` says whether it looks at the
result of the add call. -/
def listVerdict (args : ListArgs) (op : Verdict Operation) (checked : Bool) :
    Verdict Request := do
  ensure client.Ready
  ensure (args.bin.length ≤ asBinNameMaxLen)
  let key ← present (keyOf engine.keyInit args.key)
  let policy ← operatePolicyOf engine policies args.policy
  let gen ← generationOf args.policy
  let ttl ← ttlOf args.policy
  let op ← op
  ensure (checked = true → oracle.addOk 0 = true)
  .ok (.keyOperate (some policy) key (oneOperation (oracle.addOk 0) op gen ttl))

/-- The operation with a converted value. -/
def valueOperation (zPolicy : Option Zval) (z : Zval)
    (make : Option AsVal → Operation) : Verdict Operation := do
  let serializer ← serializerOf engine zPolicy
  let value ← present (encode engine.rt serializer z)
  .ok (make (some value))

/-- The operation with a converted list, which is NULL when an element does not
convert. -/
def itemsOperation (zPolicy : Option Zval) (items : HashTable)
    (make : Option (List AsVal) → Operation) : Verdict Operation := do
  let serializer ← serializerOf engine zPolicy
  ensure (HashTable.hashtableIsList items = true)
  .ok (make (encodeItems engine.rt serializer items))

end

section

variable {engine : Engine} {client : Client} {oracle : Oracle}
variable {policies : Policies} {inner : Bool} {p : Assertion}

/-! ## Pieces -/

section

variable {R : CallState → CallState → Prop} [Frame R] (answer : Answer)
variable (bin : String)

instance : Moves R (ignoreResult answer) := by
  unfold ignoreResult
  infer_instance

instance : Moves R (usePopped engine bin answer) := by
  unfold usePopped
  infer_instance

instance (missing : Method Unit) [Moves R missing] :
    Moves R (useReturned engine bin missing answer) := by
  unfold useReturned
  infer_instance

instance : Moves R (useSize bin answer) := by
  unfold useSize
  infer_instance

end

theorem yields_setupList {args : ListArgs} :
    Yields true (cleanWith policies) (setupListOperationVariables engine args)
      (do
        let key ← present (keyOf engine.keyInit args.key)
        let policy ← operatePolicyOf engine policies args.policy
        let gen ← generationOf args.policy
        let ttl ← ttlOf args.policy
        .ok ⟨key, policy, gen, ttl⟩) clean := by
  unfold setupListOperationVariables
  refine yields_seq yields_errorInit ?_
  refine yields_bind yields_requireKey fun key => ?_
  refine yields_bind yields_requireOperatePolicy fun policy => ?_
  refine yields_bind yields_requireGeneration fun gen => ?_
  exact yields_bind yields_requireTtl fun ttl => yields_pure _

/-- What a list operation does when the operation is not added. -/
def NotAdded (checked : Bool) (notAdded : Method Unit) : Prop :=
  if checked then Fails true notAdded else notAdded = pure ()

theorem yields_notAdded {checked added : Bool} {notAdded : Method Unit}
    (hnot : NotAdded checked notAdded) :
    Yields true p (runIf (added = false) notAdded)
      (ensure (checked = true → added = true)) p := by
  unfold NotAdded at hnot
  cases checked with
  | true =>
      have hfails : Fails true notAdded := hnot
      exact yields_check (by simp)
  | false =>
      obtain rfl : notAdded = pure () := hnot
      have hgood : ensure (false = true → added = true) = .ok () :=
        if_pos (by simp)
      rw [hgood]
      exact yields_runIf_ok (yields_pure ())

theorem verdict_bind_assoc {α β γ : Type} (verdict : Verdict α)
    (f : α → Verdict β) (g : β → Verdict γ) :
    (verdict >>= f >>= g) = (verdict >>= fun a => f a >>= g) := by
  cases verdict <;> rfl

/-- The part of a list operation before its request. -/
def listRequest (engine : Engine) (oracle : Oracle) (args : ListArgs)
    (makeOperation : Method Operation) (notAdded : Method Unit) :
    Method Request := do
  let setup ← setupListOperationVariables engine args
  let op ← makeOperation
  runIf (oracle.addOk 0 = false) notAdded
  pure (.keyOperate (some setup.policy) setup.key
    (oneOperation (oracle.addOk 0) op setup.gen setup.ttl))

theorem listBody_eq (args : ListArgs) (makeOperation : Method Operation)
    (notAdded : Method Unit) (useResult : Answer → Method Unit) :
    listBody engine oracle args makeOperation notAdded useResult = (do
      let request ← listRequest engine oracle args makeOperation notAdded
      let answer ← issue oracle request
      useResult answer) := by
  unfold listBody listRequest
  simp only [Proc.bind_assoc]
  rfl

theorem yields_listRequest {args : ListArgs} {makeOperation : Method Operation}
    {op : Verdict Operation} {checked : Bool} {notAdded : Method Unit}
    (hop : Yields true clean makeOperation op anything)
    (hnot : NotAdded checked notAdded) :
    Yields true (cleanWith policies)
      (listRequest engine oracle args makeOperation notAdded) (do
        let key ← present (keyOf engine.keyInit args.key)
        let policy ← operatePolicyOf engine policies args.policy
        let gen ← generationOf args.policy
        let ttl ← ttlOf args.policy
        let op ← op
        ensure (checked = true → oracle.addOk 0 = true)
        .ok (.keyOperate (some policy) key
          (oneOperation (oracle.addOk 0) op gen ttl))) anything := by
  have hyields : Yields true (cleanWith policies)
      (listRequest engine oracle args makeOperation notAdded) _ anything :=
    yields_bind yields_setupList fun setup => yields_bind hop fun op =>
      yields_bind (yields_notAdded hnot) fun _ => yields_pure _
  simp only [verdict_bind_assoc] at hyields
  exact hyields

theorem listBody_sends {args : ListArgs} {makeOperation : Method Operation}
    {op : Verdict Operation} {checked : Bool} {notAdded : Method Unit}
    {useResult : Answer → Method Unit}
    (hop : Yields true clean makeOperation op anything)
    (hnot : NotAdded checked notAdded)
    [∀ answer, Moves SameRequests (useResult answer)] :
    Sends SameRequests true (cleanWith policies)
      (listBody engine oracle args makeOperation notAdded useResult) (do
        let key ← present (keyOf engine.keyInit args.key)
        let policy ← operatePolicyOf engine policies args.policy
        let gen ← generationOf args.policy
        let ttl ← ttlOf args.policy
        let op ← op
        ensure (checked = true → oracle.addOk 0 = true)
        .ok (.keyOperate (some policy) key
          (oneOperation (oracle.addOk 0) op gen ttl))) := by
  rw [listBody_eq]
  have hsends : Sends SameRequests true (cleanWith policies)
      (listRequest engine oracle args makeOperation notAdded >>= fun request =>
        issue oracle request >>= useResult) _ :=
    sends_bind (yields_listRequest hop hnot) fun _ => sends_issue
  simp only [verdict_bind_assoc] at hsends
  exact hsends

theorem yields_checkBinName {bin : String} :
    Yields inner p (checkBinName bin) (ensure (bin.length ≤ asBinNameMaxLen)) p :=
  yields_check not_lt.symm

theorem yields_validateList :
    Yields inner p (validateListClient client) (ensure client.Ready) p :=
  yields_validate (by decide)

/-- The end that the list operations share. -/
theorem checkedBody_sends {bin : String} {body : Method Unit}
    {verdict : Verdict Request}
    (hbody : Sends SameRequests true (cleanWith policies) body verdict) :
    Sends SameRequests false (cleanWith policies) (do
        checkBinName bin
        withCleanup body cleanupErr) (do
        ensure (bin.length ≤ asBinNameMaxLen)
        verdict) :=
  sends_bind yields_checkBinName fun _ =>
    sends_withCleanup hbody reports_cleanupErr

/-! ## The operations -/

theorem yields_plainOperation {op : OpType} {bin : String}
    {index count : Option Int64} :
    Yields true clean (plainOperation op bin index count) (.ok
      { op, bin := some (cString bin), index,
        count := count.map fun n => (toUint64 n : ℤ) }) anything :=
  (yields_pure _).weaken fun _ _ _ => trivial

theorem notAdded_code : NotAdded true notAddedCode :=
  inferInstanceAs (Fails true (failCode .errClient _))

theorem notAdded_err : NotAdded true notAddedErr :=
  inferInstanceAs (Fails true (failCleanup .errClient _))

theorem yields_convertItem {zPolicy : Option Zval} {z : Zval}
    {badSerializer notConverted : Method Unit} [Fails true badSerializer]
    (hfails : ∀ s : CallState, s.err.code ≠ .ok →
      HaltsAt true s.requests .failed (notConverted.run s)) :
    Yields true clean (convertItem engine zPolicy z badSerializer notConverted)
      (do
        let serializer ← serializerOf engine zPolicy
        let value ← present (encode engine.rt serializer z)
        .ok (some value)) anything := by
  refine yields_bind yields_requireSerializer fun serializer => ?_
  intro s hs
  obtain ⟨s', hconvert, hrequests, herr'⟩ : ∃ s',
      (convert (zvalToAsVal engine.rt serializer z)).run s =
        (.ok (zvalToAsVal engine.rt serializer z s.err), s') ∧
      s'.requests = s.requests ∧
      s'.err = (zvalToAsVal engine.rt serializer z s.err).err :=
    ⟨_, rfl, rfl, rfl⟩
  have hclean : s.err.code = .ok := by rw [hs]; rfl
  have hrefines := zvalToAsVal_refines engine.rt serializer z hclean
  rw [run_bind_ok hconvert]
  cases hvalue : encode engine.rt serializer z with
  | some value =>
      rw [hvalue] at hrefines
      rw [hrefines, runIf_neg (by simp [hclean])]
      exact ⟨s', rfl, hrequests, trivial⟩
  | none =>
      rw [hvalue] at hrefines
      rw [runIf_pos (.inl (by simp [hrefines.2.1]))]
      obtain ⟨exit, s'', hrun, hsame, hhalts⟩ :=
        hfails s' (herr' ▸ hrefines.2.2)
      exact ⟨exit, s'', run_bind_error hrun, hsame.trans hrequests, hhalts⟩

theorem yields_valueOperation {zPolicy : Option Zval} {z : Zval}
    {badSerializer notConverted : Method Unit} [Fails true badSerializer]
    {make : Option AsVal → Operation}
    (hfails : ∀ s : CallState, s.err.code ≠ .ok →
      HaltsAt true s.requests .failed (notConverted.run s)) :
    Yields true clean (do
        let value ← convertItem engine zPolicy z badSerializer notConverted
        pure (make value))
      (valueOperation engine zPolicy z make) anything := by
  have hyields : Yields true clean (do
      let value ← convertItem engine zPolicy z badSerializer notConverted
      pure (make value)) _ anything :=
    yields_bind (yields_convertItem hfails) fun value => yields_pure (make value)
  simp only [verdict_bind_assoc] at hyields
  exact hyields

theorem haltsAt_of_fails {failure : Method Unit} [hfails : Fails true failure]
    (s : CallState) (_ : s.err.code ≠ .ok) :
    HaltsAt true s.requests .failed (failure.run s) := hfails.yields s trivial

theorem yields_itemsOperation {zPolicy : Option Zval} {items : HashTable}
    {notList : String} {notConverted : Method Unit}
    {make : Option (List AsVal) → Operation} :
    Yields true clean (do
        let list ← convertItems engine zPolicy items notList notConverted
        pure (make list))
      (itemsOperation engine zPolicy items make) anything := by
  have hyields : Yields true clean (do
      let list ← convertItems engine zPolicy items notList notConverted
      pure (make list))
      ((do
        let serializer ← serializerOf engine zPolicy
        ensure (HashTable.hashtableIsList items = true)
        .ok (encodeItems engine.rt serializer items)) >>= fun list =>
          .ok (make list)) anything := by
    refine yields_bind ?_ fun list => yields_pure (make list)
    refine yields_bind yields_requireSerializer fun serializer => ?_
    refine yields_bind (yields_check (by simp)) fun _ => ?_
    have hstatus := zHashtableToAsList_status engine.rt serializer items .init
    have hval := @zHashtableToAsList_val engine .init serializer items
    rw [show encodeItems engine.rt serializer items =
      (zHashtableToAsList engine.rt serializer items .init).val from hval.symm]
    refine yields_seq yields_convert ?_
    rw [runIf_neg (by simpa using hstatus)]
    exact (yields_pure _).weaken fun _ _ _ => trivial
  simp only [verdict_bind_assoc] at hyields
  exact hyields

/-- The operation that a plain list operation adds. -/
def plainOp (op : OpType) (bin : String) (index count : Option Int64) :
    Operation :=
  { op, bin := some (cString bin), index,
    count := count.map fun n => (toUint64 n : ℤ) }

theorem listSize_sends (args : ListArgs) :
    Sends SameRequests false (cleanWith policies)
      (listSize engine client oracle (some args))
      (listVerdict engine client oracle policies args
        (.ok (plainOp .listSize args.bin none none)) false) := by
  unfold listSize listVerdict
  refine sends_seq yields_resetClientError ?_
  refine sends_bind yields_validateList fun _ => ?_
  refine sends_seq (yields_pure args) (sends_seq (yields_setOutput _) ?_)
  exact checkedBody_sends (listBody_sends yields_plainOperation rfl)

theorem listAppend_sends (args : ListArgs) (z : Zval) :
    Sends SameRequests false (cleanWith policies)
      (listAppend engine client oracle (some (args, z)))
      (listVerdict engine client oracle policies args
        (valueOperation engine args.policy z fun value =>
          { op := .listAppend, bin := some (cString args.bin),
            value := .asVal value }) false) := by
  unfold listAppend listVerdict
  refine sends_seq yields_resetClientError ?_
  refine sends_bind yields_validateList fun _ => ?_
  refine sends_seq (yields_pure (args, z)) ?_
  refine checkedBody_sends (listBody_sends (yields_valueOperation ?_) rfl)
  exact fun s herr => ⟨.cleanup, _, rfl, rfl, rfl, herr⟩

theorem listMerge_sends (args : ListArgs) (items : HashTable) :
    Sends SameRequests false (cleanWith policies)
      (listMerge engine client oracle (some (args, items)))
      (listVerdict engine client oracle policies args
        (itemsOperation engine args.policy items fun list =>
          { op := .listMerge, bin := some (cString args.bin),
            value := .list list }) true) := by
  unfold listMerge listVerdict
  refine sends_bind yields_validateList fun _ => ?_
  refine sends_seq yields_resetClientError ?_
  refine sends_seq (yields_pure (args, items)) ?_
  exact checkedBody_sends (listBody_sends yields_itemsOperation notAdded_code)

theorem listInsert_sends (args : ListArgs) (index : Int64) (z : Zval) :
    Sends SameRequests false (cleanWith policies)
      (listInsert engine client oracle (some (args, index, z)))
      (listVerdict engine client oracle policies args
        (valueOperation engine args.policy z fun value =>
          { op := .listInsert, bin := some (cString args.bin),
            index := some index, value := .asVal value }) true) := by
  unfold listInsert listVerdict
  refine sends_seq yields_resetClientError ?_
  refine sends_bind yields_validateList fun _ => ?_
  refine sends_seq (yields_pure (args, index, z)) ?_
  exact checkedBody_sends (listBody_sends
    (yields_valueOperation haltsAt_of_fails) notAdded_code)

theorem listInsertItems_sends (args : ListArgs) (index : Int64)
    (items : HashTable) :
    Sends SameRequests false (cleanWith policies)
      (listInsertItems engine client oracle (some (args, index, items)))
      (listVerdict engine client oracle policies args
        (itemsOperation engine args.policy items fun list =>
          { op := .listInsertItems, bin := some (cString args.bin),
            index := some index, value := .list list }) true) := by
  unfold listInsertItems listVerdict
  refine sends_seq yields_resetClientError ?_
  refine sends_bind yields_validateList fun _ => ?_
  refine sends_seq (yields_pure (args, index, items)) ?_
  exact checkedBody_sends (listBody_sends yields_itemsOperation notAdded_code)

theorem listPop_sends (args : ListArgs) (index : Int64) :
    Sends SameRequests false (cleanWith policies)
      (listPop engine client oracle (some (args, index)))
      (listVerdict engine client oracle policies args (do
        let _ ← serializerOf engine args.policy
        .ok (plainOp .listPop args.bin (some index) none)) true) := by
  unfold listPop listVerdict
  refine sends_seq yields_resetClientError ?_
  refine sends_bind yields_validateList fun _ => ?_
  refine sends_seq (yields_pure (args, index)) ?_
  refine sends_bind yields_checkBinName fun _ => ?_
  refine sends_seq (yields_setOutput _) ?_
  refine sends_withCleanup (listBody_sends ?_ notAdded_code) reports_cleanupErr
  exact yields_bind yields_requireSerializer fun _ => yields_plainOperation

theorem listPopRange_sends (args : ListArgs) (index count : Int64) :
    Sends SameRequests false (cleanWith policies)
      (listPopRange engine client oracle (some (args, index, count)))
      (listVerdict engine client oracle policies args
        (.ok (plainOp .listPopRange args.bin (some index) (some count)))
        true) := by
  unfold listPopRange listVerdict
  refine sends_seq yields_resetClientError ?_
  refine sends_bind yields_validateList fun _ => ?_
  refine sends_seq (yields_pure (args, index, count)) ?_
  refine sends_seq (yields_setOutput _) ?_
  exact checkedBody_sends (listBody_sends yields_plainOperation notAdded_code)

theorem listRemove_sends (args : ListArgs) (index : Int64) :
    Sends SameRequests false (cleanWith policies)
      (listRemove engine client oracle (some (args, index)))
      (listVerdict engine client oracle policies args
        (.ok (plainOp .listRemove args.bin (some index) none)) true) := by
  unfold listRemove listVerdict
  refine sends_seq yields_resetClientError ?_
  refine sends_bind yields_validateList fun _ => ?_
  refine sends_seq (yields_pure (args, index)) ?_
  exact checkedBody_sends (listBody_sends yields_plainOperation notAdded_code)

theorem rangeMethod_sends (op : OpType) (badArguments : String)
    (args : ListArgs) (index count : Int64) :
    Sends SameRequests false (cleanWith policies)
      (rangeMethod engine client oracle op badArguments
        (some (args, index, count)))
      (listVerdict engine client oracle policies args
        (.ok (plainOp op args.bin (some index) (some count))) true) := by
  unfold rangeMethod listVerdict
  refine sends_seq yields_resetClientError ?_
  refine sends_bind yields_validateList fun _ => ?_
  refine sends_seq (yields_pure (args, index, count)) ?_
  exact checkedBody_sends (listBody_sends yields_plainOperation notAdded_code)

theorem listClear_sends (args : ListArgs) :
    Sends SameRequests false (cleanWith policies)
      (listClear engine client oracle (some args))
      (listVerdict engine client oracle policies args
        (.ok (plainOp .listClear args.bin none none)) true) := by
  unfold listClear listVerdict
  refine sends_seq yields_resetClientError ?_
  refine sends_bind yields_validateList fun _ => ?_
  refine sends_seq (yields_pure args) ?_
  exact checkedBody_sends (listBody_sends yields_plainOperation notAdded_code)

theorem listSet_sends (args : ListArgs) (index : Int64) (z : Zval) :
    Sends SameRequests false (cleanWith policies)
      (listSet engine client oracle (some (args, index, z)))
      (listVerdict engine client oracle policies args
        (valueOperation engine args.policy z fun value =>
          { op := .listSet, bin := some (cString args.bin),
            index := some index, value := .asVal value }) true) := by
  unfold listSet listVerdict
  refine sends_seq yields_resetClientError ?_
  refine sends_bind yields_validateList fun _ => ?_
  refine sends_seq (yields_pure (args, index, z)) ?_
  exact checkedBody_sends (listBody_sends
    (yields_valueOperation haltsAt_of_fails) notAdded_err)

theorem listGet_sends (args : ListArgs) (index : Int64) :
    Sends SameRequests false (cleanWith policies)
      (listGet engine client oracle (some (args, index)))
      (listVerdict engine client oracle policies args
        (.ok (plainOp .listGet args.bin (some index) none)) true) := by
  unfold listGet listVerdict
  refine sends_seq yields_resetClientError ?_
  refine sends_bind yields_validateList fun _ => ?_
  refine sends_seq (yields_pure (args, index)) ?_
  refine checkedBody_sends (listBody_sends ?_ notAdded_err)
  exact yields_seq (yields_setOutput _) yields_plainOperation

theorem listGetRange_sends (args : ListArgs) (index count : Int64) :
    Sends SameRequests false (cleanWith policies)
      (listGetRange engine client oracle (some (args, index, count)))
      (listVerdict engine client oracle policies args
        (.ok (plainOp .listGetRange args.bin (some index) (some count)))
        true) := by
  unfold listGetRange listVerdict
  refine sends_seq yields_resetClientError ?_
  refine sends_bind yields_validateList fun _ => ?_
  refine sends_seq (yields_pure (args, index, count)) ?_
  refine sends_seq (yields_setOutput _) ?_
  exact checkedBody_sends (listBody_sends yields_plainOperation notAdded_err)

end

end AerospikePhp
