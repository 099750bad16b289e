import AerospikePhp.OperationEntries
import Mathlib.Data.List.Forall2
import Mathlib.Tactic

/-!
# The loop over the operations array

Each entry contributes the operation it asks for, contributes nothing, or ends
the batch with an error.  Which of the three depends on the entry, on the
client's answer to the add call, and on one bit of history: whether the error
object is still clean.
-/

namespace AerospikePhp

open Procedure AddOp

section

variable {rt : Runtime} {operators : OperatorCodes}
variable {serializerType : SerializerType} {s : OpsState}

/-! ## One entry -/

/-- The operation type the dispatcher sees, after the truncation to `int`. -/
def entryOpType (operators : OperatorCodes) (entry : HashTable) :
    Option OpType :=
  (longEntry entry "op").bind fun code => opTypeOf operators (toInt32 code)

/-- The operations that look at the error object after a conversion. -/
def checksError (op : OpType) : Bool :=
  opRequiresAsVal (some op) || op ∈ mapOpTypes

/-- The operations an accepted entry adds: one, except for a touch that is
lost. -/
def contribution (rt : Runtime) (operators : OperatorCodes)
    (serializerType : SerializerType) (clean addOk : Bool) (entry : HashTable) :
    List Operation :=
  if entryOpType operators entry = some .touch then
    match entry.strFind "ttl" with
    | some (.long _) => if addOk then [{ op := .touch }] else []
    | _ => []
  else (entryOp (asC clean) rt operators serializerType entry).toList

/-- The dispatcher stops the batch at this entry. -/
def EntryRefused (rt : Runtime) (operators : OperatorCodes)
    (serializerType : SerializerType) (clean addOk : Bool) (entry : HashTable) :
    Prop :=
  match entryOpType operators entry with
  | none => True
  | some .touch => touchEntryOp entry = none
  | some op =>
      addOk = false ∨ (clean = false ∧ checksError op = true) ∨
        entryOp (asC clean) rt operators serializerType entry = none

def losesList (ops : List Operation) : Bool := ops.any Operation.nullList

/-- What an entry does to the state of the batch. -/
def EntryAdds (proc : AddOp Unit) (s : OpsState) (ops : List Operation) :
    Prop :=
  ∃ err ttl, proc.run s =
      (.ok (), { s with err := err, ttl := ttl, ops := s.ops ++ ops }) ∧
    (err.code = .ok ↔ s.err.code = .ok ∧ losesList ops = false)

theorem requireOpType_reads (entry : HashTable) :
    Reads (requireOpType operators entry) s
      ((longEntry entry "op").map fun code =>
        opTypeOf operators (toInt32 code)) := by
  unfold requireOpType longEntry
  cases entry.strFind "op" with
  | none => exact refused_bind (refused_refuse (by decide) _) _
  | some z =>
      cases z with
      | long n => exact reads_pure _
      | undef | null | bool _ | double _ | string _ | array _ | object _ _
      | resource | reference _ => exact refused_refuse (by decide) _

theorem addOp_refused_of_no_code {addOk : Bool} {entry : HashTable}
    (hcode : longEntry entry "op" = none) :
    Refused (addOpToOperations rt operators serializerType addOk entry) s := by
  have hread := @requireOpType_reads operators s entry
  rw [hcode] at hread
  exact refused_bind hread _

theorem addOp_run {addOk : Bool} {entry : HashTable} {code : Int64}
    (hcode : longEntry entry "op" = some code) :
    (addOpToOperations rt operators serializerType addOk entry).run s =
      (if opTypeOf operators (toInt32 code) = some .touch then
        addTouch addOk entry
      else do
        let bin ← requireBin (opTypeOf operators (toInt32 code)) entry
        let index ← requireIndex (opTypeOf operators (toInt32 code)) entry
        match opTypeOf operators (toInt32 code) with
        | some mapOp =>
            if opIsMapOp (opTypeOf operators (toInt32 code)) then
              addMapOpToOperations rt serializerType addOk mapOp bin entry
            else
              addValueOpToOperations rt serializerType addOk
                (opTypeOf operators (toInt32 code)) bin index entry
        | none =>
            addValueOpToOperations rt serializerType addOk
              (opTypeOf operators (toInt32 code)) bin index entry).run s := by
  have hread := @requireOpType_reads operators s entry
  rw [hcode] at hread
  exact Proc.run_bind_ok hread

theorem addTouch_adds {addOk : Bool} {entry : HashTable} :
    match touchEntryOp entry with
    | none => Refused (addTouch addOk entry) s
    | some _ =>
        EntryAdds (addTouch addOk entry) s
          (match entry.strFind "ttl" with
            | some (.long _) => if addOk then [{ op := .touch }] else []
            | _ => []) := by
  unfold touchEntryOp addTouch
  cases entry.strFind "ttl" with
  | none => exact ⟨s.err, s.ttl, by simp, by simp [losesList]⟩
  | some z =>
      cases z with
      | long n =>
          cases addOk with
          | true =>
              exact ⟨s.err, toUint32 n, rfl,
                by simp [losesList, Operation.nullList]⟩
          | false => exact ⟨s.err, toUint32 n, by simp, by simp [losesList]⟩
      | undef | null | bool _ | double _ | string _ | array _ | object _ _
      | resource | reference _ => exact refused_refuse (by decide) _

/-- An unknown op code: some check refuses the entry, the `default` branch of
the `switch` at the latest. -/
theorem addOp_refused_of_unknown {addOk : Bool} {bin : Option String}
    {index : Option Int64} {entry : HashTable} :
    Refused (addValueOpToOperations rt serializerType addOk none bin index
      entry) s := by
  unfold addValueOpToOperations requireVal
  cases hz : entry.strFind "val" with
  | none =>
      exact refused_bind (refused_bind (refused_refuse (by decide) _) _) _
  | some z =>
      have hread : Reads (requireVal none entry) s (some (some z)) := by
        unfold requireVal
        rw [hz]
        cases z <;> rfl
      unfold requireVal at hread
      rw [hz] at hread
      refine refused_bind_of_reads hread ?_
      rintro v ⟨⟩
      exact refused_refuse (by decide) _

theorem requireBin_none_reads (entry : HashTable) :
    ∃ value, Reads (requireBin none entry) s value := by
  have hread := requireBin_reads (s := s) .write entry
  exact ⟨_, hread⟩

theorem addOp_unknown_refused {addOk : Bool} {entry : HashTable}
    (hop : entryOpType operators entry = none) :
    Refused (addOpToOperations rt operators serializerType addOk entry) s := by
  cases hcode : longEntry entry "op" with
  | none => exact addOp_refused_of_no_code hcode
  | some code =>
      have htype : opTypeOf operators (toInt32 code) = none := by
        simpa [entryOpType, hcode] using hop
      obtain ⟨bin, hbin⟩ := requireBin_none_reads (s := s) entry
      have hrefused : Refused (do
          let bin ← requireBin none entry
          let index ← requireIndex none entry
          addValueOpToOperations rt serializerType addOk none bin index
            entry) s :=
        refused_bind_of_reads hbin fun bin _ =>
          refused_bind_of_reads (reads_pure none) fun index _ =>
            addOp_refused_of_unknown
      obtain ⟨status, s', hrun, hend⟩ := hrefused
      refine ⟨status, s', (addOp_run hcode).trans ?_, hend⟩
      rw [htype]
      exact hrun

theorem required_eq_none {α : Type} {value : Option α} {result : Option α}
    (hvalue : required false value = some result) : result = none := by
  simpa [required, eq_comm] using hvalue

/-- What the dispatcher does with an op code other than touch, after the op
code is read. -/
theorem addOp_adds {addOk : Bool} {entry : HashTable} {op : OpType}
    (hop : entryOpType operators entry = some op) (htouch : op ≠ .touch)
    (hclean : s.err.code = .ok ∨ checksError op = false) :
    Adds (addOpToOperations rt operators serializerType addOk entry) s addOk
      (entryOp (readingAt s) rt operators serializerType entry) := by
  obtain ⟨code, hcode, htype⟩ : ∃ code, longEntry entry "op" = some code ∧
      opTypeOf operators (toInt32 code) = some op :=
    Option.bind_eq_some_iff.mp hop
  have hentry : entryOp (readingAt s) rt operators serializerType entry =
      (entryBin (readingAt s) op entry).bind fun bin =>
        (entryIndex op entry).bind fun index =>
          if op ∈ mapOpTypes then
            mapEntryOp (readingAt s) rt serializerType op bin entry
          else
            valueEntryOp (readingAt s) rt serializerType op bin index entry := by
    unfold entryOp
    rw [hcode]
    show (opTypeOf operators (toInt32 code)).bind _ = _
    rw [htype, Option.bind_some, if_neg htouch]
    rfl
  have hvalue : s.err.code = .ok ∨ opRequiresAsVal (some op) = false := by
    unfold checksError at hclean
    simp only [Bool.or_eq_false_iff] at hclean
    exact hclean.imp_right And.left
  refine adds_congr (addOp_run hcode) ?_
  rw [hentry, htype, if_neg (by simpa using htouch)]
  refine adds_bind (requireBin_reads op entry) fun bin hbin => ?_
  refine adds_bind (requireIndex_reads op entry) fun index hindex => ?_
  by_cases hmap : op ∈ mapOpTypes
  · have hclean : s.err.code = .ok := hclean.resolve_right (by
      simp [checksError, hmap])
    simp only [opIsMapOp, hmap, decide_true, if_true]
    exact addMapOp_adds hclean addOk op bin entry
  · simp only [opIsMapOp, hmap, decide_false, if_false, Bool.false_eq_true]
    refine addValueOp_adds addOk hvalue hmap htouch (fun hreq => ?_)
      (fun hreq => ?_) entry
    · rw [entryBin, hreq] at hbin
      exact required_eq_none hbin
    · rw [entryIndex, hreq] at hindex
      exact required_eq_none hindex

theorem addOp_refused_of_error {addOk : Bool} {entry : HashTable} {op : OpType}
    (hop : entryOpType operators entry = some op)
    (herr : s.err.code ≠ .ok) (hchecks : checksError op = true) :
    Refused (addOpToOperations rt operators serializerType addOk entry) s := by
  obtain ⟨code, hcode, htype⟩ : ∃ code, longEntry entry "op" = some code ∧
      opTypeOf operators (toInt32 code) = some op :=
    Option.bind_eq_some_iff.mp hop
  have htouch : op ≠ .touch := by
    rintro rfl
    simp [checksError, opRequiresAsVal, mapOpTypes] at hchecks
  suffices hrest : Refused (do
      let bin ← requireBin (some op) entry
      let index ← requireIndex (some op) entry
      if opIsMapOp (some op) then
        addMapOpToOperations rt serializerType addOk op bin entry
      else
        addValueOpToOperations rt serializerType addOk (some op) bin index
          entry) s by
    obtain ⟨status, s', hrun, hend⟩ := hrest
    refine ⟨status, s', (addOp_run hcode).trans ?_, hend⟩
    rw [htype, if_neg (by simpa using htouch)]
    exact hrun
  refine refused_bind_of_reads (requireBin_reads op entry) fun bin _ => ?_
  refine refused_bind_of_reads (requireIndex_reads op entry) fun index _ => ?_
  by_cases hmap : op ∈ mapOpTypes
  · simp only [opIsMapOp, hmap, decide_true, if_true]
    exact addMapOp_refused_of_error herr addOk op bin entry
  · simp only [opIsMapOp, hmap, decide_false, if_false, Bool.false_eq_true]
    have hval : opRequiresAsVal (some op) = true := by
      simpa [checksError, hmap] using hchecks
    exact addValueOp_refused_of_error herr addOk hval bin index entry

/-- The step of the loop: an entry is refused, or adds what it contributes. -/
theorem addOp_step {addOk clean : Bool} {entry : HashTable}
    (hclean : clean = decide (s.err.code = .ok)) :
    (EntryRefused rt operators serializerType clean addOk entry →
      Refused (addOpToOperations rt operators serializerType addOk entry) s) ∧
    (¬ EntryRefused rt operators serializerType clean addOk entry →
      EntryAdds (addOpToOperations rt operators serializerType addOk entry) s
        (contribution rt operators serializerType clean addOk entry)) := by
  subst hclean
  cases hop : entryOpType operators entry with
  | none =>
      constructor
      · exact fun _ => addOp_unknown_refused hop
      · intro hnot
        simp [EntryRefused, hop] at hnot
  | some op =>
      by_cases htouch : op = .touch
      · subst htouch
        obtain ⟨code, hcode, htype⟩ := Option.bind_eq_some_iff.mp hop
        have hrun : (addOpToOperations rt operators serializerType addOk
            entry).run s = (addTouch addOk entry).run s := by
          rw [addOp_run hcode, htype]
          rfl
        have hadds := @addTouch_adds s addOk entry
        simp only [EntryRefused, contribution, hop, if_true]
        unfold Refused EntryAdds
        rw [hrun]
        cases htouch : touchEntryOp entry with
        | none =>
            rw [htouch] at hadds
            exact ⟨fun _ => hadds, fun hnot => absurd rfl hnot⟩
        | some _ =>
            rw [htouch] at hadds
            exact ⟨fun hnone => by simp at hnone, fun _ => hadds⟩
      · have hrefused : EntryRefused rt operators serializerType
            (decide (s.err.code = .ok)) addOk entry ↔ addOk = false ∨
              (s.err.code ≠ .ok ∧ checksError op = true) ∨
              entryOp (readingAt s) rt operators serializerType entry = none := by
          unfold EntryRefused
          rw [hop]
          cases op <;> simp at htouch ⊢
        rw [hrefused, contribution, hop, if_neg (by simpa using htouch)]
        by_cases hchecks : s.err.code ≠ .ok ∧ checksError op = true
        · exact ⟨fun _ => addOp_refused_of_error hop hchecks.1 hchecks.2,
            fun hnot => absurd (Or.inr (Or.inl hchecks)) hnot⟩
        · have hadds := @addOp_adds rt _ serializerType s addOk _ _ hop htouch
              (by
                rw [not_and_or, not_not] at hchecks
                exact hchecks.imp_right (by simp))
          cases hentry : entryOp (readingAt s) rt operators serializerType
              entry with
          | none =>
              rw [hentry] at hadds
              exact ⟨fun _ => hadds, fun hnot => absurd (by simp) hnot⟩
          | some added =>
              rw [hentry] at hadds
              cases addOk with
              | false => exact ⟨fun _ => hadds, fun hnot => absurd (by simp) hnot⟩
              | true =>
                  obtain ⟨err, hrun, hkept, hlost⟩ := hadds
                  refine ⟨fun hor => ?_, fun _ => ⟨err, s.ttl, hrun, ?_⟩⟩
                  · simp [hchecks] at hor
                  · cases hnull : added.nullList with
                    | false => simp [hkept hnull, losesList, hnull]
                    | true => simp [hlost hnull, losesList, hnull]

/-! ## The whole array -/

/-- The entries of the operations array, each with the client's answer to its
add call. -/
abbrev Batch := List ((ZKey × Zval) × Bool)

def keyRefused (ordered : Bool) : ZKey → Bool
  | .str _ => ordered
  | .idx _ => false

def BatchRefused (rt : Runtime) (operators : OperatorCodes)
    (serializerType : SerializerType) (ordered : Bool) : Bool → Batch → Prop
  | _, [] => False
  | clean, ((key, z), addOk) :: rest =>
      keyRefused ordered key = true ∨
      match z with
      | .array entry =>
          EntryRefused rt operators serializerType clean addOk entry ∨
          BatchRefused rt operators serializerType ordered
            (clean && !losesList
              (contribution rt operators serializerType clean addOk entry)) rest
      | _ => True

def contributions (rt : Runtime) (operators : OperatorCodes)
    (serializerType : SerializerType) : Bool → Batch → List (List Operation)
  | _, [] => []
  | clean, ((_, z), addOk) :: rest =>
      match z with
      | .array entry =>
          let added :=
            contribution rt operators serializerType clean addOk entry
          added :: contributions rt operators serializerType
            (clean && !losesList added) rest
      | _ => [] :: contributions rt operators serializerType clean rest

theorem batchRefused_array {ordered clean addOk : Bool} {key : ZKey}
    {entry : HashTable} {rest : Batch} (hkey : keyRefused ordered key = false) :
    BatchRefused rt operators serializerType ordered clean
        (((key, .array entry), addOk) :: rest) ↔
      EntryRefused rt operators serializerType clean addOk entry ∨
      BatchRefused rt operators serializerType ordered
        (clean && !losesList
          (contribution rt operators serializerType clean addOk entry)) rest := by
  rw [BatchRefused, hkey]
  simp

theorem addOperations_cons {ordered : Bool} {key : ZKey} {z : Zval}
    {addOk : Bool} {rest : Batch} (hkey : keyRefused ordered key = false) :
    addOperations rt operators serializerType ordered
        (((key, z), addOk) :: rest) =
      match z with
      | .array entry => do
          addOpToOperations rt operators serializerType addOk entry
          addOperations rt operators serializerType ordered rest
      | _ => refuse .errParam "Operation must be an array" := by
  cases key with
  | idx index => cases ordered <;> rfl
  | str name =>
      obtain rfl : ordered = false := hkey
      rfl

/-- The loop either stops with an error, or adds what all the entries
contribute, in their order. -/
theorem addOperations_run (ordered : Bool) (batch : Batch) {clean : Bool}
    (hclean : clean = decide (s.err.code = .ok)) :
    (BatchRefused rt operators serializerType ordered clean batch →
      Refused (addOperations rt operators serializerType ordered batch) s) ∧
    (¬ BatchRefused rt operators serializerType ordered clean batch →
      ∃ err ttl, (addOperations rt operators serializerType ordered batch).run
          s = (.ok (), { s with
            err := err, ttl := ttl
            ops := s.ops ++
              (contributions rt operators serializerType clean
                batch).flatten })) := by
  induction batch generalizing s clean with
  | nil => exact ⟨False.elim, fun _ => ⟨s.err, s.ttl, by
      simp [addOperations, contributions]⟩⟩
  | cons head rest ih =>
      obtain ⟨⟨key, z⟩, addOk⟩ := head
      cases hkey : keyRefused ordered key with
      | true =>
          refine ⟨fun _ => ?_, fun hnot => absurd (Or.inl hkey) hnot⟩
          cases key with
          | idx index => simp [keyRefused] at hkey
          | str name =>
              obtain rfl : ordered = true := hkey
              exact refused_refuse (by decide) _
      | false =>
          rw [addOperations_cons hkey]
          cases z with
          | array entry =>
              rw [batchRefused_array hkey]
              obtain ⟨hrefused, hadds⟩ := @addOp_step rt operators
                  serializerType _ addOk _ entry hclean
              by_cases hentry : EntryRefused rt operators serializerType clean
                  addOk entry
              · simp only [hentry, true_or, not_true, false_implies]
                exact ⟨fun _ => refused_bind (hrefused hentry) _, trivial⟩
              · obtain ⟨err, ttl, hrun, herr⟩ := hadds hentry
                simp only [hentry, false_or]
                have hclean' : (clean && !losesList (contribution rt operators
                    serializerType clean addOk entry)) =
                    decide (err.code = .ok) := by
                  rw [hclean, Bool.eq_iff_iff]
                  simp [herr, hclean]
                have hrest := ih (s := { s with
                    err := err, ttl := ttl
                    ops := s.ops ++ contribution rt operators serializerType
                      clean addOk entry }) hclean'
                refine ⟨fun hbatch => ?_, fun hbatch => ?_⟩
                · obtain ⟨status, s', hend, hfail⟩ := hrest.1 hbatch
                  exact ⟨status, s', (Proc.run_bind_ok hrun).trans hend, hfail⟩
                · obtain ⟨err', ttl', hend⟩ := hrest.2 hbatch
                  refine ⟨err', ttl', (Proc.run_bind_ok hrun).trans ?_⟩
                  rw [hend]
                  simp [contributions]
          | undef | null | bool _ | long _ | double _ | string _ | object _ _
          | resource | reference _ =>
              exact ⟨fun _ => refused_refuse (by decide) _,
                fun hnot => absurd (Or.inr trivial) hnot⟩

end

end AerospikePhp
