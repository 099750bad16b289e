import AerospikePhp.Operations
import Mathlib.Tactic

/-!
# The operation an entry asks for

`entryOp` says which operation an entry of the operations array describes, as
a function of the entry alone.  It is read in two ways: as the PHP program
wrote it, with 64-bit integers and strings of any bytes, and as the C code
reads it, with the op code truncated, the strings cut at a NUL and the counts
made unsigned.

From an error object without an error the dispatcher adds exactly the
operation of the second reading, or refuses the entry.  The exceptions are a
touch, which can be lost, and a list whose elements do not convert, which is
sent as NULL and leaves the error behind.
-/

namespace AerospikePhp

open Procedure

/-- How the integers and strings of an entry are read. -/
structure Reading where
  code : Int64 → ℤ
  text : String → String
  count : Int64 → ℤ
  items : Option (List AsVal) → Option (Option (List AsVal))

def asPhp : Reading where
  code := Int64.toInt
  text := id
  count := Int64.toInt
  items := Option.map some

/-- `clean` tells whether the error object holds no error; when it holds one,
every list that is converted is lost. -/
def asC (clean : Bool) : Reading where
  code := toInt32
  text := cString
  count := fun n => toUint64 n
  items := fun items => some (if clean then items else none)

/-- How the dispatcher reads an entry in a given state. -/
abbrev readingAt (s : OpsState) : Reading := asC (decide (s.err.code = .ok))

section

variable (reading : Reading) (rt : Runtime) (operators : OperatorCodes)
variable (serializerType : SerializerType)

def required {α : Type} (needed : Bool) (value : Option α) :
    Option (Option α) :=
  if needed then value.map some else some none

def entryBin (op : OpType) (entry : HashTable) : Option (Option String) :=
  required (opRequiresBin (some op))
    (match entry.strFind "bin" with
      | some (.string bin) =>
          if strlen bin > asBinNameMaxLen then none else some (reading.text bin)
      | _ => none)

def entryIndex (op : OpType) (entry : HashTable) : Option (Option Int64) :=
  required (opRequiresIndex (some op)) (longEntry entry "index")

/-- The conversion of a value; a string is read like any other text. -/
def readVal (z : Zval) : Option AsVal :=
  match z with
  | .string s => some (.string (reading.text s))
  | z => encode rt serializerType z

def entryAsVal (entry : HashTable) (name : String) : Option AsVal :=
  (entry.strFind name).bind (readVal reading rt serializerType)

def entryCount (entry : HashTable) : Option ℤ :=
  match longEntry entry "count" with
  | some n => if n.toInt < 0 then none else some n.toInt
  | none => none

def entryMapArgs (op : OpType) (entry : HashTable) : Option MapOpArgs := do
  let count ← required (mapOpRequiresCount op) (entryCount entry)
  let index ← required (mapOpRequiresIndex op) (longEntry entry "index")
  let rank ← required (mapOpRequiresRank op) (longEntry entry "rank")
  let returnType ← required (mapOpRequiresReturnType op)
    ((longEntry entry "return_type").map toUint32)
  let mapPolicy ← required (mapOpRequiresMapPolicy op)
    ((entry.strFind "map_policy").bind zvalToAsPolicyMap)
  let key ← required (mapOpRequiresKey op)
    (entryAsVal reading rt serializerType entry "key")
  let rangeEnd ← required (mapOpRequiresRangeEnd op)
    (entryAsVal reading rt serializerType entry "range_end")
  let val ← required (mapOpRequiresVal op)
    (entryAsVal reading rt serializerType entry "val")
  pure ⟨count, index, rank, returnType, mapPolicy, key, rangeEnd, val⟩

def mapEntryOp (op : OpType) (bin : Option String) (entry : HashTable) :
    Option Operation :=
  match entryMapArgs reading rt serializerType op entry with
  | none => none
  | some args =>
      if mapOpTypeError op args = none then some (mapOperation op bin args)
      else none

/-- The operation of a scalar or list op code. -/
def valueEntryOp (op : OpType) (bin : Option String) (index : Option Int64)
    (entry : HashTable) : Option Operation :=
  let val := entry.strFind "val"
  match op with
  | .read | .delete | .listClear | .listSize | .listPop | .listRemove
  | .listGet => some { op, bin, index }
  | .write | .listAppend | .listInsert | .listSet =>
      (val.bind (readVal reading rt serializerType)).map fun value =>
        { op, bin, index, value := .asVal (some value) }
  | .incr => (incrValue rt val).map fun value => { op, bin, index, value }
  | .prepend | .append =>
      match val with
      | some (.string s) =>
          some { op, bin, index, value := .string (reading.text s) }
      | _ => none
  | .listMerge | .listInsertItems =>
      match val with
      | some (.array entries) =>
          if HashTable.hashtableIsList entries then
            (reading.items (encodeItems rt serializerType entries)).map
              fun items => { op, bin, index, value := .list items }
          else none
      | _ => none
  | .listPopRange | .listRemoveRange | .listGetRange | .listTrim =>
      match val with
      | some (.long n) =>
          some { op, bin, index, count := some (reading.count n) }
      | _ => none
  | _ => none

/-- A touch is an operation whatever its `ttl` is, as long as a `ttl` that is
there is an integer. -/
def touchEntryOp (entry : HashTable) : Option Operation :=
  match entry.strFind "ttl" with
  | none | some (.long _) => some { op := .touch }
  | some _ => none

def entryOp (entry : HashTable) : Option Operation := do
  let code ← longEntry entry "op"
  let op ← opTypeOf operators (reading.code code)
  if op = .touch then touchEntryOp entry
  else
    let bin ← entryBin reading op entry
    let index ← entryIndex op entry
    if op ∈ mapOpTypes then mapEntryOp reading rt serializerType op bin entry
    else valueEntryOp reading rt serializerType op bin index entry

end

/-! ## Procedures that only read -/

/-- The procedure stops with an error, in its status and in the error object
alike. -/
def AddOp.Refused {α : Type} (proc : AddOp α) (s : OpsState) : Prop :=
  ∃ status s', proc.run s = (.error status, s') ∧ status ≠ .ok ∧
    s'.err.code ≠ .ok

/-- The procedure reads `value` and changes nothing, or stops with an error
when there is no value. -/
def AddOp.Reads {α : Type} (proc : AddOp α) (s : OpsState) :
    Option α → Prop
  | some value => proc.run s = (.ok value, s)
  | none => AddOp.Refused proc s

namespace AddOp

variable {α β : Type} {s : OpsState}

theorem reads_pure (value : α) : Reads (pure value) s (some value) := rfl

theorem refused_refuseWith {code status : AsStatus} (hcode : code ≠ .ok)
    (hstatus : status ≠ .ok) (message : String) :
    Refused (refuseWith code status message : AddOp α) s :=
  ⟨status, _, rfl, hstatus, hcode⟩

theorem refused_refuse {code : AsStatus} (hcode : code ≠ .ok)
    (message : String) : Refused (refuse code message : AddOp α) s :=
  refused_refuseWith hcode hcode message

theorem refused_bind {proc : AddOp α} (hproc : Refused proc s)
    (next : α → AddOp β) : Refused (proc >>= next) s := by
  obtain ⟨status, s', hrun, hstatus, herr⟩ := hproc
  exact ⟨status, s', Proc.run_bind_error hrun, hstatus, herr⟩

theorem refused_bind_of_reads {proc : AddOp α} {value : Option α}
    (hproc : Reads proc s value) {next : α → AddOp β}
    (hnext : ∀ v, value = some v → Refused (next v) s) :
    Refused (proc >>= next) s := by
  cases value with
  | none => exact refused_bind hproc next
  | some v =>
      obtain ⟨status, s', hrun, hrest⟩ := hnext v rfl
      exact ⟨status, s', (Proc.run_bind_ok hproc).trans hrun, hrest⟩

theorem reads_bind {proc : AddOp α} {value : Option α}
    (hproc : Reads proc s value) {next : α → AddOp β} {result : α → Option β}
    (hnext : ∀ v, value = some v → Reads (next v) s (result v)) :
    Reads (proc >>= next) s (value.bind result) := by
  cases value with
  | none => exact refused_bind hproc next
  | some v =>
      have hrest := hnext v rfl
      cases hresult : result v with
      | none =>
          rw [hresult] at hrest
          obtain ⟨status, s', hrun, hend⟩ := hrest
          simp only [Option.bind_some, hresult]
          exact ⟨status, s', (Proc.run_bind_ok hproc).trans hrun, hend⟩
      | some w =>
          rw [hresult] at hrest
          simp only [Option.bind_some, hresult]
          exact (Proc.run_bind_ok hproc).trans hrest

theorem reads_orRefuse (value : Option α) (message : String) :
    Reads (orRefuse value message) s value := by
  cases value with
  | none => exact refused_refuse (by decide) message
  | some v => rfl

theorem reads_whenRequired (needed : Bool) {read : AddOp α} {value : Option α}
    (hread : Reads read s value) :
    Reads (whenRequired needed read) s (required needed value) := by
  unfold whenRequired required
  cases needed with
  | false => exact reads_pure none
  | true =>
      have hbind : Reads (read >>= fun v => pure (some v)) s
          (value.bind fun v => some (some v)) :=
        reads_bind hread fun v _ => reads_pure (some v)
      cases value <;> exact hbind

theorem reads_valWhenRequired (needed : Bool) {read : AddOp (Option AsVal)}
    {value : Option AsVal} (hread : Reads read s (value.map some)) :
    Reads (valWhenRequired needed read) s (required needed value) := by
  unfold valWhenRequired required
  cases needed with
  | false => exact reads_pure none
  | true => exact hread

theorem reads_requireLong (entry : HashTable) (name missing notLong : String) :
    Reads (requireLong entry name missing notLong) s (longEntry entry name) := by
  unfold requireLong longEntry
  cases entry.strFind name with
  | none => exact refused_bind (refused_refuse (by decide) missing) _
  | some z =>
      cases z with
      | long n => exact reads_pure n
      | undef | null | bool _ | double _ | string _ | array _ | object _ _
      | resource | reference _ => exact refused_refuse (by decide) notLong

/-- A conversion that refines `value`, from a clean error object. -/
theorem run_convert {converter : AsError → Converted α} :
    (convert converter).run s =
      (.ok (converter s.err), { s with err := (converter s.err).err }) := rfl

end AddOp

open AddOp

/-! ## The readers -/

section

variable {rt : Runtime} {operators : OperatorCodes}
variable {serializerType : SerializerType} {s : OpsState}

theorem requireBin_reads (op : OpType) (entry : HashTable) :
    Reads (requireBin (some op) entry) s (entryBin (readingAt s) op entry) := by
  unfold requireBin entryBin required
  split
  · cases entry.strFind "bin" with
    | none => exact refused_refuse (by decide) _
    | some z =>
        cases z with
        | string bin =>
            by_cases hlen : strlen bin > asBinNameMaxLen
            · simp only [hlen, if_true]
              exact refused_refuse (by decide) _
            · simp only [hlen, if_false]
              exact reads_pure _
        | undef | null | bool _ | double _ | long _ | array _ | object _ _
        | resource | reference _ => exact refused_refuse (by decide) _
  · exact reads_pure none

theorem requireIndex_reads (op : OpType) (entry : HashTable) :
    Reads (requireIndex (some op) entry) s (entryIndex op entry) := by
  unfold requireIndex entryIndex required
  split
  · have hread := reads_orRefuse (s := s) (longEntry entry "index")
      "Operation requires an integer index"
    have hbind : Reads (_ >>= fun index => pure (some index)) s
        ((longEntry entry "index").bind fun index => some (some index)) :=
      reads_bind hread fun index _ => reads_pure (some index)
    cases hindex : longEntry entry "index" <;> rw [hindex] at hbind <;>
      exact hbind
  · exact reads_pure none

@[simp] theorem readVal_asC (clean : Bool) :
    readVal (asC clean) rt serializerType = encode rt serializerType := by
  funext z
  cases z <;> simp [readVal, encode, asC]

theorem getAsVal_reads (hclean : s.err.code = .ok) (entry : HashTable)
    (name missing : String) :
    Reads (getAsValFromOpHash rt serializerType entry name missing) s
      ((entryAsVal (readingAt s) rt serializerType entry name).map some) := by
  unfold getAsValFromOpHash entryAsVal
  rw [readVal_asC, Option.map_bind]
  refine reads_bind (reads_orRefuse _ missing) fun z _ => ?_
  have hrefines := zvalToAsVal_refines rt serializerType z hclean
  show Reads (convert (zvalToAsVal rt serializerType z) >>= _) s
    ((encode rt serializerType z).map some)
  cases hvalue : encode rt serializerType z with
  | none =>
      rw [hvalue] at hrefines
      refine ⟨_, { s with err := (zvalToAsVal rt serializerType z s.err).err },
        (Proc.run_bind_ok run_convert).trans ?_, hrefines.2.2, hrefines.2.2⟩
      simp [hrefines.1]
  | some value =>
      rw [hvalue] at hrefines
      rw [Converted.Refines] at hrefines
      refine (Proc.run_bind_ok run_convert).trans ?_
      simp [hrefines]

theorem getCount_reads (entry : HashTable) :
    Reads (getCountFromOpHash entry) s (entryCount entry) := by
  have hread := reads_requireLong (s := s) entry "count"
    "Operation missing a required count entry" "Count entry must be a long type"
  unfold getCountFromOpHash entryCount
  cases hcount : longEntry entry "count" with
  | none =>
      rw [hcount] at hread
      exact refused_bind hread _
  | some n =>
      rw [hcount] at hread
      by_cases hneg : n.toInt < 0
      · simp only [hneg, if_true]
        refine @refused_bind_of_reads _ _ _ _ (some n) hread _ ?_
        rintro v ⟨⟩
        simp only [hneg, if_true]
        exact refused_refuse (by decide) _
      · have hcast : (toUint64 n : ℤ) = n.toInt :=
          (toUint64_eq_iff n).mpr (by omega)
        simp only [hneg, if_false]
        refine (Proc.run_bind_ok hread).trans ?_
        simp [hneg, hcast]

theorem getReturnType_reads (entry : HashTable) :
    Reads (getReturnTypeFromOpHash entry) s
      ((longEntry entry "return_type").map toUint32) := by
  have hlong := reads_requireLong (s := s) entry "return_type"
    "Operation missing a required return_type entry"
    "return_type must be a long"
  have hbind : Reads (_ >>= fun n => pure (toUint32 n)) s
      ((longEntry entry "return_type").bind fun n => some (toUint32 n)) :=
    reads_bind hlong fun n _ => reads_pure (toUint32 n)
  unfold getReturnTypeFromOpHash
  cases hread : longEntry entry "return_type" <;> rw [hread] at hbind <;>
    exact hbind

theorem getMapPolicy_reads (entry : HashTable) :
    Reads (getMapPolicyFromOpHash entry) s
      ((entry.strFind "map_policy").bind zvalToAsPolicyMap) :=
  reads_bind (reads_orRefuse _ _) fun _ _ => reads_orRefuse _ _

theorem readMapOpArgs_reads (hclean : s.err.code = .ok) (op : OpType)
    (entry : HashTable) :
    Reads (readMapOpArgs rt serializerType op entry) s
      (entryMapArgs (readingAt s) rt serializerType op entry) := by
  have hval : ∀ name missing,
      Reads (getAsValFromOpHash rt serializerType entry name missing) s
        ((entryAsVal (readingAt s) rt serializerType entry name).map some) :=
    getAsVal_reads hclean entry
  unfold readMapOpArgs entryMapArgs
  refine reads_bind (reads_whenRequired _ (getCount_reads entry))
    fun count _ => ?_
  refine reads_bind (reads_whenRequired _ (reads_requireLong ..))
    fun index _ => ?_
  refine reads_bind (reads_whenRequired _ (reads_requireLong ..))
    fun rank _ => ?_
  refine reads_bind (reads_whenRequired _ (getReturnType_reads entry))
    fun returnType _ => ?_
  refine reads_bind (reads_whenRequired _ (getMapPolicy_reads entry))
    fun mapPolicy _ => ?_
  refine reads_bind (reads_valWhenRequired _ (hval _ _)) fun key _ => ?_
  refine reads_bind (reads_valWhenRequired _ (hval _ _)) fun rangeEnd _ => ?_
  exact reads_bind (reads_valWhenRequired _ (hval _ _))
    fun val _ => reads_pure _

/-! ## Adding the operation -/

/-- The list of this operation is a NULL pointer. -/
def Operation.nullList (op : Operation) : Bool :=
  match op.value with
  | .list none => true
  | _ => false

/-- The procedure adds the operation and leaves the error object clean unless
it lost a list, or stops with an error. -/
def Adds (proc : AddOp Unit) (s : OpsState) (addOk : Bool) :
    Option Operation → Prop
  | none => Refused proc s
  | some op =>
      if addOk then
        ∃ err, proc.run s =
            (.ok (), { s with err := err, ops := s.ops ++ [op] }) ∧
          (op.nullList = false → err = s.err) ∧
          (op.nullList = true → err.code ≠ .ok)
      else Refused proc s

theorem adds_add (addOk : Bool) (message : String) {op : Operation}
    (hlist : op.nullList = false) : Adds (add addOk message op) s addOk op := by
  cases addOk with
  | true => exact ⟨s.err, rfl, fun _ => rfl, fun hnull => by simp_all⟩
  | false => exact refused_refuse (by decide) message

theorem adds_bind {α : Type} {proc : AddOp α} {value : Option α}
    {addOk : Bool} (hproc : Reads proc s value) {next : α → AddOp Unit}
    {result : α → Option Operation}
    (hnext : ∀ v, value = some v → Adds (next v) s addOk (result v)) :
    Adds (proc >>= next) s addOk (value.bind result) := by
  cases value with
  | none => exact refused_bind hproc next
  | some v =>
      have hrest := hnext v rfl
      rw [Option.bind_some]
      cases hresult : result v with
      | none =>
          rw [hresult] at hrest
          exact refused_bind_of_reads hproc fun w hw => by
            obtain rfl : v = w := by simpa using hw
            exact hrest
      | some op =>
          rw [hresult] at hrest
          cases addOk with
          | false =>
              exact refused_bind_of_reads hproc fun w hw => by
                obtain rfl : v = w := by simpa using hw
                exact hrest
          | true =>
              obtain ⟨err, hrun, herr⟩ := hrest
              exact ⟨err, (Proc.run_bind_ok hproc).trans hrun, herr⟩

theorem mapOperation_nullList (op : OpType) (bin : Option String)
    (args : MapOpArgs) : (mapOperation op bin args).nullList = false := by
  unfold mapOperation
  split <;> rfl

theorem addMapOp_adds (hclean : s.err.code = .ok) (addOk : Bool) (op : OpType)
    (bin : Option String) (entry : HashTable) :
    Adds (addMapOpToOperations rt serializerType addOk op bin entry) s addOk
      (mapEntryOp (readingAt s) rt serializerType op bin entry) := by
  have hresult : mapEntryOp (readingAt s) rt serializerType op bin entry =
      (entryMapArgs (readingAt s) rt serializerType op entry).bind fun args =>
        if mapOpTypeError op args = none then some (mapOperation op bin args)
        else none := by
    unfold mapEntryOp
    cases entryMapArgs (readingAt s) rt serializerType op entry <;> rfl
  rw [hresult]
  refine adds_bind (readMapOpArgs_reads hclean op entry) fun args _ => ?_
  cases hcheck : mapOpTypeError op args with
  | some message => exact refused_refuse (by decide) message
  | none =>
      have hadd := adds_add (s := s) addOk
        (s!"Failed to add {mapOpName op} operation")
        (mapOperation_nullList op bin args)
      simp only [if_true]
      cases addOk with
      | false => exact refused_bind hadd _
      | true =>
          refine ⟨s.err, ?_, fun _ => rfl, fun hnull => ?_⟩
          · refine (@Proc.run_bind_ok _ _ _ _ _ _ _
                { s with ops := s.ops ++ [mapOperation op bin args] } _ rfl).trans ?_
            refine (Proc.run_bind_ok rfl).trans ?_
            simp [hclean]
          · simp [mapOperation_nullList] at hnull

/-- The `val` entry, of the type that the operation demands. -/
def typedVal (op : OpType) (entry : HashTable) : Option Zval :=
  match entry.strFind "val" with
  | none => none
  | some (.array entries) =>
      if opRequiresLongVal (some op) then none else some (.array entries)
  | some (.long n) =>
      if opRequiresListVal (some op) then none else some (.long n)
  | some z =>
      if opRequiresListVal (some op) ∨ opRequiresLongVal (some op) then none
      else some z

theorem requireVal_reads (op : OpType) (entry : HashTable) :
    Reads (requireVal (some op) entry) s
      (required (opRequiresVal (some op)) (typedVal op entry)) := by
  unfold requireVal required typedVal
  split
  · cases entry.strFind "val" with
    | none => exact refused_bind (refused_refuse (by decide) _) _
    | some z =>
        cases z with
        | array entries =>
            by_cases hlong : opRequiresLongVal (some op)
            · simp only [hlong, if_true]
              exact refused_refuse (by decide) _
            · simp only [hlong]
              exact reads_pure _
        | long n =>
            by_cases hlist : opRequiresListVal (some op)
            · simp only [hlist, if_true]
              exact refused_refuse (by decide) _
            · simp only [hlist]
              exact reads_pure _
        | undef | null | bool _ | double _ | string _ | object _ _ | resource
        | reference _ =>
            by_cases hlist : opRequiresListVal (some op)
            · simp only [hlist, if_true, true_or]
              exact refused_refuse (by decide) _
            · by_cases hlong : opRequiresLongVal (some op)
              · simp only [hlist, hlong, if_true, or_true]
                exact refused_refuse (by decide) _
              · simp only [hlist, hlong, or_self]
                exact reads_pure _
  · exact reads_pure none

theorem requireAsVal_reads (hclean : s.err.code = .ok) (op : OpType)
    (z : Zval) :
    Reads (requireAsVal rt serializerType (some op) (some z)) s
      (required (opRequiresAsVal (some op)) (encode rt serializerType z)) := by
  unfold requireAsVal required
  have hrefines := zvalToAsVal_refines rt serializerType z hclean
  simp only
  split
  · cases hvalue : encode rt serializerType z with
    | none =>
        rw [hvalue] at hrefines
        obtain ⟨status, s', hrun, hend⟩ := @refused_refuse (Option AsVal)
            { s with err := (zvalToAsVal rt serializerType z s.err).err }
            .errParam (by decide) "Unable to convert value"
        refine ⟨status, s', (Proc.run_bind_ok run_convert).trans ?_, hend⟩
        simpa [hrefines.2.1] using hrun
    | some value =>
        rw [hvalue] at hrefines
        rw [Converted.Refines] at hrefines
        refine (Proc.run_bind_ok run_convert).trans ?_
        simp [hrefines, hclean]
  · exact reads_pure none

theorem typedVal_of_untyped {op : OpType}
    (hlist : opRequiresListVal (some op) = false)
    (hlong : opRequiresLongVal (some op) = false) (entry : HashTable) :
    typedVal op entry = entry.strFind "val" := by
  unfold typedVal
  cases entry.strFind "val" with
  | none => rfl
  | some z => cases z <;> simp [hlist, hlong]

theorem adds_congr {proc proc' : AddOp Unit} {addOk : Bool}
    {op : Option Operation} (hrun : proc.run s = proc'.run s)
    (hadds : Adds proc' s addOk op) : Adds proc s addOk op := by
  unfold Adds Refused at hadds ⊢
  rw [hrun]
  exact hadds

section

variable {addOk : Bool} {op : OpType} {bin : Option String}
variable {index : Option Int64} {entry : HashTable}

theorem addValueOp_refused (hval : opRequiresVal (some op) = true)
    (hz : typedVal op entry = none) :
    Refused (addValueOpToOperations rt serializerType addOk (some op) bin index
      entry) s := by
  have hread := requireVal_reads (s := s) op entry
  rw [hval, hz] at hread
  exact refused_bind hread _

theorem addValueOp_run_plain (hval : opRequiresVal (some op) = false) :
    (addValueOpToOperations rt serializerType addOk (some op) bin index
      entry).run s =
      (addSwitch rt serializerType addOk (some op) bin index none none).run
        s := by
  have hread := requireVal_reads (s := s) op entry
  rw [hval] at hread
  exact (Proc.run_bind_ok hread).trans (Proc.run_bind_ok rfl)

theorem addValueOp_run_val {z : Zval} (hval : opRequiresVal (some op) = true)
    (hasVal : opRequiresAsVal (some op) = false)
    (hz : typedVal op entry = some z) :
    (addValueOpToOperations rt serializerType addOk (some op) bin index
      entry).run s =
      (addSwitch rt serializerType addOk (some op) bin index (some z)
        none).run s := by
  have hread := requireVal_reads (s := s) op entry
  rw [hval, hz] at hread
  refine (Proc.run_bind_ok hread).trans (Proc.run_bind_ok ?_)
  simp [requireAsVal, hasVal]

/-- The operations that take an `as_val`: the conversion decides. -/
theorem addValueOp_adds_asVal (hclean : s.err.code = .ok)
    (hval : opRequiresVal (some op) = true)
    (hasVal : opRequiresAsVal (some op) = true)
    (hlist : opRequiresListVal (some op) = false)
    (hlong : opRequiresLongVal (some op) = false)
    {result : AsVal → Operation} (hresult : ∀ v, (result v).nullList = false)
    (hswitch : ∀ z v,
      addSwitch rt serializerType addOk (some op) bin index (some z) (some v) =
        add addOk "Unable to add operation" (result v)) :
    Adds (addValueOpToOperations rt serializerType addOk (some op) bin index
        entry) s addOk
      (((entry.strFind "val").bind
        (readVal (readingAt s) rt serializerType)).map result) := by
  rw [readVal_asC]
  have htyped := typedVal_of_untyped hlist hlong entry
  cases hz : entry.strFind "val" with
  | none => exact addValueOp_refused hval (htyped.trans hz)
  | some z =>
      have hread := requireVal_reads (s := s) op entry
      have hconvert := @requireAsVal_reads rt serializerType _ hclean op z
      rw [hval, htyped.trans hz] at hread
      rw [hasVal] at hconvert
      rw [Option.bind_some]
      cases hv : encode rt serializerType z with
      | none =>
          rw [hv] at hconvert
          obtain ⟨status, s', hrun, hend⟩ := refused_bind hconvert
            (addSwitch rt serializerType addOk (some op) bin index (some z))
          exact ⟨status, s', (Proc.run_bind_ok hread).trans hrun, hend⟩
      | some v =>
          rw [hv] at hconvert
          refine adds_congr ((Proc.run_bind_ok hread).trans
            (Proc.run_bind_ok hconvert)) ?_
          rw [hswitch z v]
          exact adds_add addOk _ (hresult v)

/-- The list operations: the list converter says OK in any case, so that a
list that is lost is added as NULL. -/
theorem requireListItems_adds {entries : HashTable}
    (hlist : HashTable.hashtableIsList entries = true)
    (result : Option (List AsVal) → Operation)
    (hresult : ∀ items, (result items).nullList = items.isNone) :
    Adds (requireListItems rt serializerType (some (.array entries)) >>=
        fun items => add addOk "Unable to add operation" (result items))
      s addOk (((readingAt s).items
        (encodeItems rt serializerType entries)).map result) := by
  have hstatus := zHashtableToAsList_status rt serializerType entries s.err
  have hitems : (requireListItems rt serializerType (some (.array entries))).run
      s = (.ok (zHashtableToAsList rt serializerType entries s.err).val,
        { s with err :=
            (zHashtableToAsList rt serializerType entries s.err).err }) := by
    unfold requireListItems
    simp only [hlist, if_true]
    refine (Proc.run_bind_ok run_convert).trans ?_
    simp [hstatus]
  have hlost : (zHashtableToAsList rt serializerType entries s.err).val = none →
      (zHashtableToAsList rt serializerType entries s.err).err.code ≠ .ok →
      Adds (requireListItems rt serializerType (some (.array entries)) >>=
        fun items => add addOk "Unable to add operation" (result items))
      s addOk (some (result none)) := by
    intro hval herr
    rw [hval] at hitems
    cases addOk with
    | true =>
        refine ⟨_, (Proc.run_bind_ok hitems).trans rfl, fun hnull => ?_,
          fun _ => herr⟩
        simp [hresult] at hnull
    | false =>
        exact ⟨.errClient, _, (Proc.run_bind_ok hitems).trans rfl, by decide,
          by simp⟩
  by_cases hclean : s.err.code = .ok
  · simp only [hclean, decide_true, asC, if_true, Option.map_some]
    cases hencode : encodeItems rt serializerType entries with
    | none =>
        have hnone := zHashtableToAsList_of_none rt serializerType hclean hencode
        exact hlost hnone.1 hnone.2
    | some items =>
        have hkept := zHashtableToAsList_of_some rt serializerType hclean hencode
        rw [hkept] at hitems
        refine adds_congr (Proc.run_bind_ok hitems) ?_
        exact adds_add addOk _ (by simp [hresult])
  · have hnone := zHashtableToAsList_sticky rt serializerType entries hclean
    simpa [hclean, asC] using hlost hnone.1 hnone.2

end

/-- `AS_OPERATOR_INCR`, `AS_OPERATOR_PREPEND` and `AS_OPERATOR_APPEND`: the
value is read off the zval without a conversion. -/
theorem addValueOp_adds_read {α : Type} {addOk : Bool} {op : OpType}
    {bin : Option String} {index : Option Int64} (entry : HashTable)
    (hval : opRequiresVal (some op) = true)
    (hasVal : opRequiresAsVal (some op) = false)
    (hlist : opRequiresListVal (some op) = false)
    (hlong : opRequiresLongVal (some op) = false)
    (read : Option Zval → Option α) (hread : read none = none)
    (message : String) {result : α → Operation}
    (hresult : ∀ z v, read z = some v → (result v).nullList = false)
    (hswitch : ∀ z,
      addSwitch rt serializerType addOk (some op) bin index z none =
        orRefuse (read z) message >>= fun v =>
          add addOk "Unable to add operation" (result v)) :
    Adds (addValueOpToOperations rt serializerType addOk (some op) bin index
        entry) s addOk ((read (entry.strFind "val")).map result) := by
  have htyped := typedVal_of_untyped hlist hlong entry
  cases hz : entry.strFind "val" with
  | none =>
      rw [hread]
      exact addValueOp_refused hval (htyped.trans hz)
  | some z =>
      refine adds_congr (addValueOp_run_val hval hasVal (htyped.trans hz)) ?_
      rw [hswitch, Option.map_eq_bind]
      exact adds_bind (reads_orRefuse _ message)
        fun v hv => adds_add addOk _ (hresult _ v hv)

theorem incrValue_not_list (z : Option Zval) (value : OpValue)
    (hvalue : incrValue rt z = some value) (op : OpType) (bin : Option String)
    (index : Option Int64) :
    ({ op, bin, index, value } : Operation).nullList = false := by
  unfold incrValue at hvalue
  split at hvalue
  · obtain rfl := Option.some.inj hvalue
    rfl
  · obtain rfl := Option.some.inj hvalue
    rfl
  · split at hvalue
    · obtain rfl := Option.some.inj hvalue
      rfl
    · obtain rfl := Option.some.inj hvalue
      rfl
    · simp at hvalue
  · simp at hvalue

/-- The operations on a range: the count is an integer. -/
theorem addValueOp_adds_range {addOk : Bool} {op : OpType}
    {bin : Option String} {index : Option Int64} (entry : HashTable)
    (hval : opRequiresVal (some op) = true)
    (hasVal : opRequiresAsVal (some op) = false)
    (hlist : opRequiresListVal (some op) = false)
    (hlong : opRequiresLongVal (some op) = true)
    (hswitch : ∀ z,
      addSwitch rt serializerType addOk (some op) bin index z none =
        add addOk "Unable to add operation"
          { op, bin, index, count := rangeCount z }) :
    Adds (addValueOpToOperations rt serializerType addOk (some op) bin index
        entry) s addOk
      (match entry.strFind "val" with
        | some (.long n) =>
            some { op, bin, index, count := some (toUint64 n : ℤ) }
        | _ => none) := by
  cases hz : entry.strFind "val" with
  | none => exact addValueOp_refused hval (by simp [typedVal, hz])
  | some z =>
      cases z with
      | long n =>
          have htyped : typedVal op entry = some (.long n) := by
            simp [typedVal, hz, hlist]
          refine adds_congr (addValueOp_run_val hval hasVal htyped) ?_
          rw [hswitch]
          exact adds_add addOk _ rfl
      | undef | null | bool _ | double _ | string _ | array _ | object _ _
      | resource | reference _ =>
          exact addValueOp_refused hval (by simp [typedVal, hz, hlong])

/-- `OP_LIST_MERGE` and `OP_LIST_INSERT_ITEMS`. -/
theorem addValueOp_adds_items {addOk : Bool}
    {op : OpType} {bin : Option String} {index : Option Int64}
    (entry : HashTable)
    (hval : opRequiresVal (some op) = true)
    (hasVal : opRequiresAsVal (some op) = false)
    (hlist : opRequiresListVal (some op) = true)
    (hlong : opRequiresLongVal (some op) = false)
    (hswitch : ∀ z,
      addSwitch rt serializerType addOk (some op) bin index z none =
        requireListItems rt serializerType z >>= fun items =>
          add addOk "Unable to add operation"
            { op, bin, index, value := .list items }) :
    Adds (addValueOpToOperations rt serializerType addOk (some op) bin index
        entry) s addOk
      (match entry.strFind "val" with
        | some (.array entries) =>
            if HashTable.hashtableIsList entries then
              ((readingAt s).items (encodeItems rt serializerType entries)).map
                fun items => { op, bin, index, value := .list items }
            else none
        | _ => none) := by
  cases hz : entry.strFind "val" with
  | none => exact addValueOp_refused hval (by simp [typedVal, hz])
  | some z =>
      cases z with
      | array entries =>
          have htyped : typedVal op entry = some (.array entries) := by
            simp [typedVal, hz, hlong]
          refine adds_congr (addValueOp_run_val hval hasVal htyped) ?_
          rw [hswitch]
          by_cases hkeys : HashTable.hashtableIsList entries = true
          · simp only [hkeys, if_true]
            exact requireListItems_adds hkeys
              (fun items => { op, bin, index, value := .list items })
              fun items => by cases items <;> rfl
          · simp only [hkeys]
            refine refused_bind ?_ _
            unfold requireListItems
            simp only [hkeys]
            exact refused_refuseWith (by decide) (by decide) _
      | undef | null | bool _ | double _ | string _ | long _ | object _ _
      | resource | reference _ =>
          exact addValueOp_refused hval (by simp [typedVal, hz, hlist])

theorem valueEntryOp_text {op : OpType} (hop : op = .prepend ∨ op = .append)
    {bin : Option String} {index : Option Int64} {entry : HashTable} :
    valueEntryOp (readingAt s) rt serializerType op bin index entry =
      (stringValue (entry.strFind "val")).map fun s =>
        { op, bin, index, value := .string s } := by
  rcases hop with rfl | rfl
  all_goals
    unfold valueEntryOp stringValue
    cases entry.strFind "val" with
    | none => rfl
    | some z => cases z <;> rfl

/-- A scalar or list entry adds the operation that its fields describe, when
the error object is clean or the operation does not look at it. -/
theorem addValueOp_adds (addOk : Bool) {op : OpType}
    (hclean : s.err.code = .ok ∨ opRequiresAsVal (some op) = false)
    (hmap : op ∉ mapOpTypes) (htouch : op ≠ .touch)
    {bin : Option String} {index : Option Int64}
    (hbin : opRequiresBin (some op) = false → bin = none)
    (hindex : opRequiresIndex (some op) = false → index = none)
    (entry : HashTable) :
    Adds (addValueOpToOperations rt serializerType addOk (some op) bin index
        entry) s addOk
      (valueEntryOp (readingAt s) rt serializerType op bin index entry) := by
  cases op with
  | write =>
      obtain rfl := hindex rfl
      exact addValueOp_adds_asVal (hclean.resolve_right (by decide)) rfl rfl rfl
        rfl (fun _ => rfl) fun _ _ => rfl
  | listAppend =>
      obtain rfl := hindex rfl
      exact addValueOp_adds_asVal (hclean.resolve_right (by decide)) rfl rfl rfl
        rfl (fun _ => rfl) fun _ _ => rfl
  | listInsert =>
      exact addValueOp_adds_asVal (hclean.resolve_right (by decide)) rfl rfl rfl
        rfl (fun _ => rfl) fun _ _ => rfl
  | listSet =>
      exact addValueOp_adds_asVal (hclean.resolve_right (by decide)) rfl rfl rfl
        rfl (fun _ => rfl) fun _ _ => rfl
  | read =>
      obtain rfl := hindex rfl
      exact adds_congr (addValueOp_run_plain rfl) (adds_add addOk _ rfl)
  | delete =>
      obtain rfl := hindex rfl
      obtain rfl := hbin rfl
      exact adds_congr (addValueOp_run_plain rfl) (adds_add addOk _ rfl)
  | listClear =>
      obtain rfl := hindex rfl
      exact adds_congr (addValueOp_run_plain rfl) (adds_add addOk _ rfl)
  | listSize =>
      obtain rfl := hindex rfl
      exact adds_congr (addValueOp_run_plain rfl) (adds_add addOk _ rfl)
  | listPop =>
      exact adds_congr (addValueOp_run_plain rfl) (adds_add addOk _ rfl)
  | listRemove =>
      exact adds_congr (addValueOp_run_plain rfl) (adds_add addOk _ rfl)
  | listGet =>
      exact adds_congr (addValueOp_run_plain rfl) (adds_add addOk _ rfl)
  | incr =>
      obtain rfl := hindex rfl
      exact addValueOp_adds_read entry rfl rfl rfl rfl (incrValue rt) rfl _
        (fun z v hv => incrValue_not_list z v hv .incr bin none) fun _ => rfl
  | prepend =>
      obtain rfl := hindex rfl
      rw [valueEntryOp_text (Or.inl rfl)]
      exact addValueOp_adds_read entry rfl rfl rfl rfl stringValue rfl _
        (fun _ _ _ => rfl) fun _ => rfl
  | append =>
      obtain rfl := hindex rfl
      rw [valueEntryOp_text (Or.inr rfl)]
      exact addValueOp_adds_read entry rfl rfl rfl rfl stringValue rfl _
        (fun _ _ _ => rfl) fun _ => rfl
  | listMerge =>
      obtain rfl := hindex rfl
      exact addValueOp_adds_items entry rfl rfl rfl rfl fun _ => rfl
  | listInsertItems =>
      exact addValueOp_adds_items entry rfl rfl rfl rfl fun _ => rfl
  | listPopRange =>
      exact addValueOp_adds_range entry rfl rfl rfl rfl fun _ => rfl
  | listRemoveRange =>
      exact addValueOp_adds_range entry rfl rfl rfl rfl fun _ => rfl
  | listGetRange =>
      exact addValueOp_adds_range entry rfl rfl rfl rfl fun _ => rfl
  | listTrim =>
      exact addValueOp_adds_range entry rfl rfl rfl rfl fun _ => rfl
  | touch => exact absurd rfl htouch
  | mapSetPolicy | mapPut | mapPutItems | mapIncrement | mapDecrement | mapSize
  | mapClear | mapRemoveByKey | mapRemoveByKeyList | mapRemoveByKeyRange
  | mapRemoveByValue | mapRemoveByValueList | mapRemoveByValueRange
  | mapRemoveByIndex | mapRemoveByIndexRange | mapRemoveByRank
  | mapRemoveByRankRange | mapGetByKey | mapGetByKeyRange | mapGetByValue
  | mapGetByValueRange | mapGetByIndex | mapGetByIndexRange | mapGetByRank
  | mapGetByRankRange => exact absurd (by decide) hmap

/-! ## Started with an error

Operations that convert a value, and all map operations, look at the error
object.  An error that an earlier entry left there makes them refuse.
-/

theorem requireAsVal_refused (herr : s.err.code ≠ .ok) {op : OpType}
    (hop : opRequiresAsVal (some op) = true) (z : Zval) :
    Refused (requireAsVal rt serializerType (some op) (some z)) s := by
  have hsticky := zvalToAsVal_sticky rt serializerType z herr
  obtain ⟨status, s', hrun, hend⟩ := @refused_refuse (Option AsVal)
      { s with err := (zvalToAsVal rt serializerType z s.err).err } .errParam
      (by decide) "Unable to convert value"
  unfold requireAsVal
  simp only [hop, if_true]
  refine ⟨status, s', (Proc.run_bind_ok run_convert).trans ?_, hend⟩
  simpa [hsticky] using hrun

theorem addValueOp_refused_of_error (herr : s.err.code ≠ .ok) (addOk : Bool)
    {op : OpType} (hop : opRequiresAsVal (some op) = true)
    (bin : Option String) (index : Option Int64) (entry : HashTable) :
    Refused (addValueOpToOperations rt serializerType addOk (some op) bin index
      entry) s := by
  have hval : opRequiresVal (some op) = true := by
    revert hop
    cases op <;> decide
  refine refused_bind_of_reads (requireVal_reads op entry) fun v hv => ?_
  obtain ⟨z, -, rfl⟩ : ∃ z, typedVal op entry = some z ∧ v = some z := by
    rw [hval] at hv
    simpa [required, eq_comm] using hv
  exact refused_bind (requireAsVal_refused herr hop z) _

/-- What every early exit of the dispatcher leaves behind. -/
def Failure (status : AsStatus) (s : OpsState) : Prop :=
  status ≠ .ok ∧ s.err.code ≠ .ok

abbrev HasError (s : OpsState) : Prop := s.err.code ≠ .ok

theorem ends_of_reads {α : Type} {proc : AddOp α}
    (hreads : ∀ s, ∃ value, Reads proc s value) :
    Proc.Ends HasError proc (fun _ => HasError) Failure := by
  intro s herr
  obtain ⟨value, hread⟩ := hreads s
  cases value with
  | none =>
      obtain ⟨status, s', hrun, hend⟩ := hread
      rw [hrun]
      exact hend
  | some v =>
      rw [hread]
      exact herr

theorem ends_whenRequired {α : Type} (needed : Bool) {read : AddOp α}
    (hread : Proc.Ends HasError read (fun _ => HasError) Failure) :
    Proc.Ends HasError (whenRequired needed read) (fun _ => HasError)
      Failure := by
  refine Proc.ends_ite (fun _ => ?_) fun _ => Proc.ends_pure fun _ herr => herr
  exact Proc.ends_bind hread fun v => Proc.ends_pure fun _ herr => herr

theorem ends_getAsVal (entry : HashTable) (name missing : String) :
    Proc.Ends HasError
      (getAsValFromOpHash rt serializerType entry name missing)
      (fun _ => HasError) Failure := by
  refine Proc.ends_bind (M := fun _ => HasError)
    (ends_of_reads fun s => ⟨_, reads_orRefuse _ missing⟩) fun z => ?_
  intro s herr
  have hsticky := zvalToAsVal_sticky rt serializerType z herr
  rw [Proc.run_bind_ok run_convert]
  by_cases hstatus : (zvalToAsVal rt serializerType z s.err).status = .ok
  · simpa [hstatus] using hsticky
  · simpa [hstatus, Failure] using hsticky

theorem ends_valWhenRequired (needed : Bool) {read : AddOp (Option AsVal)}
    (hread : Proc.Ends HasError read (fun _ => HasError) Failure) :
    Proc.Ends HasError (valWhenRequired needed read) (fun _ => HasError)
      Failure :=
  Proc.ends_ite (fun _ => hread) fun _ => Proc.ends_pure fun _ herr => herr

theorem returnLastCode_run_of_error (herr : s.err.code ≠ .ok) :
    returnLastCode.run s = (.error s.err.code, s) := by
  unfold returnLastCode
  exact (Proc.run_bind_ok rfl).trans (by simp [herr])

theorem addMapOp_refused_of_error (herr : s.err.code ≠ .ok) (addOk : Bool)
    (op : OpType) (bin : Option String) (entry : HashTable) :
    Refused (addMapOpToOperations rt serializerType addOk op bin entry) s := by
  have hval : ∀ name missing, Proc.Ends HasError
      (getAsValFromOpHash rt serializerType entry name missing)
      (fun _ => HasError) Failure := ends_getAsVal entry
  have hargs : Proc.Ends HasError (readMapOpArgs rt serializerType op entry)
      (fun _ => HasError) Failure := by
    refine Proc.ends_bind (ends_whenRequired _ (ends_of_reads fun s =>
      ⟨_, getCount_reads entry⟩)) fun _ => ?_
    refine Proc.ends_bind (ends_whenRequired _ (ends_of_reads fun s =>
      ⟨_, reads_requireLong entry ..⟩)) fun _ => ?_
    refine Proc.ends_bind (ends_whenRequired _ (ends_of_reads fun s =>
      ⟨_, reads_requireLong entry ..⟩)) fun _ => ?_
    refine Proc.ends_bind (ends_whenRequired _ (ends_of_reads fun s =>
      ⟨_, getReturnType_reads entry⟩)) fun _ => ?_
    refine Proc.ends_bind (ends_whenRequired _ (ends_of_reads fun s =>
      ⟨_, getMapPolicy_reads entry⟩)) fun _ => ?_
    refine Proc.ends_bind (ends_valWhenRequired _ (hval _ _)) fun _ => ?_
    refine Proc.ends_bind (ends_valWhenRequired _ (hval _ _)) fun _ => ?_
    refine Proc.ends_bind (ends_valWhenRequired _ (hval _ _)) fun _ => ?_
    exact Proc.ends_pure fun _ herr => herr
  have hends : Proc.Ends HasError
      (addMapOpToOperations rt serializerType addOk op bin entry)
      (fun _ _ => False) Failure := by
    refine Proc.ends_bind hargs fun args => ?_
    intro s herr
    cases mapOpTypeError op args with
    | some message => exact ⟨by decide, by simp⟩
    | none =>
        cases addOk with
        | false => exact ⟨by decide, by simp⟩
        | true =>
            -- the operation is added, but the last statement returns the code
            refine (@Proc.ends_bind _ _ _ _ HasError _ _ (fun _ => HasError)
                (add true _ _) _ ?_ fun _ => ?_) s herr
            · exact fun _ herr => herr
            · intro s herr
              rw [returnLastCode_run_of_error herr]
              exact ⟨herr, herr⟩
  obtain ⟨status, s', hrun, hend⟩ := Proc.ends_false_run hends herr
  exact ⟨status, s', hrun, hend⟩

end

end AerospikePhp
