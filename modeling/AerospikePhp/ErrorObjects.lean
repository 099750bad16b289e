import AerospikePhp.BatchMethods
import AerospikePhp.QueryMethods
import AerospikePhp.InfoMethods
import AerospikePhp.AdminMethods
import Mathlib.Tactic

/-!
# Codes and texts of error objects

An error object has a text exactly when it has a code.  Nothing that the
extension does to one breaks this but the bare assignment of a code: each
converter leaves the error object alone or puts an error with a text into it.
-/

namespace AerospikePhp

open Procedure Proc

/-- The error object has a text exactly when it has a code. -/
def AsError.Sound (err : AsError) : Prop := err.message = "" ↔ err.code = .ok

/-- The error object is left alone, or gets an error with a text. -/
def AsError.Becomes (err err' : AsError) : Prop :=
  err' = err ∨ (err'.code ≠ .ok ∧ err'.message ≠ "")

theorem AsError.sound_init : AsError.init.Sound := by
  simp [AsError.Sound, AsError.init]

theorem AsError.Sound.of_becomes {err err' : AsError} (herr : err.Sound)
    (hbecomes : err.Becomes err') : err'.Sound := by
  rcases hbecomes with rfl | ⟨hcode, hmessage⟩
  · exact herr
  · exact iff_of_false hmessage hcode

/-- A converter that fails says so in the error object or leaves it alone. -/
theorem AsError.Sound.failure_text {err : AsError} (herr : err.Sound)
    (hcode : err.code ≠ .ok) : err.message ≠ "" :=
  fun hmessage => hcode (herr.mp hmessage)

/-! ## Texts and codes

The texts of the extension are literals, whose first character can be looked
at when an instance is searched for.
-/

class Spells (message : String) (letters : outParam String) : Prop where
  eq : message = letters

instance (message : String) : Spells message message := ⟨rfl⟩

class HasText (message : String) : Prop where
  ne_empty : message ≠ ""

instance (message : String) (first : Char) (rest : List Char)
    [hspells : Spells message (String.ofList (first :: rest))] :
    HasText message := by
  refine ⟨fun hempty => ?_⟩
  have hletters := congrArg String.toList (hspells.eq.symm.trans hempty)
  simp at hletters

class IsFailure (code : AsStatus) : Prop where
  ne_ok : code ≠ .ok

instance : IsFailure .errClient := ⟨by decide⟩
instance : IsFailure .errParam := ⟨by decide⟩
instance : IsFailure .errCluster := ⟨by decide⟩
instance : IsFailure .errBinName := ⟨by decide⟩

section

variable {err err' err'' : AsError}

theorem becomes_refl (err : AsError) : err.Becomes err := .inl rfl

theorem becomes_update (err : AsError) {code : AsStatus} {message : String}
    [hcode : IsFailure code] [hmessage : HasText message] :
    err.Becomes (err.update code message) :=
  .inr ⟨hcode.ne_ok, hmessage.ne_empty⟩

theorem AsError.Becomes.trans (hfirst : err.Becomes err')
    (hsecond : err'.Becomes err'') : err.Becomes err'' := by
  rcases hsecond with rfl | hfailed
  · exact hfirst
  · exact .inr hfailed

theorem AsError.Becomes.update (_ : err.Becomes err') {code : AsStatus}
    {message : String} [hcode : IsFailure code] [hmessage : HasText message] :
    err.Becomes (err'.update code message) :=
  .inr ⟨hcode.ne_ok, hmessage.ne_empty⟩

end

/-! ## Converters -/

/-- Whatever the converter gives, its error object is sound if it was. -/
class Explains {α : Type} (converter : AsError → Converted α) : Prop where
  becomes : ∀ err : AsError, err.Becomes (converter err).err

section

variable (rt : Runtime) (serializerType : SerializerType)

instance (keyInit : AsKey → Bool) (hash : HashTable) :
    Explains (zHashtableToAsKey keyInit hash) := by
  refine ⟨fun err => ?_⟩
  have hinit : ∀ key, err.Becomes (asKeyInit keyInit key err).err := by
    intro key
    unfold asKeyInit
    split <;> exact becomes_refl err
  have hprimary : ∀ ns set pk,
      err.Becomes (primaryKeyToAsKey keyInit ns set pk err).err := by
    intro ns set pk
    unfold primaryKeyToAsKey
    split
    · split
      · exact becomes_update err
      · exact hinit _
    · exact hinit _
    · exact hinit _
    · exact becomes_refl err
  unfold zHashtableToAsKey
  split
  · split
    · split <;> exact becomes_update err
    · split
      · exact becomes_update err
      · exact hprimary _ _ _
    · exact becomes_update err
  · exact becomes_update err

theorem serializePhpObject_becomes (z : Zval) (err : AsError) :
    err.Becomes (serializePhpObject rt serializerType z err).err := by
  have huser : err.Becomes (serializeWithUserFunction rt z err).err := by
    unfold serializeWithUserFunction
    split
    · exact becomes_update err
    · split
      · exact becomes_update err
      · exact becomes_refl err
      · exact becomes_update err
  unfold serializePhpObject
  split
  · dsimp only
    split <;> exact huser
  · split
    · split
      · exact becomes_update err
      · exact becomes_refl err
    · exact becomes_update err

theorem serializedToAsVal_becomes (z : Zval) (err : AsError) :
    err.Becomes (serializedToAsVal rt serializerType z err).err := by
  have hserialized := serializePhpObject_becomes rt serializerType z err
  unfold serializedToAsVal
  dsimp only
  split
  · exact hserialized
  · exact hserialized.update

theorem objectToAsVal_becomes (className : String)
    (properties : List (String × Zval)) (err : AsError) :
    err.Becomes
      (objectToAsVal rt serializerType className properties err).err := by
  unfold objectToAsVal
  split
  · split
    · exact becomes_refl err
    · exact becomes_update err
  · split
    · split
      · exact becomes_refl err
      · exact becomes_update err
    · exact serializedToAsVal_becomes rt serializerType _ err

theorem asListCleanup_err (items : List AsVal) (err : AsError) :
    (asListCleanup items err).err = err := by
  unfold asListCleanup
  split <;> rfl

mutual

theorem zvalToAsVal_becomes : ∀ (z : Zval) (err : AsError),
    err.Becomes (zvalToAsVal rt serializerType z err).err
  | .long _, err | .string _, err | .double _, err => by
      rw [zvalToAsVal]
      exact becomes_refl err
  | .array entries, err => by
      rw [zvalToAsVal]
      split
      · have hlist := asListLoop_becomes entries [] err
        dsimp only
        split <;> exact hlist
      · have hmap := asMapLoop_becomes entries [] err
        dsimp only
        split <;> exact hmap
  | .object className properties, err => by
      rw [zvalToAsVal]
      exact objectToAsVal_becomes rt serializerType className properties err
  | .undef, err | .null, err | .bool _, err | .resource, err
  | .reference _, err => by
      rw [zvalToAsVal]
      · exact serializedToAsVal_becomes rt serializerType _ err
      all_goals simp

theorem asListLoop_becomes : ∀ (entries : List (ZKey × Zval))
    (items : List AsVal) (err : AsError),
    err.Becomes (asListLoop rt serializerType entries items err).err
  | [], items, err => by
      rw [asListLoop, asListCleanup_err]
      exact becomes_refl err
  | (_, value) :: entries, items, err => by
      have hvalue := zvalToAsVal_becomes value err
      rw [asListLoop]
      split
      · rw [asListCleanup_err]
        exact hvalue.update
      · split
        · rw [asListCleanup_err]
          exact hvalue.update
        · exact hvalue.trans (asListLoop_becomes entries _ _)

theorem asMapLoop_becomes : ∀ (entries : List (ZKey × Zval))
    (pairs : List (AsVal × AsVal)) (err : AsError),
    err.Becomes (asMapLoop rt serializerType entries pairs err).err
  | [], pairs, err => by
      rw [asMapLoop]
      split <;> exact becomes_refl err
  | (key, value) :: entries, pairs, err => by
      have hvalue := zvalToAsVal_becomes value err
      rw [asMapLoop]
      dsimp only
      split
      · exact hvalue.update
      · split
        · exact hvalue.update
        · exact hvalue.trans (asMapLoop_becomes entries _ _)

end

instance (z : Zval) : Explains (zvalToAsVal rt serializerType z) :=
  ⟨zvalToAsVal_becomes rt serializerType z⟩

instance (table : HashTable) :
    Explains (zHashtableToAsList rt serializerType table) :=
  ⟨asListLoop_becomes rt serializerType table []⟩

theorem addZvalToRecord_becomes (capacity : ℕ) (z : Zval) (record : AsRecord)
    (bin : String) (err : AsError) :
    err.Becomes (addZvalToRecord rt serializerType capacity z record bin err).2 := by
  have hvalue := zvalToAsVal_becomes rt serializerType z err
  unfold addZvalToRecord
  dsimp only
  split
  · exact hvalue
  · split
    · exact hvalue.update
    · exact hvalue.update
    · exact hvalue.update
    · exact hvalue

theorem asRecordLoop_becomes (capacity : ℕ) (table : HashTable)
    (record : AsRecord) (err : AsError) :
    err.Becomes (asRecordLoop rt serializerType capacity table record err).err := by
  induction table generalizing record err with
  | nil => exact becomes_refl err
  | cons entry entries ih =>
      obtain ⟨key, z⟩ := entry
      cases key with
      | idx index => exact becomes_update err
      | str name =>
          have hadded := addZvalToRecord_becomes rt serializerType capacity z
            record (cString name) err
          rw [asRecordLoop]
          split
          · exact becomes_update err
          · dsimp only
            split
            · exact hadded
            · exact hadded.trans (ih _ _)

instance (table : HashTable) :
    Explains (zHashtableToAsRecord rt serializerType table) :=
  ⟨asRecordLoop_becomes rt serializerType _ table asRecordNew⟩

/-! ## Converters to PHP values -/

theorem unserializeAsBytes_becomes (type : AsBytesType) (value : String)
    (err : AsError) : err.Becomes (unserializeAsBytes rt type value err).err := by
  cases type with
  | blob =>
      unfold unserializeAsBytes
      dsimp only
      cases rt.userDeserializer with
      | none =>
          cases rt.bytesObject value with
          | some z => exact becomes_refl err
          | none => exact becomes_update err
      | some deserializer =>
          dsimp only
          cases deserializer value with
          | some z => exact becomes_refl err
          | none => exact becomes_update err
  | php =>
      unfold unserializeAsBytes
      dsimp only
      cases rt.phpVarUnserialize value with
      | some z => exact becomes_refl err
      | none => exact becomes_update err
  | other code => exact becomes_update err

theorem asGeojsonToZval_becomes (geojson : String) (err : AsError) :
    err.Becomes (asGeojsonToZval rt geojson err).err := by
  unfold asGeojsonToZval
  split
  · exact becomes_refl err
  · exact becomes_update err

mutual

theorem asValToZval_becomes : ∀ (value : AsVal) (err : AsError),
    err.Becomes (asValToZval rt value err).err
  | .string _, err | .integer _, err | .double _, err | .nil, err
  | .boolean _, err => by
      rw [asValToZval]
      exact becomes_refl err
  | .list items, err => by
      rw [asValToZval]
      exact asListToZval_becomes items [] err
  | .map entries, err => by
      rw [asValToZval]
      exact asMapToZval_becomes entries [] err
  | .bytes type value, err => by
      rw [asValToZval]
      exact unserializeAsBytes_becomes rt type value err
  | .geojson value, err => by
      rw [asValToZval]
      exact asGeojsonToZval_becomes rt value err

theorem asListToZval_becomes : ∀ (items : List AsVal) (table : HashTable)
    (err : AsError), err.Becomes (asListToZval rt items table err).err
  | [], table, err => by
      rw [asListToZval]
      exact becomes_refl err
  | item :: items, table, err => by
      have hitem := asValToZval_becomes item err
      rw [asListToZval]
      split
      · exact hitem
      · exact hitem.trans (asListToZval_becomes items _ _)

theorem asMapToZval_becomes : ∀ (entries : List (AsVal × AsVal))
    (table : HashTable) (err : AsError),
    err.Becomes (asMapToZval rt entries table err).err
  | [], table, err => by
      rw [asMapToZval]
      split <;> exact becomes_refl err
  | (key, value) :: entries, table, err => by
      have hkey := asValToZval_becomes key err
      have hvalue := asValToZval_becomes value (asValToZval rt key err).err
      rw [asMapToZval]
      dsimp only
      split
      · exact hkey.update
      · split
        · exact hkey.trans hvalue
        · exact (hkey.trans hvalue).trans (asMapToZval_becomes entries _ _)

end

instance (value : AsVal) : Explains (asValToZval rt value) :=
  ⟨asValToZval_becomes rt value⟩

theorem asBinsLoop_becomes (bins : List (String × AsVal)) (table : HashTable)
    (err : AsError) : err.Becomes (asBinsLoop rt bins table err).err := by
  induction bins generalizing table err with
  | nil =>
      rw [asBinsLoop]
      split <;> exact becomes_refl err
  | cons bin bins ih =>
      obtain ⟨name, value⟩ := bin
      have hvalue := asValToZval_becomes rt value err
      rw [asBinsLoop]
      split
      · exact hvalue
      · exact hvalue.trans (ih _ _)

instance (record : AsRecord) : Explains (asBinsToZval rt record) :=
  ⟨asBinsLoop_becomes rt record.bins []⟩

instance (key : AsKey) (showPk : Bool) : Explains (asKeyToZval key showPk) := by
  refine ⟨fun err => ?_⟩
  unfold asKeyToZval
  split
  · exact becomes_update err
  · exact becomes_refl err

instance (record : AsRecord) (key : AsKey) (showPk : Bool) :
    Explains (asRecordToZval rt record key showPk) := by
  refine ⟨fun err => ?_⟩
  have hbins := asBinsLoop_becomes rt record.bins [] err
  have hkeys : Explains (asKeyToZval key showPk) := inferInstance
  have hkey := hkeys.becomes (asBinsToZval rt record err).err
  unfold asRecordToZval
  dsimp only
  split
  · exact hbins
  · split
    · exact hbins.trans hkey
    · exact hbins.trans hkey

theorem asOperateRecordLoop_becomes (bins : List (String × AsVal))
    (table : HashTable) (err : AsError) :
    err.Becomes (asOperateRecordLoop rt bins table err).err := by
  induction bins generalizing table err with
  | nil =>
      rw [asOperateRecordLoop]
      split <;> exact becomes_refl err
  | cons bin bins ih =>
      obtain ⟨name, value⟩ := bin
      have hvalue := asValToZval_becomes rt value err
      rw [asOperateRecordLoop]
      split
      · exact hvalue
      · exact hvalue.trans (ih _ _)

instance (record : Option AsRecord) :
    Explains (asOperateRecordToZval rt record) := by
  refine ⟨fun err => ?_⟩
  cases record with
  | none => exact becomes_update err
  | some record => exact asOperateRecordLoop_becomes rt record.bins [] err

end

/-! ## Checks with texts of their own -/

/-- Where the check fails, its text says something. -/
def Worded {α : Type} (result : Except String α) : Prop :=
  ∀ message, result = .error message → HasText message

section

variable {α β : Type}

theorem worded_ok (value : α) : Worded (.ok value : Except String α) := by
  intro message hmessage
  cases hmessage

theorem worded_error (message : String) [hmessage : HasText message] :
    Worded (.error message : Except String α) := by
  intro message' heq
  cases heq
  exact hmessage

theorem Worded.bind {result : Except String α} {next : α → Except String β}
    (hresult : Worded result) (hnext : ∀ value, Worded (next value)) :
    Worded (result >>= next) := by
  cases result with
  | ok value => exact hnext value
  | error message =>
      have := hresult message rfl
      exact worded_error message

theorem worded_mapM {check : α → Except String β}
    (hcheck : ∀ value, Worded (check value)) (values : List α) :
    Worded (values.mapM check) := by
  induction values with
  | nil => exact worded_ok []
  | cons value values ih =>
      rw [List.mapM_cons]
      exact (hcheck value).bind fun first => ih.bind fun rest => worded_ok _

end

theorem filterBinNames_worded (bins : HashTable) :
    Worded (filterBinNames bins) := by
  induction bins with
  | nil => exact worded_ok []
  | cons bin bins ih =>
      obtain ⟨key, z⟩ := bin
      cases z with
      | string name =>
          rw [filterBinNames]
          split
          · exact worded_error _
          · cases hnames : filterBinNames bins with
            | ok names => exact worded_ok _
            | error message =>
                have := ih message hnames
                exact worded_error message
      | undef | null | bool _ | long _ | double _ | array _ | object _ _
      | resource | reference _ => exact worded_error _

theorem batchBinNames_worded (filter : Option HashTable) :
    Worded (batchBinNames filter) := by
  unfold batchBinNames
  split
  · exact worded_ok none
  · exact worded_ok none
  · next bins _ =>
      split
      · exact worded_ok _
      · next message hbins =>
          have := filterBinNames_worded bins message hbins
          exact worded_error message

theorem hostOfHash_worded (host : HashTable) : Worded (hostOfHash host) := by
  unfold hostOfHash
  split
  · exact worded_error _
  · split
    · exact worded_error _
    · exact worded_ok _
    · exact worded_error _
  · exact worded_error _

theorem hashToPrivilege_worded (z : Zval) : Worded (hashToPrivilege z) := by
  have hname : ∀ (privilege : HashTable) (field : String) (size : ℕ)
      (notString tooLong : String) [HasText notString] [HasText tooLong],
      Worded (privilegeName privilege field size notString tooLong) := by
    intro privilege field size notString tooLong _ _
    unfold privilegeName
    split
    · exact worded_ok ""
    · split
      · exact worded_error _
      · exact worded_ok _
    · exact worded_error _
  unfold hashToPrivilege
  split
  · split
    · exact worded_error _
    · exact (hname _ _ _ _ _).bind fun ns =>
        (hname _ _ _ _ _).bind fun set => worded_ok _
    · exact worded_error _
  · exact worded_error _

theorem hashToRole_worded (z : Zval) : Worded (hashToRole z) := by
  unfold hashToRole
  split
  · split
    · exact worded_error _
    · exact worded_ok _
  · exact worded_error _

/-! ## Predicates -/

section

variable {indexTypes : IndexType → ℤ} {whereOk : Bool} {query : AsQuery}
variable {bin : String} {err : AsError}

theorem getMinMaxFromZval_worded (val : Zval) :
    Worded (getMinMaxFromZval val) := by
  unfold getMinMaxFromZval
  repeat' split
  all_goals first | exact worded_error _ | exact worded_ok _

theorem predicateIndexType_worded (predicate : HashTable) :
    Worded (predicateIndexType predicate) := by
  unfold predicateIndexType
  split
  · exact worded_error _
  · exact worded_ok _
  · exact worded_error _

theorem refusePredicate_becomes {code : AsStatus} {message : String}
    [IsFailure code] [HasText message] :
    err.Becomes (refusePredicate code message query err).err :=
  becomes_update err

theorem losePredicate_becomes {code : AsStatus} {message : String}
    [IsFailure code] [HasText message] :
    err.Becomes (losePredicate code message query err).err :=
  becomes_update err

theorem asQueryWhere_becomes {clause : WhereClause} {failure : Predicated}
    (hfailure : err.Becomes failure.err) :
    err.Becomes (asQueryWhere whereOk query err clause failure).err := by
  unfold asQueryWhere
  split
  · exact becomes_refl err
  · exact hfailure

theorem addTypedContains_becomes (type : IndexType) (val : Zval) :
    err.Becomes (addTypedContainsPredicate whereOk query bin err type val).err := by
  unfold addTypedContainsPredicate
  split
  · exact asQueryWhere_becomes losePredicate_becomes
  · exact asQueryWhere_becomes losePredicate_becomes
  · exact losePredicate_becomes

theorem addTypedRange_becomes (type : IndexType) (min max : Int64) :
    err.Becomes (addTypedRangePredicate whereOk query bin err type min max).err :=
  asQueryWhere_becomes refusePredicate_becomes

theorem addBetweenPredicate_becomes (val : Zval) :
    err.Becomes (addBetweenPredicateToQuery whereOk query bin err val).err := by
  unfold addBetweenPredicateToQuery
  cases hbounds : getMinMaxFromZval val with
  | error message =>
      have := getMinMaxFromZval_worded val message hbounds
      exact refusePredicate_becomes
  | ok bounds => exact asQueryWhere_becomes refusePredicate_becomes

theorem addContainsPredicate_becomes (indexType : Int64) (val : Zval) :
    err.Becomes (addContainsPredicateToQuery indexTypes whereOk query bin err
      indexType val).err := by
  unfold addContainsPredicateToQuery
  split
  · exact addTypedContains_becomes _ val
  · exact addTypedContains_becomes _ val
  · exact addTypedContains_becomes _ val
  · exact refusePredicate_becomes

theorem addRangePredicate_becomes (indexType : Int64) (val : Zval) :
    err.Becomes (addRangePredicateToQuery indexTypes whereOk query bin err
      indexType val).err := by
  unfold addRangePredicateToQuery
  cases hbounds : getMinMaxFromZval val with
  | error message =>
      have := getMinMaxFromZval_worded val message hbounds
      exact refusePredicate_becomes
  | ok bounds =>
      dsimp only
      split
      · exact addTypedRange_becomes _ _ _
      · exact addTypedRange_becomes _ _ _
      · exact addTypedRange_becomes _ _ _
      · exact refusePredicate_becomes

theorem addGeoPredicate_becomes (val : Zval) :
    err.Becomes (addGeoContainsPredicateToQuery whereOk query bin err val).err ∧
      err.Becomes (addGeoWithinPredicateToQuery whereOk query bin err val).err := by
  unfold addGeoContainsPredicateToQuery addGeoWithinPredicateToQuery
  constructor
  · split
    · exact asQueryWhere_becomes refusePredicate_becomes
    · exact refusePredicate_becomes
  · split
    · exact asQueryWhere_becomes refusePredicate_becomes
    · exact refusePredicate_becomes

theorem addPredicateByOp_becomes (predicate : HashTable) (op : String)
    (val : Zval) :
    err.Becomes
      (addPredicateByOp indexTypes whereOk query bin err predicate op val).err := by
  have hindex : ∀ message, predicateIndexType predicate = .error message →
      err.Becomes (refusePredicate .errParam message query err).err := by
    intro message hmessage
    have := predicateIndexType_worded predicate message hmessage
    exact refusePredicate_becomes
  unfold addPredicateByOp
  split
  · unfold addEqualPredicateToQuery
    split
    · exact asQueryWhere_becomes losePredicate_becomes
    · exact asQueryWhere_becomes losePredicate_becomes
    · exact losePredicate_becomes
  · split
    · exact addBetweenPredicate_becomes val
    · split
      · split
        · next message hmessage => exact hindex message hmessage
        · next indexType _ => exact addContainsPredicate_becomes indexType val
      · split
        · split
          · next message hmessage => exact hindex message hmessage
          · next indexType _ => exact addRangePredicate_becomes indexType val
        · split
          · exact (addGeoPredicate_becomes val).1
          · split
            · exact (addGeoPredicate_becomes val).2
            · exact refusePredicate_becomes

theorem addPredicateToQuery_becomes (predicate : HashTable) :
    err.Becomes
      (addPredicateToQuery indexTypes whereOk query predicate err).err := by
  unfold addPredicateToQuery
  split
  · exact refusePredicate_becomes
  · split
    · exact refusePredicate_becomes
    · split
      · exact refusePredicate_becomes
      · split
        · exact refusePredicate_becomes
        · exact addPredicateByOp_becomes predicate _ _
      · exact refusePredicate_becomes
    · exact refusePredicate_becomes

end

/-! ## The operations array -/

/-- The relation between the error objects before and after a step. -/
def OpsState.Explains (s s' : OpsState) : Prop := s.err.Becomes s'.err

instance : Std.Refl OpsState.Explains := ⟨fun s => becomes_refl s.err⟩

instance : IsTrans OpsState OpsState.Explains :=
  ⟨fun _ _ _ hfirst hsecond => hfirst.trans hsecond⟩

namespace AddOp

section

variable {α : Type}

instance (code status : AsStatus) (message : String) [IsFailure code]
    [HasText message] :
    Moves OpsState.Explains (refuseWith code status message : AddOp α) := by
  have : Moves OpsState.Explains (modify fun s : OpsState =>
      { s with err := s.err.update code message } : AddOp Unit) :=
    moves_modify fun s => becomes_update s.err
  unfold refuseWith
  infer_instance

instance (code : AsStatus) (message : String) [IsFailure code]
    [HasText message] :
    Moves OpsState.Explains (refuse code message : AddOp α) := by
  unfold refuse
  infer_instance

instance (value : Option α) (message : String) [HasText message] :
    Moves OpsState.Explains (orRefuse value message) := by
  unfold orRefuse
  split <;> infer_instance

instance (addOk : Bool) (message : String) (op : Operation)
    [HasText message] : Moves OpsState.Explains (add addOk message op) := by
  have : Moves OpsState.Explains (modify fun s : OpsState =>
      { s with ops := s.ops ++ [op] } : AddOp Unit) :=
    moves_modify fun s => becomes_refl s.err
  unfold add
  infer_instance

instance (converter : AsError → Converted α) [hexplains : Explains converter] :
    Moves OpsState.Explains (convert converter) :=
  ⟨fun s => hexplains.becomes s.err⟩

end

end AddOp

section

open AddOp

variable (rt : Runtime) (operators : OperatorCodes)
variable (serializerType : SerializerType) (opArray : HashTable)

instance : Moves OpsState.Explains (requireOpType operators opArray) := by
  unfold requireOpType
  have : ∀ z : Zval, Moves OpsState.Explains (match z with
      | .long n => pure (opTypeOf operators (toInt32 n))
      | _ => refuse .errParam "Operation type must be an integer" :
        AddOp (Option OpType)) := by
    intro z
    split <;> infer_instance
  infer_instance

instance (op : Option OpType) :
    Moves OpsState.Explains (requireBin op opArray) := by
  unfold requireBin
  split
  · split
    · infer_instance
    · infer_instance
  · infer_instance

instance (op : Option OpType) :
    Moves OpsState.Explains (requireIndex op opArray) := by
  unfold requireIndex
  infer_instance

instance (addOk : Bool) : Moves OpsState.Explains (addTouch addOk opArray) := by
  unfold addTouch
  split
  · infer_instance
  · exact moves_modify fun s => becomes_refl s.err
  · infer_instance

/-! ### Map operations -/

instance (name missing notLong : String) [HasText missing] [HasText notLong] :
    Moves OpsState.Explains (requireLong opArray name missing notLong) := by
  unfold requireLong
  have : ∀ z : Zval, Moves OpsState.Explains (match z with
      | .long n => pure n
      | _ => refuse .errParam notLong : AddOp Int64) := by
    intro z
    split <;> infer_instance
  infer_instance

instance : Moves OpsState.Explains (getCountFromOpHash opArray) := by
  unfold getCountFromOpHash
  infer_instance

instance : Moves OpsState.Explains (getIndexFromOpHash opArray) := by
  unfold getIndexFromOpHash
  infer_instance

instance : Moves OpsState.Explains (getRankFromOpHash opArray) := by
  unfold getRankFromOpHash
  infer_instance

instance : Moves OpsState.Explains (getReturnTypeFromOpHash opArray) := by
  unfold getReturnTypeFromOpHash
  infer_instance

instance (name missing : String) [HasText missing] :
    Moves OpsState.Explains
      (getAsValFromOpHash rt serializerType opArray name missing) := by
  unfold getAsValFromOpHash
  infer_instance

instance : Moves OpsState.Explains (getMapPolicyFromOpHash opArray) := by
  unfold getMapPolicyFromOpHash
  infer_instance

instance {α : Type} (required : Bool) (read : AddOp α)
    [Moves OpsState.Explains read] :
    Moves OpsState.Explains (whenRequired required read) := by
  unfold whenRequired
  infer_instance

instance (required : Bool) (read : AddOp (Option AsVal))
    [Moves OpsState.Explains read] :
    Moves OpsState.Explains (valWhenRequired required read) := by
  unfold valWhenRequired
  infer_instance

instance (op : OpType) :
    Moves OpsState.Explains (readMapOpArgs rt serializerType op opArray) := by
  unfold readMapOpArgs
  infer_instance

theorem mapOpTypeError_hasText (op : OpType) (args : MapOpArgs) :
    ∀ message, mapOpTypeError op args = some message → HasText message := by
  intro message hmessage
  unfold mapOpTypeError at hmessage
  split at hmessage <;> cases hmessage <;> infer_instance

instance (name : String) : HasText (s!"Failed to add {name} operation") := by
  refine ⟨fun hempty => ?_⟩
  have hletters := congrArg String.toList hempty
  simp [toString] at hletters

instance : Moves OpsState.Explains returnLastCode := by
  unfold returnLastCode
  infer_instance

instance (addOk : Bool) (op : OpType) (bin : Option String) :
    Moves OpsState.Explains
      (addMapOpToOperations rt serializerType addOk op bin opArray) := by
  unfold addMapOpToOperations
  have : ∀ args : MapOpArgs, Moves OpsState.Explains
      (match mapOpTypeError op args with
        | some message => refuse .errParam message
        | none => do
            add addOk (s!"Failed to add {mapOpName op} operation")
              (mapOperation op bin args)
            returnLastCode : AddOp Unit) := by
    intro args
    cases herror : mapOpTypeError op args with
    | none => infer_instance
    | some message =>
        have := mapOpTypeError_hasText op args message herror
        infer_instance
  infer_instance

/-! ### Scalar and list operations -/

instance (op : Option OpType) :
    Moves OpsState.Explains (requireVal op opArray) := by
  unfold requireVal
  have : ∀ z : Zval, Moves OpsState.Explains (match z with
      | .array _ =>
          if opRequiresLongVal op then
            refuse .errParam "Operation requires an integer val entry"
          else pure (some z)
      | .long _ =>
          if opRequiresListVal op then
            refuse .errParam "Operation requires a list val entry"
          else pure (some z)
      | _ =>
          if opRequiresListVal op then
            refuse .errParam "Operation requires a list val entry"
          else if opRequiresLongVal op then
            refuse .errParam "Operation requires an integer val entry"
          else pure (some z) : AddOp (Option Zval)) := by
    intro z
    split <;> infer_instance
  infer_instance

instance (op : Option OpType) (zVal : Option Zval) :
    Moves OpsState.Explains (requireAsVal rt serializerType op zVal) := by
  unfold requireAsVal
  split <;> infer_instance

instance (zVal : Option Zval) :
    Moves OpsState.Explains (requireListItems rt serializerType zVal) := by
  unfold requireListItems
  split <;> infer_instance

instance (addOk : Bool) (op : Option OpType) (bin : Option String)
    (index : Option Int64) (zVal : Option Zval) (opVal : Option AsVal) :
    Moves OpsState.Explains
      (addSwitch rt serializerType addOk op bin index zVal opVal) := by
  unfold addSwitch
  dsimp only
  split <;> infer_instance

instance (addOk : Bool) (op : Option OpType) (bin : Option String)
    (index : Option Int64) :
    Moves OpsState.Explains
      (addValueOpToOperations rt serializerType addOk op bin index opArray) := by
  unfold addValueOpToOperations
  infer_instance

instance (addOk : Bool) :
    Moves OpsState.Explains
      (addOpToOperations rt operators serializerType addOk opArray) := by
  unfold addOpToOperations
  have : ∀ (op : Option OpType) (bin : Option String) (index : Option Int64),
      Moves OpsState.Explains (match op with
        | some mapOp =>
            if opIsMapOp op then
              addMapOpToOperations rt serializerType addOk mapOp bin opArray
            else
              addValueOpToOperations rt serializerType addOk op bin index opArray
        | none =>
            addValueOpToOperations rt serializerType addOk op bin index opArray :
          AddOp Unit) := by
    intro op bin index
    split <;> infer_instance
  infer_instance

instance (ordered : Bool) (entries : List ((ZKey × Zval) × Bool)) :
    Moves OpsState.Explains
      (addOperations rt operators serializerType ordered entries) := by
  induction entries with
  | nil => exact inferInstanceAs (Moves _ (pure ()))
  | cons entry entries ih =>
      obtain ⟨⟨key, z⟩, addOk⟩ := entry
      unfold addOperations
      split
      · infer_instance
      · split <;> infer_instance

end

end AerospikePhp
