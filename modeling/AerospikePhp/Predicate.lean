import AerospikePhp.Method
import Mathlib.Tactic

/-!
# Query predicates

The functions that turn a predicate array into the where clause of a query.
Each returns a status, and some of them set the error object without returning
it.
-/

namespace AerospikePhp

/-- The status a function returned, and what it did to the query and the error
object. -/
structure Predicated where
  status : AsStatus
  query : AsQuery
  err : AsError

/-- `as_error_update(err, code, message); return err->code;` -/
def refusePredicate (code : AsStatus) (message : String) (query : AsQuery)
    (err : AsError) : Predicated :=
  ⟨code, query, err.update code message⟩

/-- `as_error_update(err, code, message);`, with `AEROSPIKE_OK` returned at the
end of the function. -/
def losePredicate (code : AsStatus) (message : String) (query : AsQuery)
    (err : AsError) : Predicated :=
  ⟨.ok, query, err.update code message⟩

def addWhere (query : AsQuery) (clause : WhereClause) : AsQuery :=
  { query with wheres := query.wheres ++ [clause] }

section

variable (indexTypes : IndexType → ℤ) (whereOk : Bool)
variable (query : AsQuery) (bin : String) (err : AsError)

/-- `as_query_where`, with what the caller does when it fails. -/
def asQueryWhere (clause : WhereClause) (failure : Predicated) : Predicated :=
  if whereOk then ⟨.ok, addWhere query clause, err⟩ else failure

def addEqualPredicateToQuery (val : Zval) : Predicated :=
  match val with
  | .long n =>
      asQueryWhere whereOk query err (.integerEquals bin n)
        (losePredicate .errClient "Unable to add predicate" query err)
  | .string s =>
      asQueryWhere whereOk query err (.stringEquals bin (cString s))
        (losePredicate .errClient "Unable to add predicate" query err)
  | _ =>
      losePredicate .errParam "Invalid value for equality predicate" query err

/-- `get_min_max_from_zval`: the two bounds, or the text of the error. -/
def getMinMaxFromZval (val : Zval) : Except String (Int64 × Int64) :=
  match val with
  | .array minMax =>
      if HashTable.numElements minMax ≠ 2 then
        .error "val entry for predicate must contain exactly 2 entries"
      else if HashTable.hashtableIsList minMax = false then
        .error "val entry for predicate must be a list"
      else
        match HashTable.indexFind minMax 0 with
        | none => .error "Failed to find min entry"
        | some (.long min) =>
            match HashTable.indexFind minMax 1 with
            | none => .error "Failed to find max entry"
            | some (.long max) => .ok (min, max)
            | some _ => .error "max entry must be an integer"
        | some _ => .error "min entry must be an integer"
  | _ => .error "val entry for predicate must be an array"

def addBetweenPredicateToQuery (val : Zval) : Predicated :=
  match getMinMaxFromZval val with
  | .error message => refusePredicate .errParam message query err
  | .ok (min, max) =>
      asQueryWhere whereOk query err (.integerRange bin min max)
        (refusePredicate .errParam "Unable to add predicate" query err)

/-- The three functions for the index types of a contains predicate. -/
def addTypedContainsPredicate (type : IndexType) (val : Zval) : Predicated :=
  match val with
  | .long n =>
      asQueryWhere whereOk query err (.containsInteger type bin n)
        (losePredicate .errClient "Unable to add predicate" query err)
  | .string s =>
      asQueryWhere whereOk query err (.containsString type bin (cString s))
        (losePredicate .errClient "Unable to add predicate" query err)
  | _ =>
      losePredicate .errParam "Invalid value for equality predicate" query err

def addListContainsPredicateToQuery (val : Zval) : Predicated :=
  addTypedContainsPredicate whereOk query bin err .list val

def addMapkeysContainsPredicateToQuery (val : Zval) : Predicated :=
  addTypedContainsPredicate whereOk query bin err .mapKeys val

def addMapvaluesContainsPredicateToQuery (val : Zval) : Predicated :=
  addTypedContainsPredicate whereOk query bin err .mapValues val

/-- The `switch` over the `AS_INDEX_TYPE_*` constants. -/
def indexTypeOf (code : ℤ) : Option IndexType :=
  if code = indexTypes .list then some .list
  else if code = indexTypes .mapKeys then some .mapKeys
  else if code = indexTypes .mapValues then some .mapValues
  else none

def addContainsPredicateToQuery (indexType : Int64) (val : Zval) : Predicated :=
  match indexTypeOf indexTypes indexType.toInt with
  | some .list => addListContainsPredicateToQuery whereOk query bin err val
  | some .mapKeys => addMapkeysContainsPredicateToQuery whereOk query bin err val
  | some .mapValues =>
      addMapvaluesContainsPredicateToQuery whereOk query bin err val
  | none => refusePredicate .errParam "Invalid Index type" query err

/-- The three functions for the index types of a range predicate. -/
def addTypedRangePredicate (type : IndexType) (min max : Int64) : Predicated :=
  asQueryWhere whereOk query err (.range type bin min max)
    (refusePredicate .errClient "Unable to add range predicate" query err)

def addListRangePredicateToQuery (min max : Int64) : Predicated :=
  addTypedRangePredicate whereOk query bin err .list min max

def addMapkeysRangePredicateToQuery (min max : Int64) : Predicated :=
  addTypedRangePredicate whereOk query bin err .mapKeys min max

def addMapvaluesRangePredicateToQuery (min max : Int64) : Predicated :=
  addTypedRangePredicate whereOk query bin err .mapValues min max

def addRangePredicateToQuery (indexType : Int64) (val : Zval) : Predicated :=
  match getMinMaxFromZval val with
  | .error message => refusePredicate .errParam message query err
  | .ok (min, max) =>
      match indexTypeOf indexTypes indexType.toInt with
      | some .list => addListRangePredicateToQuery whereOk query bin err min max
      | some .mapKeys =>
          addMapkeysRangePredicateToQuery whereOk query bin err min max
      | some .mapValues =>
          addMapvaluesRangePredicateToQuery whereOk query bin err min max
      | none => refusePredicate .errParam "Invalid Index type" query err

def addGeoWithinPredicateToQuery (val : Zval) : Predicated :=
  match val with
  | .string region =>
      asQueryWhere whereOk query err (.geoWithin bin (cString region))
        (refusePredicate .errClient "Unable to add predicate" query err)
  | _ =>
      refusePredicate .errClient "GeoJSON region must be a string" query err

def addGeoContainsPredicateToQuery (val : Zval) : Predicated :=
  match val with
  | .string point =>
      asQueryWhere whereOk query err (.geoContains bin (cString point))
        (refusePredicate .errClient "Unable to add predicate" query err)
  | _ =>
      refusePredicate .errClient "GeoJSON point must be a string" query err

/-- The index type entry of a contains or range predicate. -/
def predicateIndexType (predicate : HashTable) : Except String Int64 :=
  match predicate.strFind "index_type" with
  | none => .error "Contains predicate requires index_type"
  | some (.long indexType) => .ok indexType
  | some _ => .error "Invalid index_type"

/-- The delegation by operator, once the entries are there. -/
def addPredicateByOp (predicate : HashTable) (op : String) (val : Zval) :
    Predicated :=
  if op = "=" then addEqualPredicateToQuery whereOk query bin err val
  else if op = "BETWEEN" then
    addBetweenPredicateToQuery whereOk query bin err val
  else if op = "CONTAINS" then
    match predicateIndexType predicate with
    | .error message => refusePredicate .errParam message query err
    | .ok indexType =>
        addContainsPredicateToQuery indexTypes whereOk query bin err indexType val
  else if op = "RANGE" then
    match predicateIndexType predicate with
    | .error message => refusePredicate .errParam message query err
    | .ok indexType =>
        addRangePredicateToQuery indexTypes whereOk query bin err indexType val
  else if op = "GEOCONTAINS" then
    addGeoContainsPredicateToQuery whereOk query bin err val
  else if op = "GEOWITHIN" then
    addGeoWithinPredicateToQuery whereOk query bin err val
  else refusePredicate .errParam "Invalid predicate op" query err

end

def addPredicateToQuery (indexTypes : IndexType → ℤ) (whereOk : Bool)
    (query : AsQuery) (predicate : HashTable) (err : AsError) : Predicated :=
  if HashTable.numElements predicate < 3 then
    refusePredicate .errParam "Invalid predicate length" query err
  else
    match predicate.strFind "bin" with
    | none => refusePredicate .errParam "Predicate missing bin entry" query err
    | some (.string bin) =>
        match predicate.strFind "op" with
        | none => refusePredicate .errParam "Predicate missing op entry" query err
        | some (.string op) =>
            match predicate.strFind "val" with
            | none =>
                refusePredicate .errParam "Predicate missing val entry" query err
            | some val =>
                addPredicateByOp indexTypes whereOk query (cString bin) err
                  predicate (cString op) val
        | some _ => refusePredicate .errParam "Invalid op name" query err
    | some _ => refusePredicate .errParam "Bin name must be a string" query err

/-! ## What a predicate array asks for -/

inductive PredicateOp where
  | equal | between | geoContains | geoWithin
  | contains (type : IndexType)
  | range (type : IndexType)
  deriving DecidableEq, Repr

/-- The operators whose functions return OK with the error object set. -/
def PredicateOp.loses : PredicateOp → Bool
  | equal | contains _ => true
  | between | geoContains | geoWithin | range _ => false

/-- The two bounds, if the value has them. -/
def boundsOf (val : Zval) : Option (Int64 × Int64) :=
  (getMinMaxFromZval val).toOption

/-- The value is of the kind that the operator needs. -/
def PredicateOp.accepts (op : PredicateOp) (val : Zval) : Bool :=
  match op with
  | equal | contains _ =>
      match val with
      | .long _ | .string _ => true
      | _ => false
  | between | range _ => (boundsOf val).isSome
  | geoContains | geoWithin =>
      match val with
      | .string _ => true
      | _ => false

/-- The clause for a value, with texts read by `text`. -/
def clauseOf (text : String → String) (bin : String) (op : PredicateOp)
    (val : Zval) : Option WhereClause :=
  match op with
  | .equal =>
      match val with
      | .long n => some (.integerEquals (text bin) n)
      | .string s => some (.stringEquals (text bin) (text s))
      | _ => none
  | .contains type =>
      match val with
      | .long n => some (.containsInteger type (text bin) n)
      | .string s => some (.containsString type (text bin) (text s))
      | _ => none
  | .between =>
      (boundsOf val).map fun bounds =>
        .integerRange (text bin) bounds.1 bounds.2
  | .range type =>
      (boundsOf val).map fun bounds =>
        .range type (text bin) bounds.1 bounds.2
  | .geoContains =>
      match val with
      | .string s => some (.geoContains (text bin) (text s))
      | _ => none
  | .geoWithin =>
      match val with
      | .string s => some (.geoWithin (text bin) (text s))
      | _ => none

/-- The operator under a name, with the index type that it needs. -/
def predicateOp (indexTypes : IndexType → ℤ) (predicate : HashTable)
    (op : String) : Option PredicateOp :=
  if op = "=" then some .equal
  else if op = "BETWEEN" then some .between
  else if op = "CONTAINS" then
    match predicate.strFind "index_type" with
    | some (.long code) => (indexTypeOf indexTypes code.toInt).map .contains
    | _ => none
  else if op = "RANGE" then
    match predicate.strFind "index_type" with
    | some (.long code) => (indexTypeOf indexTypes code.toInt).map .range
    | _ => none
  else if op = "GEOCONTAINS" then some .geoContains
  else if op = "GEOWITHIN" then some .geoWithin
  else none

/-- The bin name, the operator name and the value. -/
def predicateParts (predicate : HashTable) : Option (String × String × Zval) :=
  match predicate.strFind "bin", predicate.strFind "op",
      predicate.strFind "val" with
  | some (.string bin), some (.string op), some val => some (bin, op, val)
  | _, _, _ => none

/-- The clause that a well-formed predicate array asks for. -/
def askedClause (indexTypes : IndexType → ℤ) (predicate : HashTable) :
    Option WhereClause :=
  match predicateParts predicate with
  | some (bin, opText, val) =>
      (predicateOp indexTypes predicate opText).bind fun op =>
        clauseOf id bin op val
  | none => none

theorem clauseOf_isSome (text : String → String) (bin : String)
    (op : PredicateOp) (val : Zval) :
    (clauseOf text bin op val).isSome = op.accepts val := by
  cases op with
  | between | range _ => exact Option.isSome_map
  | equal | contains _ | geoContains | geoWithin => cases val <;> rfl

theorem boundsOf_string (s : String) : boundsOf (.string s) = none := rfl

/-- The same clause for PHP and for C: no text in it holds a NUL. -/
theorem clauseOf_cString_iff {bin : String} {op : PredicateOp} {val : Zval}
    (haccepts : op.accepts val = true) :
    clauseOf cString bin op val = clauseOf id bin op val ↔
      NulFree bin ∧ ∀ s, val = .string s → NulFree s := by
  have hbin := cString_eq_self_iff bin
  cases op with
  | between | range _ =>
      obtain ⟨bounds, hbounds⟩ := Option.isSome_iff_exists.mp haccepts
      have hstring : ∀ s, val ≠ .string s := by
        rintro s rfl
        simp [boundsOf_string] at hbounds
      simp [clauseOf, hbounds, hbin, hstring]
  | equal | contains _ =>
      cases val with
      | long n => simp [clauseOf, hbin]
      | string s => simp [clauseOf, hbin, cString_eq_self_iff]
      | undef | null | bool _ | double _ | array _ | object _ _ | resource
      | reference _ => cases haccepts
  | geoContains | geoWithin =>
      cases val with
      | string s => simp [clauseOf, hbin, cString_eq_self_iff]
      | undef | null | bool _ | long _ | double _ | array _ | object _ _
      | resource | reference _ => cases haccepts

/-! ## What the functions do -/

/-- How `add_predicate_to_query` ends: with the clause added, with an error
that it returns, or with one that it does not return. -/
inductive PredicateEnd where
  | added (clause : WhereClause)
  | refused
  | lost

def Predicated.EndsAs (result : Predicated) (query : AsQuery) (err : AsError) :
    PredicateEnd → Prop
  | .added clause => result = ⟨.ok, addWhere query clause, err⟩
  | .refused => result.status ≠ .ok ∧ result.err.code ≠ .ok ∧
      result.query = query
  | .lost => result.status = .ok ∧ result.err.code ≠ .ok ∧
      result.query = query

/-- The end for an operator and its value. -/
def opEnd (whereOk : Bool) (bin : String) (op : PredicateOp) (val : Zval) :
    PredicateEnd :=
  match clauseOf cString bin op val, whereOk with
  | some clause, true => .added clause
  | _, _ => if op.loses then .lost else .refused

def predicateEnd (indexTypes : IndexType → ℤ) (whereOk : Bool)
    (predicate : HashTable) : PredicateEnd :=
  match predicateParts predicate with
  | some (bin, opText, val) =>
      match predicateOp indexTypes predicate (cString opText) with
      | some op => opEnd whereOk bin op val
      | none => .refused
  | none => .refused

section

variable {indexTypes : IndexType → ℤ} {whereOk : Bool} {query : AsQuery}
variable {err : AsError}

theorem refusePredicate_ends {code : AsStatus} (hcode : code ≠ .ok)
    (message : String) :
    (refusePredicate code message query err).EndsAs query err .refused :=
  ⟨hcode, hcode, rfl⟩

theorem losePredicate_ends {code : AsStatus} (hcode : code ≠ .ok)
    (message : String) :
    (losePredicate code message query err).EndsAs query err .lost :=
  ⟨rfl, hcode, rfl⟩

theorem opEnd_of_some {bin : String} {op : PredicateOp} {val : Zval}
    {clause : WhereClause} {failure : Predicated}
    (hclause : clauseOf cString bin op val = some clause)
    (hfailure : failure.EndsAs query err
      (if op.loses then .lost else .refused)) :
    (asQueryWhere whereOk query err clause failure).EndsAs query err
      (opEnd whereOk bin op val) := by
  unfold opEnd
  rw [hclause]
  cases whereOk with
  | true => rfl
  | false => exact hfailure

theorem opEnd_of_none {bin : String} {op : PredicateOp} {val : Zval}
    {failure : Predicated} (hclause : clauseOf cString bin op val = none)
    (hfailure : failure.EndsAs query err
      (if op.loses then .lost else .refused)) :
    failure.EndsAs query err (opEnd whereOk bin op val) := by
  unfold opEnd
  rw [hclause]
  exact hfailure

theorem addEqualPredicate_ends (bin : String) (val : Zval) :
    (addEqualPredicateToQuery whereOk query (cString bin) err val).EndsAs query
      err (opEnd whereOk bin .equal val) := by
  cases val with
  | long _ | string _ =>
      exact opEnd_of_some rfl (losePredicate_ends (by decide) _)
  | undef | null | bool _ | double _ | array _ | object _ _ | resource
  | reference _ => exact losePredicate_ends (by decide) _

theorem addTypedContains_ends (bin : String) (type : IndexType) (val : Zval) :
    (addTypedContainsPredicate whereOk query (cString bin) err type val).EndsAs
      query err (opEnd whereOk bin (.contains type) val) := by
  cases val with
  | long _ | string _ =>
      exact opEnd_of_some rfl (losePredicate_ends (by decide) _)
  | undef | null | bool _ | double _ | array _ | object _ _ | resource
  | reference _ => exact losePredicate_ends (by decide) _

theorem addBetweenPredicate_ends (bin : String) (val : Zval) :
    (addBetweenPredicateToQuery whereOk query (cString bin) err val).EndsAs
      query err (opEnd whereOk bin .between val) := by
  unfold addBetweenPredicateToQuery
  cases hbounds : getMinMaxFromZval val with
  | error message =>
      exact opEnd_of_none (by simp [clauseOf, boundsOf, hbounds, Except.toOption])
        (refusePredicate_ends (by decide) message)
  | ok bounds =>
      exact opEnd_of_some (by simp [clauseOf, boundsOf, hbounds, Except.toOption])
        (refusePredicate_ends (by decide) _)

theorem addTypedRange_ends {bin : String} {type : IndexType} {val : Zval}
    {bounds : Int64 × Int64} (hbounds : getMinMaxFromZval val = .ok bounds) :
    (addTypedRangePredicate whereOk query (cString bin) err type bounds.1
      bounds.2).EndsAs query err (opEnd whereOk bin (.range type) val) :=
  opEnd_of_some (by simp [clauseOf, boundsOf, hbounds, Except.toOption])
    (refusePredicate_ends (by decide) _)

theorem addGeoContains_ends (bin : String) (val : Zval) :
    (addGeoContainsPredicateToQuery whereOk query (cString bin) err val).EndsAs
      query err (opEnd whereOk bin .geoContains val) := by
  cases val with
  | string _ => exact opEnd_of_some rfl (refusePredicate_ends (by decide) _)
  | undef | null | bool _ | long _ | double _ | array _ | object _ _
  | resource | reference _ => exact refusePredicate_ends (by decide) _

theorem addGeoWithin_ends (bin : String) (val : Zval) :
    (addGeoWithinPredicateToQuery whereOk query (cString bin) err val).EndsAs
      query err (opEnd whereOk bin .geoWithin val) := by
  cases val with
  | string _ => exact opEnd_of_some rfl (refusePredicate_ends (by decide) _)
  | undef | null | bool _ | long _ | double _ | array _ | object _ _
  | resource | reference _ => exact refusePredicate_ends (by decide) _

theorem addContainsPredicate_ends (bin : String) (code : Int64) (val : Zval) :
    (addContainsPredicateToQuery indexTypes whereOk query (cString bin) err code
      val).EndsAs query err
      (match indexTypeOf indexTypes code.toInt with
        | some type => opEnd whereOk bin (.contains type) val
        | none => .refused) := by
  unfold addContainsPredicateToQuery
  cases indexTypeOf indexTypes code.toInt with
  | none => exact refusePredicate_ends (by decide) _
  | some type => cases type <;> exact addTypedContains_ends bin _ val

theorem addRangePredicate_ends (bin : String) (code : Int64) (val : Zval) :
    (addRangePredicateToQuery indexTypes whereOk query (cString bin) err code
      val).EndsAs query err
      (match indexTypeOf indexTypes code.toInt with
        | some type => opEnd whereOk bin (.range type) val
        | none => .refused) := by
  unfold addRangePredicateToQuery
  cases hbounds : getMinMaxFromZval val with
  | error message =>
      have hrefused := @refusePredicate_ends query err .errParam (by decide)
        message
      cases indexTypeOf indexTypes code.toInt with
      | none => exact hrefused
      | some type =>
          exact opEnd_of_none
            (by simp [clauseOf, boundsOf, hbounds, Except.toOption]) hrefused
  | ok bounds =>
      cases indexTypeOf indexTypes code.toInt with
      | none => exact refusePredicate_ends (by decide) _
      | some type => cases type <;> exact addTypedRange_ends hbounds

theorem indexedPredicate_ends {predicate : HashTable} {bin : String}
    {val : Zval} {add : Int64 → Predicated} {makeOp : IndexType → PredicateOp}
    (hadd : ∀ code, (add code).EndsAs query err
      (match indexTypeOf indexTypes code.toInt with
        | some type => opEnd whereOk bin (makeOp type) val
        | none => .refused)) :
    (match predicateIndexType predicate with
      | .error message => refusePredicate .errParam message query err
      | .ok code => add code).EndsAs query err
      (match (match predicate.strFind "index_type" with
          | some (.long code) => (indexTypeOf indexTypes code.toInt).map makeOp
          | _ => none) with
        | some found => opEnd whereOk bin found val
        | none => .refused) := by
  unfold predicateIndexType
  cases predicate.strFind "index_type" with
  | none => exact refusePredicate_ends (by decide) _
  | some z =>
      cases z with
      | long code =>
          have hend := hadd code
          show (add code).EndsAs query err (match
            (indexTypeOf indexTypes code.toInt).map makeOp with
              | some found => opEnd whereOk bin found val
              | none => .refused)
          cases htype : indexTypeOf indexTypes code.toInt with
          | none =>
              rw [htype] at hend
              exact hend
          | some type =>
              rw [htype] at hend
              exact hend
      | undef | null | bool _ | double _ | string _ | array _ | object _ _
      | resource | reference _ => exact refusePredicate_ends (by decide) _

/-- The delegation by operator name, with one case for each operator. -/
theorem addPredicateByOp_ends (predicate : HashTable) (bin op : String)
    (val : Zval) :
    (addPredicateByOp indexTypes whereOk query (cString bin) err predicate op
      val).EndsAs query err
      (match predicateOp indexTypes predicate op with
        | some found => opEnd whereOk bin found val
        | none => .refused) := by
  unfold addPredicateByOp predicateOp
  by_cases hequal : op = "="
  · rw [if_pos hequal, if_pos hequal]
    exact addEqualPredicate_ends bin val
  rw [if_neg hequal, if_neg hequal]
  by_cases hbetween : op = "BETWEEN"
  · rw [if_pos hbetween, if_pos hbetween]
    exact addBetweenPredicate_ends bin val
  rw [if_neg hbetween, if_neg hbetween]
  by_cases hcontains : op = "CONTAINS"
  · rw [if_pos hcontains, if_pos hcontains]
    exact indexedPredicate_ends fun code => addContainsPredicate_ends bin code val
  rw [if_neg hcontains, if_neg hcontains]
  by_cases hrange : op = "RANGE"
  · rw [if_pos hrange, if_pos hrange]
    exact indexedPredicate_ends fun code => addRangePredicate_ends bin code val
  rw [if_neg hrange, if_neg hrange]
  by_cases hcontains : op = "GEOCONTAINS"
  · rw [if_pos hcontains, if_pos hcontains]
    exact addGeoContains_ends bin val
  rw [if_neg hcontains, if_neg hcontains]
  by_cases hwithin : op = "GEOWITHIN"
  · rw [if_pos hwithin, if_pos hwithin]
    exact addGeoWithin_ends bin val
  rw [if_neg hwithin, if_neg hwithin]
  exact refusePredicate_ends (by decide) _

/-- A predicate whose three entries are there has the length that is asked
for. -/
theorem predicateParts_length {predicate : HashTable}
    {parts : String × String × Zval}
    (hparts : predicateParts predicate = some parts) :
    ¬ HashTable.numElements predicate < 3 := by
  have hmem : ∀ {name : String} {z : Zval}, predicate.strFind name = some z →
      ZKey.str name ∈ predicate.map Prod.fst := by
    intro name z hfind
    obtain ⟨entry, hentry, -⟩ := Option.map_eq_some_iff.mp hfind
    have hkey : entry.1 = .str name := by simpa using List.find?_some hentry
    exact hkey ▸ List.mem_map_of_mem (List.mem_of_find?_eq_some hentry)
  unfold predicateParts at hparts
  split at hparts
  · next bin op val hbin hop hval =>
      have hsubset : [ZKey.str "bin", .str "op", .str "val"] ⊆
          predicate.map Prod.fst := by
        simp [hmem hbin, hmem hop, hmem hval]
      have hlength := (List.subperm_of_subset (by decide) hsubset).length_le
      simpa [HashTable.numElements] using hlength
  · cases hparts

theorem addPredicateToQuery_ends (predicate : HashTable) :
    (addPredicateToQuery indexTypes whereOk query predicate err).EndsAs query
      err (predicateEnd indexTypes whereOk predicate) := by
  unfold addPredicateToQuery predicateEnd
  cases hparts : predicateParts predicate with
  | some parts =>
      rw [if_neg (predicateParts_length hparts)]
      unfold predicateParts at hparts
      split at hparts
      · next bin op val hbin hop hval =>
          obtain rfl := Option.some.inj hparts
          rw [hbin, hop, hval]
          exact addPredicateByOp_ends predicate bin (cString op) val
      · cases hparts
  | none =>
      split
      · exact refusePredicate_ends (by decide) _
      split
      · exact refusePredicate_ends (by decide) _
      · next bin hbin =>
          split
          · exact refusePredicate_ends (by decide) _
          · next op hop =>
              split
              · exact refusePredicate_ends (by decide) _
              · next val hval => simp [predicateParts, hbin, hop, hval] at hparts
          · exact refusePredicate_ends (by decide) _
      · exact refusePredicate_ends (by decide) _

/-! ## Predicates that are not lost -/

/-- The function returns OK exactly for a well-formed predicate, whose clause
it has added without an error; `whereOk` says whether the client takes a clause
at all. -/
def PredicateKept (indexTypes : IndexType → ℤ) (whereOk : Bool)
    (query : AsQuery) (err : AsError) (predicate : HashTable)
    (result : Predicated) : Prop :=
  match (if whereOk then askedClause indexTypes predicate else none) with
  | some clause => result = ⟨.ok, addWhere query clause, err⟩
  | none => result.status ≠ .ok

/-- The operator does not return its errors, and there is one: the value is of
another kind, or the client does not take the clause. -/
def PredicateLost (indexTypes : IndexType → ℤ) (whereOk : Bool)
    (predicate : HashTable) : Prop :=
  ∃ bin opText val op, predicateParts predicate = some (bin, opText, val) ∧
    predicateOp indexTypes predicate (cString opText) = some op ∧
    op.loses = true ∧ ¬ (op.accepts val = true ∧ whereOk = true)

/-- No text of a clause that is added holds a NUL. -/
def PredicateTexts (indexTypes : IndexType → ℤ) (whereOk : Bool)
    (predicate : HashTable) : Prop :=
  ∀ bin opText val op, predicateParts predicate = some (bin, opText, val) →
    predicateOp indexTypes predicate (cString opText) = some op →
    op.accepts val = true ∧ whereOk = true →
    NulFree bin ∧ NulFree opText ∧ ∀ s, val = .string s → NulFree s

def PredicateExact (indexTypes : IndexType → ℤ) (whereOk : Bool)
    (predicate : HashTable) : Prop :=
  ¬ PredicateLost indexTypes whereOk predicate ∧
    PredicateTexts indexTypes whereOk predicate

/-- Every operator name is free of NULs. -/
theorem predicateOp_nulFree {predicate : HashTable} {name : String}
    {op : PredicateOp} (hop : predicateOp indexTypes predicate name = some op) :
    NulFree name := by
  unfold predicateOp at hop
  by_cases hname : name = "=" ∨ name = "BETWEEN" ∨ name = "CONTAINS" ∨
      name = "RANGE" ∨ name = "GEOCONTAINS" ∨ name = "GEOWITHIN"
  · rcases hname with rfl | rfl | rfl | rfl | rfl | rfl <;> decide
  · simp only [not_or] at hname
    obtain ⟨h1, h2, h3, h4, h5, h6⟩ := hname
    simp [h1, h2, h3, h4, h5, h6] at hop

theorem askedClause_of_parts {predicate : HashTable} {bin opText : String}
    {val : Zval} {op : PredicateOp}
    (hparts : predicateParts predicate = some (bin, opText, val))
    (hop : predicateOp indexTypes predicate (cString opText) = some op) :
    askedClause indexTypes predicate =
      if NulFree opText then clauseOf id bin op val else none := by
  unfold askedClause
  rw [hparts]
  by_cases hnul : NulFree opText
  · rw [(cString_eq_self_iff opText).mpr hnul] at hop
    simp [hop, hnul]
  · have hnone : predicateOp indexTypes predicate opText = none := by
      rw [← Option.not_isSome_iff_eq_none]
      intro hsome
      obtain ⟨found, hfound⟩ := Option.isSome_iff_exists.mp hsome
      exact hnul (predicateOp_nulFree hfound)
    simp [hnone, hnul]

theorem askedClause_of_no_op {predicate : HashTable} {bin opText : String}
    {val : Zval} (hparts : predicateParts predicate = some (bin, opText, val))
    (hop : predicateOp indexTypes predicate (cString opText) = none) :
    askedClause indexTypes predicate = none := by
  unfold askedClause
  rw [hparts]
  cases hfound : predicateOp indexTypes predicate opText with
  | none => simp [hfound]
  | some found =>
      have hnul := predicateOp_nulFree hfound
      rw [(cString_eq_self_iff opText).mpr hnul, hfound] at hop
      cases hop

theorem addWhere_inj {clause clause' : WhereClause} :
    addWhere query clause = addWhere query clause' ↔ clause = clause' := by
  simp [addWhere]

theorem predicateLost_of_op {predicate : HashTable} {bin opText : String}
    {val : Zval} {op : PredicateOp}
    (hparts : predicateParts predicate = some (bin, opText, val))
    (hop : predicateOp indexTypes predicate (cString opText) = some op) :
    PredicateLost indexTypes whereOk predicate ↔
      op.loses = true ∧ ¬ (op.accepts val = true ∧ whereOk = true) := by
  constructor
  · rintro ⟨bin', opText', val', op', hparts', hop', hlost⟩
    obtain ⟨rfl, rfl, rfl⟩ : bin = bin' ∧ opText = opText' ∧ val = val' := by
      simpa using hparts.symm.trans hparts'
    obtain rfl := Option.some.inj (hop.symm.trans hop')
    exact hlost
  · exact fun hlost => ⟨bin, opText, val, op, hparts, hop, hlost⟩

theorem predicateTexts_of_op {predicate : HashTable} {bin opText : String}
    {val : Zval} {op : PredicateOp}
    (hparts : predicateParts predicate = some (bin, opText, val))
    (hop : predicateOp indexTypes predicate (cString opText) = some op) :
    PredicateTexts indexTypes whereOk predicate ↔
      (op.accepts val = true ∧ whereOk = true →
        NulFree bin ∧ NulFree opText ∧ ∀ s, val = .string s → NulFree s) := by
  constructor
  · exact fun h => h bin opText val op hparts hop
  · intro h bin' opText' val' op' hparts' hop'
    obtain ⟨rfl, rfl, rfl⟩ : bin = bin' ∧ opText = opText' ∧ val = val' := by
      simpa using hparts.symm.trans hparts'
    obtain rfl := Option.some.inj (hop.symm.trans hop')
    exact h

/-- Without a known operator nothing is lost. -/
theorem predicateExact_of_no_op {predicate : HashTable}
    (hnone : ∀ bin opText val,
      predicateParts predicate = some (bin, opText, val) →
      predicateOp indexTypes predicate (cString opText) = none) :
    PredicateExact indexTypes whereOk predicate := by
  constructor
  · rintro ⟨bin, opText, val, op, hparts, hop, -⟩
    rw [hnone bin opText val hparts] at hop
    cases hop
  · intro bin opText val op hparts hop
    rw [hnone bin opText val hparts] at hop
    cases hop

/-- The value is not of the right kind, or the client does not take the
clause. -/
theorem opEnd_of_not_accepts {bin : String} {op : PredicateOp} {val : Zval}
    (hnot : ¬ (op.accepts val = true ∧ whereOk = true)) :
    opEnd whereOk bin op val = if op.loses then .lost else .refused := by
  unfold opEnd
  cases hclause : clauseOf cString bin op val with
  | none => rfl
  | some clause =>
      have haccepts := clauseOf_isSome cString bin op val
      rw [hclause] at haccepts
      cases whereOk with
      | true => exact absurd ⟨haccepts.symm, rfl⟩ hnot
      | false => rfl

/-- One operator: the predicate is kept when its clause is added with the texts
as they are, or when the error is returned. -/
theorem predicateKept_of_op {predicate : HashTable} {bin opText : String}
    {val : Zval} {op : PredicateOp} {result : Predicated}
    (hparts : predicateParts predicate = some (bin, opText, val))
    (hop : predicateOp indexTypes predicate (cString opText) = some op)
    (hend : result.EndsAs query err (opEnd whereOk bin op val)) :
    PredicateKept indexTypes whereOk query err predicate result ↔
      PredicateExact indexTypes whereOk predicate := by
  unfold PredicateKept PredicateExact
  rw [askedClause_of_parts hparts hop, predicateLost_of_op hparts hop,
    predicateTexts_of_op hparts hop]
  have haccepts := clauseOf_isSome cString bin op val
  have haccepts' := clauseOf_isSome id bin op val
  by_cases hgood : op.accepts val = true ∧ whereOk = true
  · simp only [hgood, true_and, not_true, and_false, not_false_eq_true,
      forall_const]
    obtain ⟨hval, rfl⟩ := hgood
    rw [hval] at haccepts haccepts'
    obtain ⟨clause, hclause⟩ := Option.isSome_iff_exists.mp haccepts
    obtain ⟨clause', hclause'⟩ := Option.isSome_iff_exists.mp haccepts'
    have hsame := @clauseOf_cString_iff bin _ _ hval
    rw [hclause, hclause', Option.some.injEq] at hsame
    unfold opEnd at hend
    rw [hclause] at hend
    obtain rfl : result = ⟨.ok, addWhere query clause, err⟩ := hend
    by_cases hnul : NulFree opText
    · simp only [hnul, if_true, hclause', true_and, Predicated.mk.injEq,
        addWhere_inj, and_true]
      exact hsame
    · simp [hnul]
  · simp only [hgood, not_false_eq_true, and_true, false_implies]
    rw [opEnd_of_not_accepts hgood] at hend
    have hnone : (if whereOk = true then
        if NulFree opText then clauseOf id bin op val else none else none) =
        none := by
      cases whereOk with
      | false => rfl
      | true =>
          have hval : op.accepts val = false := by simpa using hgood
          rw [hval, Option.isSome_eq_false_iff, Option.isNone_iff_eq_none]
            at haccepts'
          simp [haccepts']
    rw [hnone]
    cases hloses : op.loses with
    | true =>
        rw [hloses] at hend
        simp [hend.1]
    | false =>
        rw [hloses] at hend
        simpa using hend.1

theorem predicateKept_iff (predicate : HashTable) :
    PredicateKept indexTypes whereOk query err predicate
        (addPredicateToQuery indexTypes whereOk query predicate err) ↔
      PredicateExact indexTypes whereOk predicate := by
  have hend := @addPredicateToQuery_ends indexTypes whereOk query err predicate
  generalize addPredicateToQuery indexTypes whereOk query predicate err =
    result at hend ⊢
  unfold predicateEnd at hend
  cases hparts : predicateParts predicate with
  | none =>
      rw [hparts] at hend
      have hasked : askedClause indexTypes predicate = none := by
        simp [askedClause, hparts]
      have hexact : PredicateExact indexTypes whereOk predicate :=
        predicateExact_of_no_op (by simp [hparts])
      simp [PredicateKept, hexact, hasked, hend.1]
  | some parts =>
      obtain ⟨bin, opText, val⟩ := parts
      rw [hparts] at hend
      cases hop : predicateOp indexTypes predicate (cString opText) with
      | none =>
          simp only [hop] at hend
          have hexact : PredicateExact indexTypes whereOk predicate :=
            predicateExact_of_no_op (by simp [hparts, hop])
          simp [PredicateKept, askedClause_of_no_op hparts hop, hexact, hend.1]
      | some op =>
          simp only [hop] at hend
          exact predicateKept_of_op hparts hop hend

/-- The function returns OK with the error object set exactly when the
predicate is lost. -/
theorem predicateEnd_lost_iff (predicate : HashTable) :
    predicateEnd indexTypes whereOk predicate = .lost ↔
      PredicateLost indexTypes whereOk predicate := by
  unfold predicateEnd
  cases hparts : predicateParts predicate with
  | none => simp [PredicateLost, hparts]
  | some parts =>
      obtain ⟨bin, opText, val⟩ := parts
      cases hop : predicateOp indexTypes predicate (cString opText) with
      | none => simp [PredicateLost, hparts, hop]
      | some op =>
          rw [predicateLost_of_op hparts hop]
          simp only [hop]
          by_cases hgood : op.accepts val = true ∧ whereOk = true
          · have haccepts := clauseOf_isSome cString bin op val
            rw [hgood.1] at haccepts
            obtain ⟨clause, hclause⟩ := Option.isSome_iff_exists.mp haccepts
            simp [opEnd, hclause, hgood]
          · rw [opEnd_of_not_accepts hgood]
            cases hloses : op.loses <;> simp_all

/-- A clause that is added is one for an accepted value. -/
theorem predicateTexts_of_not_added {predicate : HashTable}
    (hnot : ∀ clause, predicateEnd indexTypes whereOk predicate ≠ .added clause) :
    PredicateTexts indexTypes whereOk predicate := by
  intro bin opText val op hparts hop hgood
  have haccepts := clauseOf_isSome cString bin op val
  rw [hgood.1] at haccepts
  obtain ⟨clause, hclause⟩ := Option.isSome_iff_exists.mp haccepts
  refine absurd ?_ (hnot clause)
  unfold predicateEnd
  rw [hparts]
  simp [hop, opEnd, hclause, hgood.2]

theorem predicateExact_of_refused {predicate : HashTable}
    (hend : predicateEnd indexTypes whereOk predicate = .refused) :
    PredicateExact indexTypes whereOk predicate := by
  constructor
  · rw [← predicateEnd_lost_iff, hend]
    simp
  · exact predicateTexts_of_not_added (by simp [hend])

theorem whereOk_of_added {predicate : HashTable} {clause : WhereClause}
    (hend : predicateEnd indexTypes whereOk predicate = .added clause) :
    whereOk = true := by
  cases whereOk with
  | true => rfl
  | false =>
      unfold predicateEnd opEnd at hend
      split at hend
      · split at hend
        · split at hend
          · next hfalse => cases hfalse
          · split at hend <;> cases hend
        · cases hend
      · cases hend

/-- The clause that is added is the one asked for when no text is cut. -/
theorem predicateTexts_iff_of_added {predicate : HashTable}
    {clause : WhereClause}
    (hend : predicateEnd indexTypes whereOk predicate = .added clause) :
    PredicateTexts indexTypes whereOk predicate ↔
      askedClause indexTypes predicate = some clause := by
  have hlost : ¬ PredicateLost indexTypes whereOk predicate := by
    rw [← predicateEnd_lost_iff, hend]
    simp
  have hrun := @addPredicateToQuery_ends indexTypes whereOk
    { ns := "", set := "" } .init predicate
  have hkept := @predicateKept_iff indexTypes whereOk { ns := "", set := "" }
    .init predicate
  rw [hend] at hrun
  rw [PredicateExact, and_iff_right hlost] at hkept
  rw [← hkept, hrun, PredicateKept, whereOk_of_added hend, if_pos rfl]
  cases askedClause indexTypes predicate with
  | none => simp
  | some asked => simp [addWhere_inj, eq_comm]

end

end AerospikePhp
