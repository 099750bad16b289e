import AerospikePhp.Predicate
import Mathlib.Tactic

/-!
# The predicate builders

Eight static methods return the array that `add_predicate_to_query` reads.
The two sides share nothing but the names of the entries and of the operators.
Here is which of the arrays become the clause that their builder is named for.
-/

namespace AerospikePhp

/-! ## The arrays -/

/-- The check that the builders begin with, and the array they fill after it:
null when the bin name is too long. -/
def buildPredicate (bin : String) (entries : HashTable) : Zval :=
  if bin.length > asBinNameMaxLen then .null
  else .array ((.str "bin", .string (cString bin)) :: entries)

/-- The same for a builder that looks at its value, too. -/
def buildValuePredicate (bin : String) (value : Zval) (entries : HashTable) :
    Zval :=
  if bin.length > asBinNameMaxLen then .null
  else
    match value with
    | .string _ | .long _ => buildPredicate bin entries
    | _ => .null

def predicateEquals (args : Option (String × Zval)) : Zval :=
  match args with
  | none => .null
  | some (bin, value) =>
      buildValuePredicate bin value
        [(.str "op", .string "="), (.str "val", value)]

def predicateBetween (args : Option (String × Int64 × Int64)) : Zval :=
  match args with
  | none => .null
  | some (bin, min, max) =>
      buildPredicate bin [(.str "op", .string "BETWEEN"),
        (.str "val", .array (HashTable.ofValues [.long min, .long max]))]

def predicateRange (args : Option (String × Int64 × Int64 × Int64)) : Zval :=
  match args with
  | none => .null
  | some (bin, indexType, min, max) =>
      buildPredicate bin [(.str "index_type", .long indexType),
        (.str "op", .string "RANGE"),
        (.str "val", .array (HashTable.ofValues [.long min, .long max]))]

def predicateContains (args : Option (String × Int64 × Zval)) : Zval :=
  match args with
  | none => .null
  | some (bin, indexType, value) =>
      buildValuePredicate bin value [(.str "op", .string "CONTAINS"),
        (.str "index_type", .long indexType), (.str "val", value)]

def predicateGeoContainsGeoJSONPoint (args : Option (String × String)) : Zval :=
  match args with
  | none => .null
  | some (bin, point) =>
      buildPredicate bin [(.str "op", .string "GEOCONTAINS"),
        (.str "val", .string point)]

def predicateGeoWithinGeoJSONRegion (args : Option (String × String)) : Zval :=
  match args with
  | none => .null
  | some (bin, region) =>
      buildPredicate bin [(.str "op", .string "GEOWITHIN"),
        (.str "val", .string region)]

/-! ### With a text made by `json_encode` -/

/-- PHP's `json_encode`, `none` when the call itself fails. -/
abbrev JsonEncode : Type := Zval → Option Zval

section

variable (jsonEncode : JsonEncode)

/-- `geo_val_to_json` and what the builders do with its result: null when the
call fails, and no defined value (`none`) when it returns something that is no
string, which `Z_STRVAL` reads as one. -/
def buildGeoPredicate (bin : String) (op : String) (geoArray : Zval) :
    Option Zval :=
  if bin.length > asBinNameMaxLen then some .null
  else
    match jsonEncode geoArray with
    | none => some .null
    | some (.string json) =>
        some (buildPredicate bin [(.str "op", .string op),
          (.str "val", .string json)])
    | some _ => none

/-- The array that stands for a point. -/
def pointArray (long lat : Double) : Zval :=
  .array [(.str "type", .string "Point"),
    (.str "coordinates",
      .array (HashTable.ofValues [.double long, .double lat]))]

/-- The array that stands for a circle. -/
def circleArray (long lat radius : Double) : Zval :=
  .array [(.str "type", .string "AeroCircle"),
    (.str "coordinates", .array (HashTable.ofValues
      [.array (HashTable.ofValues [.double long, .double lat]),
        .double radius]))]

def predicateGeoContainsPoint (args : Option (String × Double × Double)) :
    Option Zval :=
  match args with
  | none => some .null
  | some (bin, long, lat) =>
      buildGeoPredicate jsonEncode bin "GEOCONTAINS" (pointArray long lat)

/-- The operator is the one of the other helper. -/
def predicateGeoWithinRadius
    (args : Option (String × Double × Double × Double)) : Option Zval :=
  match args with
  | none => some .null
  | some (bin, long, lat, radius) =>
      buildGeoPredicate jsonEncode bin "GEOCONTAINS"
        (circleArray long lat radius)

end

/-! ## What the arrays become -/

/-- A builder with its arguments after the bin name. -/
inductive Builder where
  | equals (value : Zval)
  | between (min max : Int64)
  | range (indexType min max : Int64)
  | contains (indexType : Int64) (value : Zval)
  | geoContainsGeoJSONPoint (point : String)
  | geoWithinGeoJSONRegion (region : String)
  | geoContainsPoint (long lat : Double)
  | geoWithinRadius (long lat radius : Double)

/-- The text that `json_encode` makes, if it makes one. -/
def JsonEncode.text (jsonEncode : JsonEncode) (z : Zval) : Option String :=
  match jsonEncode z with
  | some (.string json) => some json
  | _ => none

namespace Builder

section

variable (indexTypes : IndexType → ℤ) (jsonEncode : JsonEncode) (bin : String)

/-- What the method returns; `none` stands for no defined value. -/
def returned : Builder → Option Zval
  | equals value => some (predicateEquals (some (bin, value)))
  | between min max => some (predicateBetween (some (bin, min, max)))
  | range indexType min max =>
      some (predicateRange (some (bin, indexType, min, max)))
  | contains indexType value =>
      some (predicateContains (some (bin, indexType, value)))
  | geoContainsGeoJSONPoint point =>
      some (predicateGeoContainsGeoJSONPoint (some (bin, point)))
  | geoWithinGeoJSONRegion region =>
      some (predicateGeoWithinGeoJSONRegion (some (bin, region)))
  | geoContainsPoint long lat =>
      predicateGeoContainsPoint jsonEncode (some (bin, long, lat))
  | geoWithinRadius long lat radius =>
      predicateGeoWithinRadius jsonEncode (some (bin, long, lat, radius))

/-- The clause that the builder is named for. -/
def namedClause : Builder → Option WhereClause
  | equals (.long n) => some (.integerEquals bin n)
  | equals (.string s) => some (.stringEquals bin s)
  | equals _ => none
  | between min max => some (.integerRange bin min max)
  | range indexType min max =>
      (indexTypeOf indexTypes indexType.toInt).map fun type =>
        .range type bin min max
  | contains indexType (.long n) =>
      (indexTypeOf indexTypes indexType.toInt).map fun type =>
        .containsInteger type bin n
  | contains indexType (.string s) =>
      (indexTypeOf indexTypes indexType.toInt).map fun type =>
        .containsString type bin s
  | contains _ _ => none
  | geoContainsGeoJSONPoint point => some (.geoContains bin point)
  | geoWithinGeoJSONRegion region => some (.geoWithin bin region)
  | geoContainsPoint long lat =>
      (jsonEncode.text (pointArray long lat)).map (.geoContains bin)
  | geoWithinRadius long lat radius =>
      (jsonEncode.text (circleArray long lat radius)).map (.geoWithin bin)

/-- An array that the builder returns adds the clause it is named for, and that
clause alone. -/
def Agrees (builder : Builder) : Prop :=
  ∀ predicate, builder.returned jsonEncode bin = some (.array predicate) →
    ∃ clause, builder.namedClause indexTypes jsonEncode bin = some clause ∧
      ∀ query, addPredicateToQuery indexTypes true query predicate .init =
        ⟨.ok, addWhere query clause, .init⟩

/-- `json_encode` makes a text of the array that the builder gives it, and a
JSON text holds no NUL. -/
def JsonSucceeds : Builder → Prop
  | geoContainsPoint long lat =>
      ∃ json, jsonEncode (pointArray long lat) = some (.string json) ∧
        NulFree json
  | geoWithinRadius long lat radius =>
      ∃ json, jsonEncode (circleArray long lat radius) = some (.string json) ∧
        NulFree json
  | _ => True

/-- When the builder and the parser agree: not the helper with the operator of
the other one, one of the three index types, and no text that is cut. -/
def Sound : Builder → Prop
  | equals (.string s) => NulFree s
  | equals _ => True
  | between _ _ => True
  | range indexType _ _ => (indexTypeOf indexTypes indexType.toInt).isSome
  | contains indexType (.long _) =>
      (indexTypeOf indexTypes indexType.toInt).isSome
  | contains indexType (.string s) =>
      (indexTypeOf indexTypes indexType.toInt).isSome ∧ NulFree s
  | contains _ _ => True
  | geoContainsGeoJSONPoint text | geoWithinGeoJSONRegion text => NulFree text
  | geoContainsPoint _ _ => True
  | geoWithinRadius _ _ _ => False

end

/-! ### Builders and ends -/

section

variable {indexTypes : IndexType → ℤ} {jsonEncode : JsonEncode} {bin : String}
variable {builder : Builder} {predicate : HashTable}

theorem agrees_iff_of_added {clause : WhereClause}
    (hreturned : builder.returned jsonEncode bin = some (.array predicate))
    (hend : predicateEnd indexTypes true predicate = .added clause) :
    builder.Agrees indexTypes jsonEncode bin ↔
      builder.namedClause indexTypes jsonEncode bin = some clause := by
  have hrun : ∀ query, addPredicateToQuery indexTypes true query predicate
      .init = ⟨.ok, addWhere query clause, .init⟩ := by
    intro query
    have hends := @addPredicateToQuery_ends indexTypes true query .init predicate
    rwa [hend] at hends
  constructor
  · intro hagrees
    obtain ⟨named, hnamed, hadds⟩ := hagrees predicate hreturned
    have hsame := hadds { ns := "", set := "" }
    rw [hrun, Predicated.mk.injEq, addWhere_inj] at hsame
    rw [hnamed, hsame.2.1]
  · intro hnamed predicate' hreturned'
    obtain rfl : predicate = predicate' := by
      simpa using hreturned.symm.trans hreturned'
    exact ⟨clause, hnamed, hrun⟩

theorem not_agrees_of_refused
    (hreturned : builder.returned jsonEncode bin = some (.array predicate))
    (hend : predicateEnd indexTypes true predicate = .refused) :
    ¬ builder.Agrees indexTypes jsonEncode bin := by
  intro hagrees
  obtain ⟨clause, -, hadds⟩ := hagrees predicate hreturned
  have hends := @addPredicateToQuery_ends indexTypes true
    { ns := "", set := "" } .init predicate
  rw [hend, hadds] at hends
  exact hends.1 rfl

theorem agrees_of_null (hreturned : builder.returned jsonEncode bin = some .null) :
    builder.Agrees indexTypes jsonEncode bin := by
  intro predicate hpredicate
  simp [hreturned] at hpredicate

/-- The end of a predicate whose entries and operator are known. -/
theorem predicateEnd_of_op {opText : String} {op : PredicateOp} {val : Zval}
    (hparts : predicateParts predicate = some (bin, opText, val))
    (htext : NulFree opText)
    (hop : predicateOp indexTypes predicate opText = some op) :
    predicateEnd indexTypes true predicate = opEnd true bin op val := by
  unfold predicateEnd
  rw [hparts]
  simp only [(cString_eq_self_iff opText).mpr htext, hop]

theorem predicateEnd_of_no_op {opText : String} {val : Zval}
    (hparts : predicateParts predicate = some (bin, opText, val))
    (htext : NulFree opText)
    (hop : predicateOp indexTypes predicate opText = none) :
    predicateEnd indexTypes true predicate = .refused := by
  unfold predicateEnd
  rw [hparts]
  simp only [(cString_eq_self_iff opText).mpr htext, hop]

/-- A builder whose array has an operator and a value that it needs agrees when
the clause for them is the one it is named for. -/
theorem agrees_iff_of_op {opText : String} {val : Zval} (op : PredicateOp)
    (clause : WhereClause)
    (hreturned : builder.returned jsonEncode bin = some (.array predicate))
    (hparts : predicateParts predicate = some (bin, opText, val))
    (htext : NulFree opText)
    (hop : predicateOp indexTypes predicate opText = some op)
    (hclause : clauseOf cString bin op val = some clause) :
    builder.Agrees indexTypes jsonEncode bin ↔
      builder.namedClause indexTypes jsonEncode bin = some clause := by
  refine agrees_iff_of_added hreturned ?_
  rw [predicateEnd_of_op hparts htext hop]
  unfold opEnd
  rw [hclause]

end

/-! ### The builders one by one -/

section

variable {indexTypes : IndexType → ℤ} {jsonEncode : JsonEncode} {bin : String}

theorem buildPredicate_short (hlength : bin.length ≤ asBinNameMaxLen)
    (hnul : NulFree bin) (entries : HashTable) :
    buildPredicate bin entries = .array ((.str "bin", .string bin) :: entries) := by
  rw [buildPredicate, if_neg (by omega), (cString_eq_self_iff bin).mpr hnul]

theorem buildValuePredicate_short (hlength : bin.length ≤ asBinNameMaxLen)
    (value : Zval) (entries : HashTable) :
    buildValuePredicate bin value entries =
      match value with
      | .string _ | .long _ => buildPredicate bin entries
      | _ => .null := by
  have hshort : ¬ bin.length > asBinNameMaxLen := by omega
  cases value <;> simp [buildValuePredicate, hshort]

theorem equals_agrees_iff (hlength : bin.length ≤ asBinNameMaxLen)
    (hnul : NulFree bin) (value : Zval) :
    (equals value).Agrees indexTypes jsonEncode bin ↔
      (equals value).Sound indexTypes := by
  have hcut := (cString_eq_self_iff bin).mpr hnul
  have hreturned : (equals value).returned jsonEncode bin =
      some (buildValuePredicate bin value
        [(.str "op", .string "="), (.str "val", value)]) := rfl
  rw [buildValuePredicate_short hlength,
    buildPredicate_short hlength hnul] at hreturned
  cases value with
  | long n =>
      rw [agrees_iff_of_op .equal (.integerEquals bin n) hreturned rfl
        (by decide) rfl (by rw [clauseOf, hcut])]
      exact iff_of_true rfl trivial
  | string s =>
      rw [agrees_iff_of_op .equal (.stringEquals bin (cString s)) hreturned rfl
        (by decide) rfl (by rw [clauseOf, hcut])]
      simp [namedClause, Sound, ← cString_eq_self_iff, eq_comm]
  | undef | null | bool _ | double _ | array _ | object _ _ | resource
  | reference _ => exact iff_of_true (agrees_of_null hreturned) trivial

theorem boundsOf_ofValues (min max : Int64) :
    boundsOf (.array (HashTable.ofValues [.long min, .long max])) =
      some (min, max) := rfl

theorem between_agrees (hlength : bin.length ≤ asBinNameMaxLen)
    (hnul : NulFree bin) (min max : Int64) :
    (between min max).Agrees indexTypes jsonEncode bin := by
  have hcut := (cString_eq_self_iff bin).mpr hnul
  have hreturned : (between min max).returned jsonEncode bin =
      some (buildPredicate bin [(.str "op", .string "BETWEEN"),
        (.str "val",
          .array (HashTable.ofValues [.long min, .long max]))]) := rfl
  rw [buildPredicate_short hlength hnul] at hreturned
  rw [agrees_iff_of_op .between (.integerRange bin min max) hreturned rfl
    (by decide) rfl (by rw [clauseOf, boundsOf_ofValues, hcut]; rfl)]
  rfl

theorem range_agrees_iff (hlength : bin.length ≤ asBinNameMaxLen)
    (hnul : NulFree bin) (code min max : Int64) :
    (range code min max).Agrees indexTypes jsonEncode bin ↔
      (range code min max).Sound indexTypes := by
  have hcut := (cString_eq_self_iff bin).mpr hnul
  have hreturned : (range code min max).returned jsonEncode bin =
      some (buildPredicate bin [(.str "index_type", .long code),
        (.str "op", .string "RANGE"),
        (.str "val",
          .array (HashTable.ofValues [.long min, .long max]))]) := rfl
  rw [buildPredicate_short hlength hnul] at hreturned
  have hop : predicateOp indexTypes ((.str "bin", .string bin) ::
      [(.str "index_type", .long code), (.str "op", .string "RANGE"),
        (.str "val", .array (HashTable.ofValues [.long min, .long max]))])
      "RANGE" = (indexTypeOf indexTypes code.toInt).map .range := rfl
  cases htype : indexTypeOf indexTypes code.toInt with
  | none =>
      rw [htype] at hop
      have hend := predicateEnd_of_no_op rfl (by decide) hop
      refine iff_of_false (not_agrees_of_refused hreturned hend) ?_
      simp [Sound, htype]
  | some type =>
      rw [htype] at hop
      rw [agrees_iff_of_op (.range type) (.range type bin min max) hreturned
        rfl (by decide) hop (by rw [clauseOf, boundsOf_ofValues, hcut]; rfl)]
      simp [namedClause, Sound, htype]

theorem contains_agrees_iff (hlength : bin.length ≤ asBinNameMaxLen)
    (hnul : NulFree bin) (code : Int64) (value : Zval) :
    (contains code value).Agrees indexTypes jsonEncode bin ↔
      (contains code value).Sound indexTypes := by
  have hcut := (cString_eq_self_iff bin).mpr hnul
  have hreturned : (contains code value).returned jsonEncode bin =
      some (buildValuePredicate bin value [(.str "op", .string "CONTAINS"),
        (.str "index_type", .long code), (.str "val", value)]) := rfl
  rw [buildValuePredicate_short hlength,
    buildPredicate_short hlength hnul] at hreturned
  have hop : predicateOp indexTypes ((.str "bin", .string bin) ::
      [(.str "op", .string "CONTAINS"), (.str "index_type", .long code),
        (.str "val", value)]) "CONTAINS" =
      (indexTypeOf indexTypes code.toInt).map .contains := rfl
  have hrefused : indexTypeOf indexTypes code.toInt = none →
      predicateEnd indexTypes true ((.str "bin", .string bin) ::
        [(.str "op", .string "CONTAINS"), (.str "index_type", .long code),
          (.str "val", value)]) = .refused := by
    intro htype
    rw [htype] at hop
    exact predicateEnd_of_no_op rfl (by decide) hop
  cases value with
  | long n =>
      cases htype : indexTypeOf indexTypes code.toInt with
      | none =>
          refine iff_of_false
            (not_agrees_of_refused hreturned (hrefused htype)) ?_
          simp [Sound, htype]
      | some type =>
          rw [htype] at hop
          rw [agrees_iff_of_op (.contains type) (.containsInteger type bin n)
            hreturned rfl (by decide) hop (by rw [clauseOf, hcut])]
          simp [namedClause, Sound, htype]
  | string s =>
      cases htype : indexTypeOf indexTypes code.toInt with
      | none =>
          refine iff_of_false
            (not_agrees_of_refused hreturned (hrefused htype)) ?_
          simp [Sound, htype]
      | some type =>
          rw [htype] at hop
          rw [agrees_iff_of_op (.contains type)
            (.containsString type bin (cString s)) hreturned rfl (by decide)
            hop (by rw [clauseOf, hcut])]
          simp [namedClause, Sound, htype, ← cString_eq_self_iff, eq_comm]
  | undef | null | bool _ | double _ | array _ | object _ _ | resource
  | reference _ => exact iff_of_true (agrees_of_null hreturned) trivial

theorem geoText_agrees_iff (hlength : bin.length ≤ asBinNameMaxLen)
    (hnul : NulFree bin) (text : String) :
    ((geoContainsGeoJSONPoint text).Agrees indexTypes jsonEncode bin ↔
      NulFree text) ∧
    ((geoWithinGeoJSONRegion text).Agrees indexTypes jsonEncode bin ↔
      NulFree text) := by
  have hcut := (cString_eq_self_iff bin).mpr hnul
  have hpoint : (geoContainsGeoJSONPoint text).returned jsonEncode bin =
      some (buildPredicate bin [(.str "op", .string "GEOCONTAINS"),
        (.str "val", .string text)]) := rfl
  have hregion : (geoWithinGeoJSONRegion text).returned jsonEncode bin =
      some (buildPredicate bin [(.str "op", .string "GEOWITHIN"),
        (.str "val", .string text)]) := rfl
  rw [buildPredicate_short hlength hnul] at hpoint hregion
  constructor
  · rw [agrees_iff_of_op .geoContains (.geoContains bin (cString text)) hpoint
      rfl (by decide) rfl (by rw [clauseOf, hcut])]
    simp [namedClause, ← cString_eq_self_iff, eq_comm]
  · rw [agrees_iff_of_op .geoWithin (.geoWithin bin (cString text)) hregion
      rfl (by decide) rfl (by rw [clauseOf, hcut])]
    simp [namedClause, ← cString_eq_self_iff, eq_comm]

/-- The two helpers that make their text send it as a point. -/
theorem geoJson_agrees_iff (hlength : bin.length ≤ asBinNameMaxLen)
    (hnul : NulFree bin) (geoArray : Zval) {json : String}
    (hjson : jsonEncode geoArray = some (.string json)) (htext : NulFree json)
    {builder : Builder}
    (hbuilt : builder.returned jsonEncode bin =
      buildGeoPredicate jsonEncode bin "GEOCONTAINS" geoArray) :
    builder.Agrees indexTypes jsonEncode bin ↔
      builder.namedClause indexTypes jsonEncode bin =
        some (.geoContains bin json) := by
  have hcut := (cString_eq_self_iff bin).mpr hnul
  rw [buildGeoPredicate, if_neg (by omega), hjson] at hbuilt
  simp only at hbuilt
  rw [buildPredicate_short hlength hnul] at hbuilt
  exact agrees_iff_of_op .geoContains _ hbuilt rfl (by decide) rfl
    (by rw [clauseOf, hcut, (cString_eq_self_iff json).mpr htext])

end

end Builder

/-- Which arrays of the builders add the clause that they are named for. -/
theorem builder_agrees_iff (indexTypes : IndexType → ℤ)
    (jsonEncode : JsonEncode) (builder : Builder) {bin : String}
    (hlength : bin.length ≤ asBinNameMaxLen) (hnul : NulFree bin)
    (hjson : builder.JsonSucceeds jsonEncode) :
    builder.Agrees indexTypes jsonEncode bin ↔ builder.Sound indexTypes := by
  cases builder with
  | equals value => exact Builder.equals_agrees_iff hlength hnul value
  | between min max =>
      exact iff_of_true (Builder.between_agrees hlength hnul min max) trivial
  | range code min max =>
      exact Builder.range_agrees_iff hlength hnul code min max
  | contains code value =>
      exact Builder.contains_agrees_iff hlength hnul code value
  | geoContainsGeoJSONPoint text =>
      exact (Builder.geoText_agrees_iff hlength hnul text).1
  | geoWithinGeoJSONRegion text =>
      exact (Builder.geoText_agrees_iff hlength hnul text).2
  | geoContainsPoint long lat =>
      obtain ⟨json, hencode, htext⟩ := hjson
      rw [Builder.geoJson_agrees_iff hlength hnul _ hencode htext rfl]
      simp [Builder.namedClause, JsonEncode.text, hencode, Builder.Sound]
  | geoWithinRadius long lat radius =>
      obtain ⟨json, hencode, htext⟩ := hjson
      rw [Builder.geoJson_agrees_iff hlength hnul _ hencode htext rfl]
      simp [Builder.namedClause, JsonEncode.text, hencode, Builder.Sound]

def circleLong : Double := ⟨0x3FF0000000000000⟩
def circleLat : Double := ⟨0x4000000000000000⟩
def circleRadius : Double := ⟨0x4008000000000000⟩

/-- The circle around `[1, 2]` with radius 3. -/
def smallCircle : Builder := .geoWithinRadius circleLong circleLat circleRadius

/-- `json_encode`, on the array of that circle. -/
def circleJson : JsonEncode := fun _ =>
  some (.string "\x7b\"type\":\"AeroCircle\",\"coordinates\":[[1,2],3]\x7d")

theorem builder_agrees_iff_circle :
    smallCircle.Agrees Engine.plain.indexTypes circleJson "loc" ↔
      smallCircle.Sound Engine.plain.indexTypes :=
  builder_agrees_iff Engine.plain.indexTypes circleJson smallCircle (by decide)
    (by decide) ⟨_, rfl, by decide⟩

/-- The query asks for the regions that contain the circle as a point. -/
theorem smallCircle_not_agrees :
    ¬ smallCircle.Agrees Engine.plain.indexTypes circleJson "loc" := by
  have hagrees : smallCircle.Agrees Engine.plain.indexTypes circleJson "loc" ↔ _ :=
    Builder.geoJson_agrees_iff (by decide) (by decide)
      (circleArray circleLong circleLat circleRadius) rfl (by decide) rfl
  rw [hagrees]
  simp [smallCircle, Builder.namedClause, JsonEncode.text, circleJson]

end AerospikePhp
