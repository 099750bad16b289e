import AerospikePhp.RoundTrips
import Mathlib.Tactic

/-!
# What operate and operateOrdered return

`operate` returns the bins of the record as one array, `operateOrdered` as a
list of pairs.  The array is the list collapsed by bin name.
-/

namespace AerospikePhp

open AssociationList

/-- The array `[name, value]`. -/
def binPair (pair : String × Zval) : Zval :=
  .array (HashTable.ofValues [.string pair.1, pair.2])

/-- The list of `[name, value]` pairs. -/
def orderedBins (pairs : List (String × Zval)) : HashTable :=
  HashTable.ofValues (pairs.map binPair)

/-- The pairs stored in an array one after the other, under the keys that PHP
gives their names. -/
def collapseBins (pairs : List (String × Zval)) : HashTable :=
  setAll sameZKey [] (pairs.map fun pair => (assocKey pair.1, pair.2))

/-! ## Lists and tables -/

theorem sameZKey_iff (key key' : ZKey) : sameZKey key key' = true ↔ key = key' := by
  simp [sameZKey]

theorem find_eq_lookup (table : HashTable) (key : ZKey) :
    table.find key = lookup sameZKey table key := rfl

/-- The array holds the value of the last pair with the key. -/
theorem find_collapseBins (pairs : List (String × Zval)) (key : ZKey) :
    (collapseBins pairs).find key =
      (pairs.reverse.find? fun pair => assocKey pair.1 = key).map Prod.snd := by
  rw [find_eq_lookup, collapseBins, lookup_setAll sameZKey_iff, ← List.map_reverse,
    lookup, List.find?_map, Option.map_map]
  rfl

theorem ofValues_concat (vals : List Zval) (z : Zval) :
    HashTable.ofValues (vals ++ [z]) = (HashTable.ofValues vals).push z := by
  simp [HashTable.ofValues, HashTable.push, List.mapIdx_append]

theorem orderedBins_concat (pairs : List (String × Zval)) (pair : String × Zval) :
    orderedBins (pairs ++ [pair]) = (orderedBins pairs).push (binPair pair) := by
  unfold orderedBins
  rw [List.map_append, List.map_singleton, ofValues_concat]

theorem collapseBins_concat (pairs : List (String × Zval)) (pair : String × Zval) :
    collapseBins (pairs ++ [pair]) =
      (collapseBins pairs).update (assocKey pair.1) pair.2 := by
  unfold collapseBins
  rw [List.map_append, List.map_singleton, setAll_concat, update_eq_set]

/-! ## The two loops side by side -/

/-- Both converters gave the bins from `names` on, after the same pairs, or
both failed and left null. -/
def SameBins (ordered bins : Converted Zval) (before : List (String × Zval))
    (names : List String) : Prop :=
  ordered.status = bins.status ∧ ordered.err = bins.err ∧
    if bins.status = .ok then
      ∃ pairs, pairs.map Prod.fst = names ∧
        ordered.val = some (.array (orderedBins (before ++ pairs))) ∧
        bins.val = some (.array (collapseBins (before ++ pairs)))
    else ordered.val = some .null ∧ bins.val = some .null

/-- A value converts and leaves the error object alone, or the error is in the
status and in the error object. -/
theorem asValToZval_cases (rt : Runtime) (value : AsVal) (err : AsError) :
    (∃ z, asValToZval rt value err = ⟨.ok, some z, err⟩) ∨
      (asValToZval rt value err).status ≠ .ok ∧
        (asValToZval rt value err).err.code ≠ .ok := by
  by_cases herr : err.code = .ok
  · have hdecodes := @asValToZval_decodes rt value err herr
    cases hdecode : decode rt value with
    | none =>
        rw [hdecode] at hdecodes
        exact .inr ⟨hdecodes.1, hdecodes.2.1⟩
    | some z =>
        rw [hdecode] at hdecodes
        exact .inl ⟨z, hdecodes⟩
  · exact .inr (asValToZval_sticky value herr)

theorem loops_sameBins (rt : Runtime) (bins : List (String × AsVal))
    (before : List (String × Zval)) (err : AsError) :
    SameBins (asOperateRecordLoop rt bins (orderedBins before) err)
      (asBinsLoop rt bins (collapseBins before) err) before
      (bins.map Prod.fst) := by
  induction bins generalizing before err with
  | nil =>
      rw [asOperateRecordLoop, asBinsLoop]
      by_cases herr : err.code = .ok <;> simp [SameBins, herr]
  | cons bin bins ih =>
      obtain ⟨name, value⟩ := bin
      rw [asOperateRecordLoop, asBinsLoop]
      rcases asValToZval_cases rt value err with ⟨z, hvalue⟩ | ⟨hstatus, hcode⟩
      · have hordered := orderedBins_concat before (name, z)
        have hcollapsed := collapseBins_concat before (name, z)
        rw [binPair] at hordered
        simp only [hvalue, ne_eq, not_true, if_false, Option.getD_some]
        rw [← hordered, ← hcollapsed]
        obtain ⟨hstatus, herr, hvals⟩ := ih (before ++ [(name, z)]) err
        refine ⟨hstatus, herr, ?_⟩
        split at hvals
        · next hok =>
            obtain ⟨pairs, hnames, hpairs⟩ := hvals
            rw [if_pos hok]
            refine ⟨(name, z) :: pairs, by simp [hnames], ?_⟩
            have hshift : before ++ (name, z) :: pairs =
                before ++ [(name, z)] ++ pairs := by simp
            rw [hshift]
            exact hpairs
        · next hfail =>
            rw [if_neg hfail]
            exact hvals
      · rw [if_pos hstatus, if_pos hstatus]
        exact ⟨rfl, rfl, by simp [hcode]⟩

/-- The array of `operate` is the list of `operateOrdered` collapsed by bin
name, the last value winning, and the one converter fails exactly when the
other does. -/
theorem asBinsToZval_collapses (rt : Runtime) (record : AsRecord) (err : AsError) :
    SameBins (asOperateRecordToZval rt (some record) err)
        (asBinsToZval rt record err) [] (record.bins.map Prod.fst) ∧
      ∀ pairs key, (collapseBins pairs).find key =
        (pairs.reverse.find? fun pair => assocKey pair.1 = key).map Prod.snd :=
  ⟨loops_sameBins rt record.bins [] err, find_collapseBins⟩

end AerospikePhp
