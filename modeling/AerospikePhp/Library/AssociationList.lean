import Mathlib.Data.List.Perm.Basic
import Mathlib.Tactic

/-!
# Association lists

A finite map as the list of its entries, in the order in which they were
added.  Setting a key replaces the value of the first entry whose key is the
same, and otherwise adds an entry at the end, in a bounded map only while there
is room.  What counts as the same key is a parameter.
-/

namespace AssociationList

variable {κ ν : Type*}

def set (same : κ → κ → Bool) (entries : List (κ × ν)) (key : κ) (value : ν) :
    List (κ × ν) :=
  match entries with
  | [] => [(key, value)]
  | (key', value') :: rest =>
      if same key' key then (key', value) :: rest
      else (key', value') :: set same rest key value

/-- Set the entries of the second list, one after the other. -/
def setAll (same : κ → κ → Bool) (entries additions : List (κ × ν)) :
    List (κ × ν) :=
  additions.foldl (fun entries entry => set same entries entry.1 entry.2) entries

/-- The value of the first entry with the key. -/
def lookup (same : κ → κ → Bool) (entries : List (κ × ν)) (key : κ) : Option ν :=
  (entries.find? fun entry => same entry.1 key).map Prod.snd

/-- No two entries have the same key. -/
def Distinct (same : κ → κ → Bool) (entries : List (κ × ν)) : Prop :=
  entries.Pairwise fun entry entry' => same entry.1 entry'.1 = false

variable {same : κ → κ → Bool} {entries : List (κ × ν)}

@[simp] theorem setAll_nil : setAll same entries [] = entries := rfl

@[simp] theorem setAll_cons (entry : κ × ν) (additions : List (κ × ν)) :
    setAll same entries (entry :: additions) =
      setAll same (set same entries entry.1 entry.2) additions := rfl

/-! ## One entry -/

theorem set_of_fresh {key : κ} (value : ν)
    (hfresh : ∀ entry ∈ entries, same entry.1 key = false) :
    set same entries key value = entries ++ [(key, value)] := by
  induction entries with
  | nil => rfl
  | cons entry rest ih =>
      have hentry : same entry.1 key = false := hfresh entry (by simp)
      have hrest : ∀ entry' ∈ rest, same entry'.1 key = false := by
        intro entry' hmem
        exact hfresh entry' (List.mem_cons_of_mem _ hmem)
      rw [set, if_neg (by simp [hentry]), ih hrest]
      rfl

/-- An entry whose key is not the one that is set stays. -/
theorem mem_set_of_mem {key key' : κ} {value value' : ν}
    (hmem : (key', value') ∈ entries) (hne : same key' key = false) :
    (key', value') ∈ set same entries key value := by
  induction entries with
  | nil => cases hmem
  | cons entry rest ih =>
      rw [set]
      rcases List.mem_cons.mp hmem with rfl | hrest
      · simp [hne]
      · split
        · exact List.mem_cons_of_mem _ hrest
        · exact List.mem_cons_of_mem _ (ih hrest)

/-- Afterwards the value is there, under a key that is the same. -/
theorem exists_mem_set (key : κ) (value : ν)
    (heq : ∀ key', same key' key = true → key' = key) :
    (key, value) ∈ set same entries key value := by
  induction entries with
  | nil => simp [set]
  | cons entry rest ih =>
      rw [set]
      split
      · next hsame =>
          have hkey := heq entry.1 hsame
          simp [hkey]
      · exact List.mem_cons_of_mem _ ih

/-- Every entry was there before, or is the one that was set. -/
theorem of_mem_set {key key' : κ} {value value' : ν}
    (heq : ∀ key', same key' key = true → key' = key)
    (hmem : (key', value') ∈ set same entries key value) :
    (key', value') ∈ entries ∨ (key', value') = (key, value) := by
  induction entries with
  | nil => exact .inr (by simpa [set] using hmem)
  | cons entry rest ih =>
      rw [set] at hmem
      split at hmem
      · next hsame =>
          have hkey := heq entry.1 hsame
          rcases List.mem_cons.mp hmem with hhead | hrest
          · exact .inr (by rw [hhead, hkey])
          · exact .inl (List.mem_cons_of_mem _ hrest)
      · rcases List.mem_cons.mp hmem with hhead | hrest
        · exact .inl (by rw [hhead]; simp)
        · rcases ih hrest with hold | hnew
          · exact .inl (List.mem_cons_of_mem _ hold)
          · exact .inr hnew

/-- Setting a key adds no other key. -/
theorem fst_of_mem_set {key : κ} {value : ν} {entry : κ × ν}
    (hmem : entry ∈ set same entries key value) :
    entry.1 ∈ entries.map Prod.fst ∨ entry.1 = key := by
  induction entries with
  | nil =>
      have hentry : entry = (key, value) := by simpa [set] using hmem
      exact .inr (congrArg Prod.fst hentry)
  | cons head rest ih =>
      rw [set] at hmem
      split at hmem
      · refine .inl ?_
        rcases List.mem_cons.mp hmem with rfl | hrest
        · simp
        · exact List.mem_map_of_mem (List.mem_cons_of_mem _ hrest)
      · rcases List.mem_cons.mp hmem with rfl | hrest
        · simp
        · rcases ih hrest with hold | hnew
          · exact .inl (List.mem_cons_of_mem _ hold)
          · exact .inr hnew

theorem Distinct.set (key : κ) (value : ν) (hdistinct : Distinct same entries) :
    Distinct same (AssociationList.set same entries key value) := by
  induction entries with
  | nil => simp [AssociationList.set, Distinct]
  | cons head rest ih =>
      obtain ⟨hhead, hrest⟩ := List.pairwise_cons.mp hdistinct
      rw [AssociationList.set]
      split
      · exact List.pairwise_cons.mpr ⟨hhead, hrest⟩
      · next hne =>
          refine List.pairwise_cons.mpr ⟨?_, ih hrest⟩
          intro entry hmem
          rcases fst_of_mem_set hmem with hold | hnew
          · obtain ⟨old, hmem', hfst⟩ := List.mem_map.mp hold
            rw [← hfst]
            exact hhead old hmem'
          · rw [hnew]
            simpa using hne

/-- What is found is what was set, or what was there before. -/
theorem lookup_set (heq : ∀ key key', same key key' = true ↔ key = key')
    (key key' : κ) (value : ν) :
    lookup same (set same entries key value) key' =
      if same key key' then some value else lookup same entries key' := by
  induction entries with
  | nil => cases hsame : same key key' <;> simp [set, lookup, hsame]
  | cons entry rest ih =>
      unfold lookup at ih
      cases hentry : same entry.1 key with
      | true =>
          obtain rfl := (heq _ _).mp hentry
          cases hsame : same entry.1 key' <;> simp [set, lookup, hentry, hsame]
      | false =>
          cases hsame : same entry.1 key' with
          | false => simp [set, lookup, hentry, hsame, ih]
          | true =>
              obtain rfl := (heq _ _).mp hsame
              have hkey : same key entry.1 = false := by
                rw [Bool.eq_false_iff]
                intro hkey
                obtain rfl := (heq _ _).mp hkey
                rw [hsame] at hentry
                cases hentry
              simp [set, lookup, hentry, hsame, hkey]

/-! ## All entries -/

theorem setAll_concat (additions : List (κ × ν)) (addition : κ × ν) :
    setAll same entries (additions ++ [addition]) =
      set same (setAll same entries additions) addition.1 addition.2 :=
  List.foldl_concat _ _ _ _

/-- Of several values set for one key, the last is found. -/
theorem lookup_setAll (heq : ∀ key key', same key key' = true ↔ key = key')
    (additions : List (κ × ν)) (key : κ) :
    lookup same (setAll same [] additions) key =
      lookup same additions.reverse key := by
  induction additions using List.reverseRecOn with
  | nil => rfl
  | append_singleton additions addition ih =>
      rw [setAll_concat, lookup_set heq, ih, List.reverse_concat]
      cases hsame : same addition.1 key <;> simp [lookup, hsame]

/-- Entries with distinct keys, none of which is there yet, are appended. -/
theorem setAll_of_distinct {additions : List (κ × ν)}
    (hdistinct : Distinct same (entries ++ additions)) :
    setAll same entries additions = entries ++ additions := by
  induction additions generalizing entries with
  | nil => simp
  | cons addition additions ih =>
      have hfresh : ∀ entry ∈ entries, same entry.1 addition.1 = false := by
        intro entry hmem
        exact (List.pairwise_append.mp hdistinct).2.2 entry hmem addition
          (by simp)
      have hshift : entries ++ addition :: additions =
          (entries ++ [addition]) ++ additions := by simp
      rw [setAll_cons, set_of_fresh addition.2 hfresh, ih (hshift ▸ hdistinct)]
      exact hshift.symm

theorem setAll_nil_of_distinct {additions : List (κ × ν)}
    (hdistinct : Distinct same additions) :
    setAll same [] additions = additions := by
  have hall : setAll same [] additions = [] ++ additions :=
    setAll_of_distinct hdistinct
  simpa using hall

theorem Distinct.setAll {additions : List (κ × ν)}
    (hdistinct : Distinct same entries) :
    Distinct same (AssociationList.setAll same entries additions) := by
  induction additions generalizing entries with
  | nil => exact hdistinct
  | cons addition additions ih =>
      rw [setAll_cons]
      exact ih (hdistinct.set addition.1 addition.2)

theorem of_mem_setAll {additions : List (κ × ν)} {entry : κ × ν}
    (heq : ∀ key key', same key' key = true → key' = key)
    (hmem : entry ∈ setAll same entries additions) :
    entry ∈ entries ∨ entry ∈ additions := by
  induction additions generalizing entries with
  | nil => exact .inl hmem
  | cons addition additions ih =>
      rw [setAll_cons] at hmem
      rcases ih hmem with hset | hadded
      · rcases of_mem_set (heq addition.1) hset with hold | hnew
        · exact .inl hold
        · have hnew' : entry = addition := hnew
          exact .inr (by simp [hnew'])
      · exact .inr (List.mem_cons_of_mem _ hadded)

/-- Setting entries loses no key, and adds those of the new entries. -/
theorem fst_mem_setAll {additions : List (κ × ν)} {key : κ}
    (heq : ∀ key key', same key' key = true → key' = key)
    (hmem : key ∈ entries.map Prod.fst ∨ key ∈ additions.map Prod.fst) :
    key ∈ (setAll same entries additions).map Prod.fst := by
  induction additions generalizing entries with
  | nil => simpa using hmem
  | cons addition additions ih =>
      rw [setAll_cons]
      apply ih
      rw [List.map_cons, List.mem_cons] at hmem
      rcases hmem with hold | rfl | hnew
      · obtain ⟨⟨key', value'⟩, hmem', rfl⟩ := List.mem_map.mp hold
        cases hsame : same key' addition.1 with
        | false =>
            exact .inl (List.mem_map.mpr ⟨_, mem_set_of_mem hmem' hsame, rfl⟩)
        | true =>
            obtain rfl := heq addition.1 key' hsame
            exact .inl (List.mem_map.mpr
              ⟨_, exists_mem_set _ addition.2 (heq addition.1), rfl⟩)
      · exact .inl (List.mem_map.mpr
          ⟨_, exists_mem_set _ addition.2 (heq addition.1), rfl⟩)
      · exact .inr hnew

/-- Two orders of the same entries are equal when they list the keys in the
same order and no key comes twice. -/
theorem eq_of_perm_of_keys {entries' : List (κ × ν)}
    (hperm : entries.Perm entries')
    (hkeys : entries.map Prod.fst = entries'.map Prod.fst)
    (hnodup : (entries.map Prod.fst).Nodup) : entries = entries' := by
  induction entries generalizing entries' with
  | nil => exact hperm.nil_eq
  | cons entry rest ih =>
      cases entries' with
      | nil => simp at hkeys
      | cons entry' rest' =>
          simp only [List.map_cons, List.cons.injEq] at hkeys
          rw [List.map_cons, List.nodup_cons] at hnodup
          have hentry : entry = entry' := by
            rcases List.mem_cons.mp (hperm.subset (List.mem_cons_self)) with
              heq | hrest
            · exact heq
            · have hmem : entry.1 ∈ rest'.map Prod.fst :=
                List.mem_map_of_mem hrest
              rw [← hkeys.2] at hmem
              exact absurd hmem hnodup.1
          subst hentry
          rw [ih (List.Perm.cons_inv hperm) hkeys.2 hnodup.2]

/-! ## A map with room for so many entries -/

/-- Set a key in a map that takes no new one when it is full. -/
def setWithin (same : κ → κ → Bool) (capacity : ℕ) (entries : List (κ × ν))
    (key : κ) (value : ν) : List (κ × ν) :=
  if entries.length < capacity ∨ entries.any (fun entry => same entry.1 key) then
    set same entries key value
  else entries

/-- Set the entries of the second list as far as there is room for them. -/
def setAllWithin (same : κ → κ → Bool) (capacity : ℕ)
    (entries additions : List (κ × ν)) : List (κ × ν) :=
  additions.foldl
    (fun entries entry => setWithin same capacity entries entry.1 entry.2) entries

@[simp] theorem setAllWithin_nil (capacity : ℕ) :
    setAllWithin same capacity entries [] = entries := rfl

@[simp] theorem setAllWithin_cons (capacity : ℕ) (entry : κ × ν)
    (additions : List (κ × ν)) :
    setAllWithin same capacity entries (entry :: additions) =
      setAllWithin same capacity
        (setWithin same capacity entries entry.1 entry.2) additions := rfl

theorem length_set (key : κ) (value : ν) :
    (set same entries key value).length =
      if entries.any (fun entry => same entry.1 key) then entries.length
      else entries.length + 1 := by
  induction entries with
  | nil => rfl
  | cons entry rest ih =>
      cases hentry : same entry.1 key with
      | true => simp [set, hentry]
      | false =>
          simp only [set, hentry, Bool.false_eq_true, if_false, List.length_cons, ih,
            List.any_cons, Bool.false_or]
          split <;> rfl

theorem length_set_le (key : κ) (value : ν) :
    (set same entries key value).length ≤ entries.length + 1 := by
  rw [length_set]
  split <;> omega

theorem length_setWithin_le {capacity : ℕ} (key : κ) (value : ν)
    (hroom : entries.length ≤ capacity) :
    (setWithin same capacity entries key value).length ≤ capacity := by
  unfold setWithin
  split
  · next hset =>
      rw [length_set]
      split
      · exact hroom
      · next hnew => exact hset.resolve_right hnew
  · exact hroom

/-- The map never holds more than it has room for. -/
theorem length_setAllWithin_le {capacity : ℕ} (additions : List (κ × ν))
    (hroom : entries.length ≤ capacity) :
    (setAllWithin same capacity entries additions).length ≤ capacity := by
  induction additions generalizing entries with
  | nil => exact hroom
  | cons addition additions ih =>
      rw [setAllWithin_cons]
      exact ih (length_setWithin_le addition.1 addition.2 hroom)

/-- With room for all of them, the entries are set as without a bound. -/
theorem setAllWithin_of_room {capacity : ℕ} {additions : List (κ × ν)}
    (hroom : entries.length + additions.length ≤ capacity) :
    setAllWithin same capacity entries additions =
      setAll same entries additions := by
  induction additions generalizing entries with
  | nil => rfl
  | cons addition additions ih =>
      rw [List.length_cons] at hroom
      have hfits : entries.length < capacity := by omega
      have hnext := @length_set_le _ _ same entries addition.1 addition.2
      rw [setAllWithin_cons, setAll_cons, setWithin, if_pos (.inl hfits)]
      apply ih
      omega

/-! ## Two maps side by side -/

section

variable {κ' ν' : Type*} {same' : κ' → κ' → Bool}
variable {K : κ → κ' → Prop} {V : ν → ν' → Prop}

/-- The entries have keys and values that stand for each other. -/
def EntryRel (K : κ → κ' → Prop) (V : ν → ν' → Prop) (entry : κ × ν)
    (entry' : κ' × ν') : Prop :=
  K entry.1 entry'.1 ∧ V entry.2 entry'.2

/-- Setting entries that stand for each other keeps maps that do, if keys that
stand for each other are the same in one map when they are in the other. -/
theorem forall₂_set
    (hsame : ∀ a a' b b', K a a' → K b b' → same a b = same' a' b')
    {entries : List (κ × ν)} {entries' : List (κ' × ν')} {entry : κ × ν}
    {entry' : κ' × ν'}
    (hentries : List.Forall₂ (EntryRel K V) entries entries')
    (hentry : EntryRel K V entry entry') :
    List.Forall₂ (EntryRel K V) (set same entries entry.1 entry.2)
      (set same' entries' entry'.1 entry'.2) := by
  induction hentries with
  | nil => exact .cons hentry .nil
  | @cons head head' rest rest' hhead hrest ih =>
      rw [set, set, hsame _ _ _ _ hhead.1 hentry.1]
      split
      · exact .cons ⟨hhead.1, hentry.2⟩ hrest
      · exact .cons hhead ih

theorem forall₂_setAll
    (hsame : ∀ a a' b b', K a a' → K b b' → same a b = same' a' b')
    {entries additions : List (κ × ν)} {entries' additions' : List (κ' × ν')}
    (hentries : List.Forall₂ (EntryRel K V) entries entries')
    (hadditions : List.Forall₂ (EntryRel K V) additions additions') :
    List.Forall₂ (EntryRel K V) (setAll same entries additions)
      (setAll same' entries' additions') := by
  induction hadditions generalizing entries entries' with
  | nil => exact hentries
  | cons haddition _ ih =>
      rw [setAll_cons, setAll_cons]
      exact ih (forall₂_set hsame hentries haddition)

end

end AssociationList
