import Mathlib.Data.List.TakeWhile
import Mathlib.Tactic

/-!
# Fields joined by a delimiter

What can be read back from a list into which fields were joined by a delimiter
that some of the fields may hold themselves.
-/

namespace Delimiters

variable {α : Type*} {d : α}

/-- A first field that is free of the delimiter can be read back. -/
theorem append_cons_inj_of_notMem_left {first first' rest rest' : List α}
    (hfirst : d ∉ first) (hfirst' : d ∉ first') :
    first ++ d :: rest = first' ++ d :: rest' ↔ first = first' ∧ rest = rest' := by
  constructor
  · intro heq
    induction first generalizing first' with
    | nil =>
        cases first' with
        | nil => simpa using heq
        | cons c field =>
            simp only [List.nil_append, List.cons_append, List.cons.injEq] at heq
            exact absurd (by simp [heq.1]) hfirst'
    | cons c field ih =>
        cases first' with
        | nil =>
            simp only [List.nil_append, List.cons_append, List.cons.injEq] at heq
            exact absurd (by simp [heq.1]) hfirst
        | cons c' field' =>
            simp only [List.cons_append, List.cons.injEq] at heq
            obtain ⟨rfl, heq⟩ := heq
            obtain ⟨rfl, rfl⟩ := ih (fun hmem => hfirst (by simp [hmem]))
              (fun hmem => hfirst' (by simp [hmem])) heq
            exact ⟨rfl, rfl⟩
  · rintro ⟨rfl, rfl⟩
    rfl

/-- A last field that is free of the delimiter can be read back. -/
theorem append_cons_inj_of_notMem_right {before before' last last' : List α}
    (hlast : d ∉ last) (hlast' : d ∉ last') :
    before ++ d :: last = before' ++ d :: last' ↔
      before = before' ∧ last = last' := by
  constructor
  · intro heq
    have hreverse : last.reverse ++ d :: before.reverse =
        last'.reverse ++ d :: before'.reverse := by
      simpa using congrArg List.reverse heq
    obtain ⟨hfields, hrest⟩ := (append_cons_inj_of_notMem_left
      (by simpa using hlast) (by simpa using hlast')).mp hreverse
    exact ⟨List.reverse_injective hrest, List.reverse_injective hfields⟩
  · rintro ⟨rfl, rfl⟩
    rfl

/-- The first field of the second triple takes in both first fields of the first
one, and possibly the beginning of its last field. -/
def TakesIn (d : α) (first middle last first' middle' last' : List α) : Prop :=
  (first' = first ++ d :: middle ∧ last = middle' ++ d :: last') ∨
    ∃ start, first' = first ++ d :: (middle ++ d :: start) ∧
      last = start ++ d :: (middle' ++ d :: last')

theorem join_eq_of_takesIn {first middle last first' middle' last' : List α}
    (htakes : TakesIn d first middle last first' middle' last') :
    first ++ d :: (middle ++ d :: last) =
      first' ++ d :: (middle' ++ d :: last') := by
  rcases htakes with ⟨rfl, rfl⟩ | ⟨start, rfl, rfl⟩ <;> simp

theorem takesIn_of_join_eq {rest middle last middle' last' : List α}
    (first : List α) (hmiddle : d ∉ middle)
    (heq : middle ++ d :: last = rest ++ d :: (middle' ++ d :: last')) :
    TakesIn d first middle last (first ++ d :: rest) middle' last' := by
  rcases List.append_eq_append_iff.mp heq with
    ⟨between, hrest, hlast⟩ | ⟨between, hbefore, hlast⟩
  · cases between with
    | nil =>
        left
        simp only [List.append_nil] at hrest
        simp only [List.nil_append, List.cons.injEq, true_and] at hlast
        exact ⟨by rw [hrest], hlast⟩
    | cons c start =>
        right
        simp only [List.cons_append, List.cons.injEq] at hlast
        obtain ⟨rfl, hlast⟩ := hlast
        exact ⟨start, by rw [hrest], hlast⟩
  · cases between with
    | nil =>
        left
        simp only [List.append_nil] at hbefore
        simp only [List.nil_append, List.cons.injEq, true_and] at hlast
        exact ⟨by rw [hbefore], hlast.symm⟩
    | cons c start =>
        simp only [List.cons_append, List.cons.injEq] at hlast
        obtain ⟨rfl, -⟩ := hlast
        exact absurd (by simp [hbefore]) hmiddle

/-- Three fields whose middle one is free of the delimiter: two triples give one
list only if they are equal or one takes in fields of the other. -/
theorem join_eq_iff {first middle last first' middle' last' : List α}
    (hmiddle : d ∉ middle) (hmiddle' : d ∉ middle') :
    first ++ d :: (middle ++ d :: last) =
        first' ++ d :: (middle' ++ d :: last') ↔
      (first = first' ∧ middle = middle' ∧ last = last') ∨
        TakesIn d first middle last first' middle' last' ∨
          TakesIn d first' middle' last' first middle last := by
  constructor
  · intro heq
    rcases List.append_eq_append_iff.mp heq with
      ⟨between, hfirst, hrest⟩ | ⟨between, hfirst, hrest⟩
    · cases between with
      | nil =>
          left
          simp only [List.append_nil] at hfirst
          simp only [List.nil_append, List.cons.injEq, true_and] at hrest
          exact ⟨hfirst.symm,
            (append_cons_inj_of_notMem_left hmiddle hmiddle').mp hrest⟩
      | cons c rest =>
          simp only [List.cons_append, List.cons.injEq] at hrest
          obtain ⟨rfl, hrest⟩ := hrest
          right; left
          rw [hfirst]
          exact takesIn_of_join_eq first hmiddle hrest
    · cases between with
      | nil =>
          left
          simp only [List.append_nil] at hfirst
          simp only [List.nil_append, List.cons.injEq, true_and] at hrest
          exact ⟨hfirst,
            (append_cons_inj_of_notMem_left hmiddle hmiddle').mp hrest.symm⟩
      | cons c rest =>
          simp only [List.cons_append, List.cons.injEq] at hrest
          obtain ⟨rfl, hrest⟩ := hrest
          right; right
          rw [hfirst]
          exact takesIn_of_join_eq first' hmiddle' hrest
  · rintro (⟨rfl, rfl, rfl⟩ | htakes | htakes)
    · rfl
    · exact join_eq_of_takesIn htakes
    · exact (join_eq_of_takesIn htakes).symm

/-! ## The first delimiter -/

section

variable [DecidableEq α]

/-- What comes before the first delimiter, and what comes after it. -/
def splitFirst (d : α) (whole : List α) : Option (List α × List α) :=
  match whole.dropWhile (· ≠ d) with
  | [] => none
  | _ :: rest => some (whole.takeWhile (· ≠ d), rest)

theorem splitFirst_append {first : List α} (hfirst : d ∉ first) (rest : List α) :
    splitFirst d (first ++ d :: rest) = some (first, rest) := by
  have hall : ∀ c ∈ first, decide (c ≠ d) = true := by
    intro c hc
    rw [decide_eq_true_eq]
    rintro rfl
    exact hfirst hc
  unfold splitFirst
  rw [List.dropWhile_append_of_pos hall, List.takeWhile_append_of_pos hall]
  simp

theorem splitFirst_eq_some_iff {whole first rest : List α} :
    splitFirst d whole = some (first, rest) ↔
      whole = first ++ d :: rest ∧ d ∉ first := by
  constructor
  · intro hsplit
    unfold splitFirst at hsplit
    split at hsplit
    · cases hsplit
    · next c after hdrop =>
        obtain ⟨rfl, rfl⟩ := Prod.mk.inj (Option.some.inj hsplit)
        have hne : whole.dropWhile (fun c => decide (c ≠ d)) ≠ [] := by
          rw [hdrop]
          simp
        have hhead := List.head_dropWhile_not (fun c => decide (c ≠ d)) hne
        simp only [hdrop, List.head_cons] at hhead
        have hc : c = d := by simpa using hhead
        have hwhole := List.takeWhile_append_dropWhile
          (p := fun c => decide (c ≠ d)) (l := whole)
        rw [hdrop, hc] at hwhole
        refine ⟨hwhole.symm, fun hmem => ?_⟩
        simpa using List.mem_takeWhile_imp hmem
  · rintro ⟨rfl, hfirst⟩
    exact splitFirst_append hfirst rest

/-- What comes before the last delimiter, and what comes after it. -/
def splitLast (d : α) (whole : List α) : Option (List α × List α) :=
  (splitFirst d whole.reverse).map fun fields =>
    (fields.2.reverse, fields.1.reverse)

theorem splitLast_eq_some_iff {whole before last : List α} :
    splitLast d whole = some (before, last) ↔
      whole = before ++ d :: last ∧ d ∉ last := by
  unfold splitLast
  rw [Option.map_eq_some_iff]
  constructor
  · rintro ⟨⟨first, rest⟩, hsplit, hfields⟩
    obtain ⟨rfl, rfl⟩ := Prod.mk.inj hfields
    obtain ⟨hwhole, hfree⟩ := splitFirst_eq_some_iff.mp hsplit
    have hreversed := congrArg List.reverse hwhole
    rw [List.reverse_reverse] at hreversed
    exact ⟨by simp [hreversed], by simpa using hfree⟩
  · rintro ⟨rfl, hfree⟩
    refine ⟨(last.reverse, before.reverse), ?_, by simp⟩
    rw [splitFirst_eq_some_iff]
    exact ⟨by simp, by simpa using hfree⟩

end

/-! ## Digits -/

theorem mem_toDigits {base n : ℕ} {c : Char} (hbase : 1 < base)
    (hmem : c ∈ Nat.toDigits base n) : ∃ digit < base, c = digit.digitChar := by
  induction n using Nat.strong_induction_on with
  | _ n ih =>
      rw [Nat.toDigits_eq_if hbase] at hmem
      split at hmem
      · next hlt => exact ⟨n, hlt, by simpa using hmem⟩
      · next hge =>
          rcases List.mem_append.mp hmem with hhigh | hlow
          · exact ih (n / base) (Nat.div_lt_self (by omega) hbase) hhigh
          · exact ⟨n % base, Nat.mod_lt _ (by omega), by simpa using hlow⟩

/-- Digits tell numbers apart when they tell the numbers below the base apart. -/
theorem toDigits_injective {base : ℕ} (hbase : 1 < base)
    (hdigits : ∀ digit < base, ∀ digit' < base,
      digit.digitChar = digit'.digitChar → digit = digit') :
    Function.Injective (Nat.toDigits base) := by
  intro n
  induction n using Nat.strong_induction_on with
  | _ n ih =>
      intro m heq
      rw [Nat.toDigits_eq_if hbase, Nat.toDigits_eq_if (n := m) hbase] at heq
      split at heq <;> split at heq
      · next hn hm =>
          exact hdigits n hn m hm (by simpa using heq)
      · next hn hm =>
          have hlength := congrArg List.length heq
          simp at hlength
      · next hn hm =>
          have hlength := congrArg List.length heq
          simp at hlength
      · next hn hm =>
          obtain ⟨hhigh, hlow⟩ := List.append_inj' heq rfl
          have hdiv : n / base = m / base :=
            ih (n / base) (Nat.div_lt_self (by omega) hbase) hhigh
          have hmod : n % base = m % base :=
            hdigits _ (Nat.mod_lt _ (by omega)) _ (Nat.mod_lt _ (by omega))
              (by simpa using hlow)
          calc n = base * (n / base) + n % base := (Nat.div_add_mod n base).symm
            _ = base * (m / base) + m % base := by rw [hdiv, hmod]
            _ = m := Nat.div_add_mod m base

end Delimiters
