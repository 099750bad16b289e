import Mathlib.Tactic

/-!
# Counted references

A family of slots, each of which may hold a reference to something.  The number
of references to a thing changes with the slots one by one.
-/

namespace References

variable {κ α : Type} [Fintype κ] [DecidableEq α]

/-- How many of the slots hold the thing. -/
def references (holds : κ → Option α) (x : α) : ℤ :=
  ∑ k, if holds k = some x then 1 else 0

@[simp] theorem references_none (x : α) :
    references (fun _ : κ => (none : Option α)) x = 0 := by
  simp [references]

/-- A slot gives up what it holds and takes something else. -/
theorem references_update [DecidableEq κ] (holds : κ → Option α) (k : κ)
    (new : Option α) (x : α) :
    references (Function.update holds k new) x =
      references holds x - (if holds k = some x then 1 else 0) +
        if new = some x then 1 else 0 := by
  have hother : ∀ other ∈ Finset.univ.erase k,
      (if Function.update holds k new other = some x then (1 : ℤ) else 0) =
        if holds other = some x then 1 else 0 := by
    intro other hmem
    rw [Function.update_of_ne (Finset.ne_of_mem_erase hmem)]
  unfold references
  rw [← Finset.add_sum_erase _ _ (Finset.mem_univ k),
    ← Finset.add_sum_erase _ (fun k => if holds k = some x then (1 : ℤ) else 0)
      (Finset.mem_univ k), Finset.sum_congr rfl hother]
  simp only [Function.update_self]
  ring

theorem references_pos {holds : κ → Option α} {k : κ} {x : α}
    (hholds : holds k = some x) : 0 < references holds x := by
  unfold references
  apply Finset.sum_pos'
  · intro other _
    split <;> simp
  · exact ⟨k, Finset.mem_univ k, by simp [hholds]⟩

theorem references_le {holds others : κ → Option α} {x : α}
    (himp : ∀ k, holds k = some x → others k = some x) :
    references holds x ≤ references others x := by
  unfold references
  apply Finset.sum_le_sum
  intro k _
  by_cases hholds : holds k = some x
  · simp [hholds, himp k hholds]
  · rw [if_neg hholds]
    split <;> simp

end References
