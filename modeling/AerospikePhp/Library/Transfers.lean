import Mathlib.Data.List.Basic
import Mathlib.Tactic

/-!
# Partial transfers

A sequence that is read in pieces of at most a frame and written on piece by
piece.  Every call may transfer less than it was asked for, or nothing.
-/

namespace Transfers

variable {α : Type*}

/-- What a call that can transfer `amount` reads from a position on. -/
def piece (frame : ℕ) (whole : List α) (position amount : ℕ) : List α :=
  (whole.drop position).take (min amount frame)

section

variable (frame : ℕ) (reads writes : ℕ → ℕ) (whole : List α)

/-- The position after so many reads. -/
def position : ℕ → ℕ
  | 0 => 0
  | call + 1 =>
      position call + (piece frame whole (position call) (reads call)).length

/-- From a call on, every read before the end transfers something, and every
write transfers what was read. -/
def SteadyFrom (start : ℕ) : Prop :=
  ∀ call ≥ start, position frame reads whole call < whole.length →
    0 < reads call ∧
      (piece frame whole (position frame reads whole call) (reads call)).length ≤
        writes call

/-- No transfer before the end falls short. -/
def Steady : Prop := SteadyFrom frame reads writes whole 0

end

variable {frame : ℕ} {reads writes : ℕ → ℕ} {whole : List α}

theorem length_piece (start amount : ℕ) :
    (piece frame whole start amount).length =
      min (min amount frame) (whole.length - start) := by
  rw [piece, List.length_take, List.length_drop]

/-- A piece is put behind what was read before it. -/
theorem take_append_piece (start amount : ℕ) :
    whole.take start ++ piece frame whole start amount =
      whole.take (start + (piece frame whole start amount).length) := by
  rw [List.take_add, length_piece, piece]
  congr 1
  rw [← List.length_drop]
  exact List.take_eq_take_min

theorem position_le (call : ℕ) : position frame reads whole call ≤ whole.length := by
  induction call with
  | zero => exact Nat.zero_le _
  | succ call ih =>
      rw [position, length_piece]
      omega

theorem position_mono {call later : ℕ} (hle : call ≤ later) :
    position frame reads whole call ≤ position frame reads whole later := by
  induction later, hle using Nat.le_induction with
  | base => exact le_rfl
  | succ later _ ih => exact ih.trans (Nat.le_add_right _ _)

/-- After the end no call counts. -/
theorem steadyFrom_of_end {start : ℕ}
    (hend : position frame reads whole start = whole.length) :
    SteadyFrom frame reads writes whole start := by
  intro call hcall hbefore
  have hmono := @position_mono α frame reads whole start call hcall
  omega

theorem steadyFrom_iff {start : ℕ}
    (hbefore : position frame reads whole start < whole.length) :
    SteadyFrom frame reads writes whole start ↔
      (0 < reads start ∧
        (piece frame whole (position frame reads whole start) (reads start)).length ≤
          writes start) ∧
        SteadyFrom frame reads writes whole (start + 1) := by
  constructor
  · intro hsteady
    exact ⟨hsteady start le_rfl hbefore, fun call hcall => hsteady call (by omega)⟩
  · rintro ⟨hstart, hrest⟩ call hcall
    rcases Nat.eq_or_lt_of_le hcall with rfl | hlater
    · exact fun _ => hstart
    · exact hrest call hlater

end Transfers
