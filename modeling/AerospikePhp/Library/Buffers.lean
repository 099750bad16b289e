import Mathlib.Data.List.TakeWhile
import Mathlib.Tactic

/-!
# Buffers of a fixed size

A region of memory of a fixed size, read and written as C does, with the
functions of `string.h` over it.  An access outside the region has no result.
A text in a buffer ends at the first occurrence of a terminator.
-/

namespace Buffers

variable {α : Type*}

/-- Store the bytes from an index on. -/
def write (buffer : List α) (start : ℤ) (bytes : List α) : Option (List α) :=
  if 0 ≤ start ∧ start + bytes.length ≤ buffer.length then
    some (buffer.take start.toNat ++ bytes ++ buffer.drop (start.toNat + bytes.length))
  else none

def read (buffer : List α) (index : ℤ) : Option α :=
  if 0 ≤ index then buffer[index.toNat]? else none

theorem write_eq_none_iff {buffer bytes : List α} {start : ℤ} :
    write buffer start bytes = none ↔
      ¬ (0 ≤ start ∧ start + bytes.length ≤ buffer.length) := by
  unfold write
  split <;> simp_all

theorem write_nat {buffer bytes : List α} {start : ℕ}
    (hfits : start + bytes.length ≤ buffer.length) :
    write buffer start bytes =
      some (buffer.take start ++ bytes ++ buffer.drop (start + bytes.length)) := by
  unfold write
  rw [if_pos ⟨by omega, by omega⟩]
  rfl

/-- A write keeps the size of the buffer. -/
theorem length_write {buffer bytes written : List α} {start : ℤ}
    (hwrite : write buffer start bytes = some written) :
    written.length = buffer.length := by
  unfold write at hwrite
  split at hwrite
  · next hfits =>
      obtain rfl := Option.some.inj hwrite
      simp only [List.length_append, List.length_take, List.length_drop]
      omega
  · cases hwrite

/-- The bytes that were stored stand behind the ones before them. -/
theorem take_write {buffer bytes written : List α} {start : ℕ}
    (hwrite : write buffer start bytes = some written) :
    written.take (start + bytes.length) = buffer.take start ++ bytes := by
  by_cases hfits : start + bytes.length ≤ buffer.length
  · rw [write_nat hfits] at hwrite
    obtain rfl := Option.some.inj hwrite
    refine List.take_left' ?_
    rw [List.length_append, List.length_take]
    omega
  · have hnone : write buffer (start : ℤ) bytes = none := by
      rw [write_eq_none_iff]
      omega
    rw [hnone] at hwrite
    cases hwrite

/-! ## Texts -/

/-- `strncpy` of a text, which is padded up to the size with terminators. -/
def strncpy (nul : α) (buffer source : List α) (size : ℕ) : Option (List α) :=
  write buffer 0 (source.take size ++ List.replicate (size - source.length) nul)

theorem length_padded (nul : α) (source : List α) (size : ℕ) :
    (source.take size ++ List.replicate (size - source.length) nul).length = size := by
  rw [List.length_append, List.length_take, List.length_replicate]
  omega

theorem strncpy_eq_none {nul : α} {buffer source : List α} {size : ℕ}
    (hlong : buffer.length < size) : strncpy nul buffer source size = none := by
  rw [strncpy, write_eq_none_iff, length_padded]
  omega

/-- Copying at most as many bytes as the source has copies its beginning. -/
theorem strncpy_of_le {nul : α} {buffer source : List α} {size : ℕ}
    (hsource : size ≤ source.length) (hfits : size ≤ buffer.length) :
    strncpy nul buffer source size = some (source.take size ++ buffer.drop size) := by
  have hlength : (source.take size).length = size := List.length_take_of_le hsource
  rw [strncpy, Nat.sub_eq_zero_of_le hsource, List.replicate_zero, List.append_nil]
  have hwrite := @write_nat α buffer (source.take size) 0 (by omega)
  rw [List.take_zero, List.nil_append, hlength, Nat.zero_add] at hwrite
  exact hwrite

/-- `memcpy` of the beginning of a source. -/
def memcpy (buffer : List α) (start : ℤ) (source : List α) (size : ℕ) :
    Option (List α) :=
  if size ≤ source.length then write buffer start (source.take size) else none

theorem memcpy_eq_none {buffer source : List α} {start : ℤ} {size : ℕ}
    (hlong : buffer.length < start + size) : memcpy buffer start source size = none := by
  unfold memcpy
  split
  · next hsize =>
      rw [write_eq_none_iff, List.length_take_of_le hsize]
      omega
  · rfl

/-- A text at the beginning of a buffer that is otherwise blank. -/
def padded (nul : α) (size : ℕ) (before : List α) : List α :=
  before ++ List.replicate (size - before.length) nul

theorem length_padded_of_le {nul : α} {size : ℕ} {before : List α}
    (hle : before.length ≤ size) : (padded nul size before).length = size := by
  rw [padded, List.length_append, List.length_replicate]
  omega

/-- Bytes stored right behind a text make it longer. -/
theorem write_padded {nul : α} {size : ℕ} {before bytes : List α}
    (hfits : before.length + bytes.length ≤ size) :
    write (padded nul size before) before.length bytes =
      some (padded nul size (before ++ bytes)) := by
  have hlength := @length_padded_of_le α nul size before (by omega)
  rw [write_nat (by omega), padded, padded, List.take_left', List.drop_append,
    List.drop_replicate, List.drop_of_length_le (by omega), List.nil_append,
    List.length_append]
  · congr 3
    omega
  · rfl

theorem read_padded {nul : α} {size index : ℕ} {before : List α}
    (hindex : index < before.length) :
    read (padded nul size before) index = before[index]? := by
  unfold read padded
  rw [if_pos (by omega), Int.toNat_natCast, List.getElem?_append_left hindex]

section

variable [DecidableEq α] (nul : α)

/-- The text that a buffer holds from its beginning. -/
def text (buffer : List α) : List α := buffer.takeWhile (· ≠ nul)

/-- `strcat`, which looks for the end of the text that is there. -/
def strcat (buffer source : List α) : Option (List α) :=
  if nul ∈ buffer then write buffer (text nul buffer).length (source ++ [nul])
  else none

variable {nul}

theorem text_append_cons {source rest : List α} (hfree : nul ∉ source) :
    text nul (source ++ nul :: rest) = source := by
  have hall : ∀ c ∈ source, decide (c ≠ nul) = true := by
    intro c hc
    rw [decide_eq_true_eq]
    rintro rfl
    exact hfree hc
  rw [text, List.takeWhile_append_of_pos hall]
  simp

/-- A text with room for its terminator is the text of the buffer. -/
theorem text_padded {size : ℕ} {before : List α} (hroom : before.length < size)
    (hfree : nul ∉ before) :
    nul ∈ padded nul size before ∧ text nul (padded nul size before) = before := by
  obtain ⟨rest, hrest⟩ : ∃ rest, size - before.length = rest + 1 :=
    ⟨size - before.length - 1, by omega⟩
  rw [padded, hrest, List.replicate_succ]
  exact ⟨by simp, text_append_cons hfree⟩

/-- A buffer that holds a text takes another one behind it if and only if there
is room for both and the terminator. -/
theorem strcat_text {buffer before source rest : List α}
    (hbuffer : buffer = before ++ nul :: rest) (hfree : nul ∉ before) :
    strcat nul buffer source =
      if source.length ≤ rest.length then
        some (before ++ source ++ nul :: rest.drop source.length)
      else none := by
  have htext : text nul buffer = before := by rw [hbuffer, text_append_cons hfree]
  have hmem : nul ∈ buffer := by rw [hbuffer]; simp
  have hlength : buffer.length = before.length + 1 + rest.length := by
    rw [hbuffer]
    simp
    omega
  rw [strcat, if_pos hmem, htext]
  by_cases hroom : source.length ≤ rest.length
  · have hfits : before.length + (source ++ [nul]).length ≤ buffer.length := by
      rw [List.length_append, List.length_singleton]
      omega
    rw [if_pos hroom, write_nat hfits, hbuffer]
    simp only [List.length_append, List.length_singleton, List.take_left', ← Nat.add_assoc]
    rw [Nat.add_assoc, List.drop_append]
    simp
  · rw [if_neg hroom, write_eq_none_iff, List.length_append, List.length_singleton]
    omega

/-- Texts are taken one behind the other if and only if there is room for all of
them and the terminator. -/
theorem strcats_text {sources : List (List α)} {before rest : List α}
    (hfree : nul ∉ before) (hsources : ∀ source ∈ sources, nul ∉ source) :
    sources.foldlM (strcat nul) (before ++ nul :: rest) =
      if sources.flatten.length ≤ rest.length then
        some (before ++ sources.flatten ++ nul :: rest.drop sources.flatten.length)
      else none := by
  induction sources generalizing before rest with
  | nil => simp
  | cons source sources ih =>
      rw [List.foldlM_cons, strcat_text rfl hfree, List.flatten_cons, List.length_append]
      by_cases hroom : source.length ≤ rest.length
      · have hfree' : nul ∉ before ++ source := by
          rw [List.mem_append]
          rintro (hmem | hmem)
          · exact hfree hmem
          · exact hsources source List.mem_cons_self hmem
        rw [if_pos hroom]
        refine (ih hfree' fun other hmem =>
          hsources other (List.mem_cons_of_mem _ hmem)).trans ?_
        rw [List.length_drop, List.drop_drop, List.append_assoc before]
        by_cases hmore : sources.flatten.length ≤ rest.length - source.length
        · rw [if_pos hmore, if_pos (by omega)]
        · rw [if_neg hmore, if_neg (by omega)]
      · rw [if_neg hroom, if_neg (by omega)]
        rfl

end

end Buffers
