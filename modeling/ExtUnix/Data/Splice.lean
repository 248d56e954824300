import Mathlib.Data.List.Basic
import Mathlib.Tactic.Common

namespace ExtUnix.Data

/-! Reading and overwriting a contiguous range of a list. -/

def slice (values : List α) (position count : Nat) : List α :=
  (values.drop position).take count

def splice (values : List α) (position : Nat) (piece : List α) : List α :=
  values.take position ++ piece ++ values.drop (position + piece.length)

@[simp] theorem slice_zero (values : List α) (position : Nat) :
    slice values position 0 = [] := by
  simp [slice]

theorem length_slice_eq_min (values : List α) (position count : Nat) :
    (slice values position count).length =
      min count (values.length - position) := by
  rw [slice, List.length_take, List.length_drop]

theorem length_slice (values : List α) {position count : Nat}
    (inside : position + count ≤ values.length) :
    (slice values position count).length = count := by
  rw [length_slice_eq_min]
  omega

theorem slice_append (values : List α) (position first second : Nat) :
    slice values position (first + second) =
      slice values position first ++ slice values (position + first) second := by
  simp only [slice, ← List.drop_drop, List.take_add]

theorem getElem?_slice (values : List α) (position count index : Nat) :
    (slice values position count)[index]? =
      if index < count then values[position + index]? else none := by
  simp only [slice, List.getElem?_take, List.getElem?_drop]

theorem slice_congr {values others : List α} {position count : Nat}
    (agree : ∀ index, position ≤ index → index < position + count →
      values[index]? = others[index]?) :
    slice values position count = slice others position count := by
  apply List.ext_getElem?
  intro index
  rw [getElem?_slice, getElem?_slice]
  by_cases within : index < count
  · rw [if_pos within, if_pos within, agree _ (by omega) (by omega)]
  · rw [if_neg within, if_neg within]

theorem flatten_eq_slice {values : List α} {position : Nat}
    {pieces : List (List α)}
    (consecutive : ∀ (index : Nat) piece, pieces[index]? = some piece →
      piece = slice values
        (position + (pieces.take index).flatten.length) piece.length) :
    pieces.flatten = slice values position pieces.flatten.length := by
  induction pieces generalizing position with
  | nil => simp
  | cons piece rest induction =>
      have head := consecutive 0 piece rfl
      have tail := @induction (position + piece.length) fun index later found => by
        have shifted := consecutive (index + 1) later found
        simpa [Nat.add_assoc] using shifted
      simp only [List.take_zero, List.flatten_nil, List.length_nil,
        Nat.add_zero] at head
      rw [List.flatten_cons, List.length_append, slice_append, ← head, ← tail]

@[simp] theorem splice_nil (values : List α) (position : Nat) :
    splice values position [] = values := by
  simp [splice]

theorem length_splice {values piece : List α} {position : Nat}
    (inside : position + piece.length ≤ values.length) :
    (splice values position piece).length = values.length := by
  simp only [splice, List.length_append, List.length_take, List.length_drop]
  omega

theorem getElem?_splice {values piece : List α} {position : Nat}
    (inside : position + piece.length ≤ values.length) (index : Nat) :
    (splice values position piece)[index]? =
      if position ≤ index ∧ index < position + piece.length then
        piece[index - position]?
      else values[index]? := by
  have taken : (values.take position).length = position := by
    simp only [List.length_take]
    omega
  by_cases before : index < position
  · rw [if_neg (by omega), splice, List.append_assoc,
      List.getElem?_append_left (by omega), List.getElem?_take_of_lt before]
  · rw [splice, List.append_assoc,
      List.getElem?_append_right (by omega), taken]
    by_cases within : index < position + piece.length
    · rw [if_pos ⟨by omega, within⟩, List.getElem?_append_left (by omega)]
    · rw [if_neg (by omega), List.getElem?_append_right (by omega),
        List.getElem?_drop]
      congr 1
      omega

theorem splice_append {values first second : List α} {position : Nat}
    (inside : position + first.length + second.length ≤ values.length) :
    splice (splice values position first) (position + first.length) second =
      splice values position (first ++ second) := by
  have fits : position + first.length ≤ values.length := by omega
  have width := length_splice fits
  apply List.ext_getElem?
  intro index
  rw [getElem?_splice (by omega), getElem?_splice fits,
    getElem?_splice (by simp only [List.length_append]; omega)]
  simp only [List.length_append, List.getElem?_append]
  split_ifs <;> first | rfl | omega | (congr 1; omega)

theorem slice_splice_self {values piece : List α} {position : Nat}
    (inside : position + piece.length ≤ values.length) :
    slice (splice values position piece) position piece.length = piece := by
  apply List.ext_getElem?
  intro index
  rw [getElem?_slice, getElem?_splice inside]
  by_cases within : index < piece.length
  · rw [if_pos within, if_pos ⟨by omega, by omega⟩]
    congr 1
    omega
  · rw [if_neg within, List.getElem?_eq_none (by omega)]

theorem slice_splice_disjoint {values piece : List α}
    {position start width : Nat}
    (inside : position + piece.length ≤ values.length)
    (disjoint : start + width ≤ position ∨
      position + piece.length ≤ start) :
    slice (splice values position piece) start width =
      slice values start width := by
  apply List.ext_getElem?
  intro index
  rw [getElem?_slice, getElem?_slice, getElem?_splice inside]
  by_cases within : index < width
  · rw [if_pos within, if_pos within, if_neg (by omega)]
  · rw [if_neg within, if_neg within]

theorem slice_splice_prefix {values piece : List α} {position width : Nat}
    (inside : position + width ≤ values.length)
    (short : piece.length ≤ width) :
    slice (splice values position piece) position width =
      piece ++ (slice values position width).drop piece.length := by
  obtain ⟨rest, rfl⟩ := Nat.exists_eq_add_of_le short
  have covered : (slice values position piece.length).length = piece.length :=
    length_slice values (by omega)
  rw [slice_append, slice_splice_self (by omega),
    slice_splice_disjoint (by omega) (.inr (Nat.le_refl _)), slice_append,
    List.drop_append_of_le_length (by omega),
    List.drop_eq_nil_of_le (by omega), List.nil_append]

end ExtUnix.Data
