import Mathlib.Data.List.Basic
import Mathlib.Tactic.Common

namespace ExtUnix.Data

/-! Masks: words read as sets of bits. -/

variable {width : Nat}

def union (words : List (BitVec width)) : BitVec width :=
  words.foldr (· ||| ·) 0

@[simp] theorem union_nil : union ([] : List (BitVec width)) = 0 := rfl

@[simp] theorem union_cons (word : BitVec width) (words : List (BitVec width)) :
    union (word :: words) = word ||| union words := rfl

theorem union_append (first second : List (BitVec width)) :
    union (first ++ second) = union first ||| union second := by
  induction first with
  | nil => exact BitVec.zero_or.symm
  | cons word rest induction =>
      rw [List.cons_append, union_cons, union_cons, induction, BitVec.or_assoc]

theorem signExtend_union (words : List (BitVec width)) (wider : Nat) :
    (union words).signExtend wider =
      union (words.map fun word => word.signExtend wider) := by
  induction words with
  | nil => simp [BitVec.signExtend]
  | cons word rest induction =>
      rw [union_cons, List.map_cons, union_cons, BitVec.signExtend_or,
        induction]

theorem foldl_or (value : α → BitVec width) (flags : List α)
    (res : BitVec width) :
    flags.foldl (fun res flag => res ||| value flag) res =
      res ||| union (flags.map value) := by
  induction flags generalizing res with
  | nil => simp
  | cons flag rest induction =>
      rw [List.foldl_cons, induction, List.map_cons, union_cons,
        BitVec.or_assoc]

theorem getLsbD_union (words : List (BitVec width)) (index : Nat) :
    (union words).getLsbD index = words.any (·.getLsbD index) := by
  induction words with
  | nil => simp
  | cons word rest induction =>
      rw [union_cons, BitVec.getLsbD_or, induction, List.any_cons]

theorem union_ext {first second : List (BitVec width)}
    (same : ∀ index, (∃ word ∈ first, word.getLsbD index = true) ↔
      ∃ word ∈ second, word.getLsbD index = true) :
    union first = union second := by
  apply BitVec.eq_of_getLsbD_eq
  intro index _
  rw [getLsbD_union, getLsbD_union, Bool.eq_iff_iff, List.any_eq_true,
    List.any_eq_true]
  exact same index

theorem union_eq_zero_iff (words : List (BitVec width)) :
    union words = 0 ↔ ∀ word ∈ words, word = 0 := by
  induction words with
  | nil => simp
  | cons word rest induction =>
      rw [union_cons, List.forall_mem_cons, ← induction]
      exact BitVec.or_eq_zero_iff

theorem twoPow_ne_zero {index : Nat} (bound : index < width) :
    BitVec.twoPow width index ≠ 0 := by
  intro zero
  have bit := congrArg (·.getLsbD index) zero
  simp [bound] at bit

theorem twoPow_and_eq_self_iff {index : Nat} (bound : index < width)
    (word : BitVec width) :
    BitVec.twoPow width index &&& word = BitVec.twoPow width index ↔
      word.getLsbD index = true := by
  rw [BitVec.twoPow_and]
  split_ifs with isSet
  · exact iff_of_true rfl isSet
  · exact iff_of_false (twoPow_ne_zero bound).symm isSet

theorem union_and (words : List (BitVec width)) (mask : BitVec width) :
    union words &&& mask = union (words.map (· &&& mask)) := by
  induction words with
  | nil => simp
  | cons word rest induction =>
      rw [union_cons, List.map_cons, union_cons, BitVec.and_or_distrib_right,
        induction]

theorem union_map [DecidableEq α] (value : α → BitVec width) (flags : List α)
    {all : List α} (complete : ∀ flag, flag ∈ all) :
    union (flags.map value) =
      union (all.map fun flag => if flag ∈ flags then value flag else 0) := by
  apply union_ext
  intro index
  simp only [List.mem_map, exists_exists_and_eq_and]
  constructor
  · rintro ⟨flag, member, bit⟩
    exact ⟨flag, complete flag, by rwa [if_pos member]⟩
  · rintro ⟨flag, -, bit⟩
    by_cases member : flag ∈ flags
    · rw [if_pos member] at bit
      exact ⟨flag, member, bit⟩
    · simp [if_neg member] at bit

theorem union_filter (value : α → BitVec width) (kept : α → Bool)
    (flags : List α) :
    union ((flags.filter kept).map value) =
      union (flags.map fun flag => if kept flag then value flag else 0) := by
  induction flags with
  | nil => rfl
  | cons flag rest induction =>
      rw [List.filter_cons, List.map_cons, union_cons, ← induction]
      split_ifs with isKept
      · rfl
      · simp

end ExtUnix.Data
