import Mathlib.Data.List.Basic
import Mathlib.Tactic.Common

namespace ExtUnix.Data

/-! Numbered slots, each empty or with a value.  A value goes to the lowest
empty slot, and there is always one at the end. -/

abbrev Slots (α : Type) := List (Option α)

namespace Slots

variable {α : Type}

def lookup (slots : Slots α) (index : Nat) : Option α := slots[index]?.join

def insert (value : α) : Slots α → Nat × Slots α
  | [] => (0, [some value])
  | none :: rest => (0, some value :: rest)
  | some other :: rest =>
      let (index, inserted) := insert value rest
      (index + 1, some other :: inserted)

def remove (slots : Slots α) (index : Nat) : Slots α := slots.set index none

@[simp] theorem lookup_cons_zero (slot : Option α) (rest : Slots α) :
    lookup (slot :: rest) 0 = slot := rfl

@[simp] theorem lookup_cons_succ (slot : Option α) (rest : Slots α)
    (index : Nat) : lookup (slot :: rest) (index + 1) = lookup rest index := rfl

@[simp] theorem insert_some (value other : α) (rest : Slots α) :
    insert value (some other :: rest) =
      ((insert value rest).1 + 1, some other :: (insert value rest).2) := rfl

theorem lookup_insert_fst (value : α) (slots : Slots α) :
    lookup slots (insert value slots).1 = none := by
  induction slots with
  | nil => rfl
  | cons slot rest induction =>
      cases slot with
      | none => rfl
      | some other => exact induction

theorem lookup_insert (value : α) (slots : Slots α) (index : Nat) :
    lookup (insert value slots).2 index =
      if index = (insert value slots).1 then some value
      else lookup slots index := by
  induction slots generalizing index with
  | nil => cases index <;> rfl
  | cons slot rest induction =>
      cases slot with
      | none => cases index <;> rfl
      | some other =>
          cases index with
          | zero => rfl
          | succ index => simp [induction]

theorem lookup_remove (slots : Slots α) (index other : Nat) :
    lookup (remove slots index) other =
      if other = index then none else lookup slots other := by
  rw [lookup, lookup, remove, List.getElem?_set]
  by_cases same : index = other
  · subst same
    rw [if_pos rfl, if_pos rfl]
    split_ifs <;> rfl
  · rw [if_neg same, if_neg (Ne.symm same)]

theorem lookup_remove_insert (value : α) (slots : Slots α) (index : Nat) :
    lookup (remove (insert value slots).2 (insert value slots).1) index =
      lookup slots index := by
  rw [lookup_remove, lookup_insert]
  split_ifs with same
  · rw [same, lookup_insert_fst]
  · rfl

end Slots

end ExtUnix.Data
