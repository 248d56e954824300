import ExtUnix.Data.Splice
import Mathlib.Algebra.Ring.Nat

namespace ExtUnix.Data

/-! Flat memory: a cell for every address of a fixed width. -/

abbrev Memory (width : Nat) (α : Type) := BitVec width → α

namespace Memory

variable {width : Nat} {α : Type}

def read (memory : Memory width α) (address : BitVec width) (count : Nat) :
    List α :=
  (List.range count).map fun index => memory (address + BitVec.ofNat width index)

def write (memory : Memory width α) (address : BitVec width)
    (values : List α) : Memory width α := fun cell =>
  values[(cell - address).toNat]?.getD (memory cell)

@[simp] theorem length_read (memory : Memory width α) (address : BitVec width)
    (count : Nat) : (memory.read address count).length = count := by
  simp [read]

theorem getElem?_read (memory : Memory width α) (address : BitVec width)
    (count index : Nat) :
    (memory.read address count)[index]? =
      if index < count then some (memory (address + BitVec.ofNat width index))
      else none := by
  split_ifs with inside
  · simp [read, inside]
  · rw [List.getElem?_eq_none]
    simpa using inside

theorem slice_read (memory : Memory width α) (address offset : BitVec width)
    {count part : Nat} (inside : offset.toNat + part ≤ count) :
    slice (memory.read address count) offset.toNat part =
      memory.read (address + offset) part := by
  apply List.ext_getElem?
  intro index
  rw [getElem?_slice, getElem?_read, getElem?_read]
  split_ifs with within
  · rw [BitVec.ofNat_add, BitVec.ofNat_toNat, BitVec.setWidth_eq,
      BitVec.add_assoc]
  · omega
  · rfl

/-- How far a cell of a range lies behind a place in it, around the end of the
memory if it lies before. -/
theorem toNat_distance (address offset : BitVec width) {index : Nat}
    (bound : index < 2 ^ width) :
    (address + BitVec.ofNat width index - (address + offset)).toNat =
      if offset.toNat ≤ index then index - offset.toNat
      else 2 ^ width + index - offset.toNat := by
  have small := offset.isLt
  have cancelled : address + BitVec.ofNat width index - (address + offset) =
      BitVec.ofNat width index - offset := by
    grind
  rw [cancelled, BitVec.toNat_sub, BitVec.toNat_ofNat, Nat.mod_eq_of_lt bound]
  split_ifs with after
  · rw [show 2 ^ width - offset.toNat + index =
      index - offset.toNat + 2 ^ width by omega, Nat.add_mod_right]
    exact Nat.mod_eq_of_lt (by omega)
  · rw [Nat.mod_eq_of_lt (by omega)]
    omega

theorem read_write (memory : Memory width α) (address offset : BitVec width)
    {values : List α} {count : Nat} (fits : count ≤ 2 ^ width)
    (inside : offset.toNat + values.length ≤ count) :
    (memory.write (address + offset) values).read address count =
      splice (memory.read address count) offset.toNat values := by
  have covered : offset.toNat + values.length ≤
      (memory.read address count).length := by
    simpa using inside
  apply List.ext_getElem?
  intro index
  rw [getElem?_splice covered, getElem?_read, getElem?_read]
  by_cases within : index < count
  · rw [if_pos within, if_pos within, write,
      toNat_distance address offset (by omega)]
    by_cases written : offset.toNat ≤ index ∧
        index < offset.toNat + values.length
    · rw [if_pos written, if_pos written.1,
        List.getElem?_eq_getElem (by omega)]
      rfl
    · rw [if_neg written, List.getElem?_eq_none]
      · rfl
      · split_ifs <;> omega
  · rw [if_neg within, if_neg within, if_neg (by omega)]

theorem read_write_self (memory : Memory width α) (address : BitVec width)
    {values : List α} (fits : values.length ≤ 2 ^ width) :
    (memory.write address values).read address values.length = values := by
  apply List.ext_getElem?
  intro index
  rw [getElem?_read]
  split_ifs with within
  · have distance : (address + BitVec.ofNat width index - address).toNat =
        index := by
      have cancelled : address + BitVec.ofNat width index - address =
          BitVec.ofNat width index := by
        grind
      rw [cancelled, BitVec.toNat_ofNat, Nat.mod_eq_of_lt (by omega)]
    rw [write, distance, List.getElem?_eq_getElem within]
    rfl
  · rw [List.getElem?_eq_none (by omega)]

theorem write_cell (memory : Memory width α) (address offset cell : BitVec width)
    {values : List α} (fits : offset.toNat + values.length ≤ 2 ^ width) :
    memory.write (address + offset) values cell =
      (if offset.toNat ≤ (cell - address).toNat then
        values[(cell - address).toNat - offset.toNat]? else none).getD
          (memory cell) := by
  have reached : cell =
      address + BitVec.ofNat width (cell - address).toNat := by
    rw [BitVec.ofNat_toNat, BitVec.setWidth_eq]
    grind
  have distance : (cell - (address + offset)).toNat =
      if offset.toNat ≤ (cell - address).toNat then
        (cell - address).toNat - offset.toNat
      else 2 ^ width + (cell - address).toNat - offset.toNat := by
    conv_lhs => rw [reached]
    rw [toNat_distance address offset (cell - address).isLt]
  rw [write, distance]
  split_ifs with behind
  · rfl
  · rw [List.getElem?_eq_none (by omega)]

theorem write_outside (memory : Memory width α) (address offset : BitVec width)
    {values : List α} {cell : BitVec width}
    (outside : offset.toNat + values.length ≤ (cell - address).toNat) :
    memory.write (address + offset) values cell = memory cell := by
  have bound := (cell - address).isLt
  rw [write_cell memory address offset cell (by omega), if_pos (by omega),
    List.getElem?_eq_none (by omega), Option.getD_none]

theorem write_append (memory : Memory width α) (address : BitVec width)
    (first second : List α)
    (fits : first.length + second.length ≤ 2 ^ width)
    (small : first.length < 2 ^ width) :
    (memory.write address first).write
        (address + BitVec.ofNat width first.length) second =
      memory.write address (first ++ second) ∧
    (memory.write (address + BitVec.ofNat width first.length) second).write
        address first =
      memory.write address (first ++ second) := by
  have offset : (BitVec.ofNat width first.length).toNat = first.length := by
    rw [BitVec.toNat_ofNat, Nat.mod_eq_of_lt small]
  have behind (memory : Memory width α) (cell : BitVec width) :
      memory.write (address + BitVec.ofNat width first.length) second cell =
        (if first.length ≤ (cell - address).toNat then
          second[(cell - address).toNat - first.length]? else none).getD
            (memory cell) := by
    rw [write_cell memory address _ cell (by omega), offset]
  have appended (cell : BitVec width) :
      (first ++ second)[(cell - address).toNat]? =
        if (cell - address).toNat < first.length then
          first[(cell - address).toNat]?
        else second[(cell - address).toNat - first.length]? :=
    List.getElem?_append
  constructor <;> funext cell
  · rw [behind, write, write, appended]
    by_cases within : (cell - address).toNat < first.length
    · rw [if_neg (by omega), if_pos within, Option.getD_none]
    · rw [if_pos (by omega), if_neg within,
        List.getElem?_eq_none (by omega : first.length ≤ _), Option.getD_none]
  · rw [write, behind, write, appended]
    by_cases within : (cell - address).toNat < first.length
    · rw [if_neg (by omega), if_pos within, Option.getD_none]
    · rw [if_pos (by omega), if_neg within,
        List.getElem?_eq_none (by omega : first.length ≤ _), Option.getD_none]

theorem read_append (memory : Memory width α) (address : BitVec width)
    (first second : Nat) :
    memory.read address (first + second) =
      memory.read address first ++
        memory.read (address + BitVec.ofNat width first) second := by
  rw [read, List.range_add, List.map_append, List.map_map]
  congr 1
  apply List.map_congr_left
  intro index _
  rw [Function.comp_apply, BitVec.ofNat_add, BitVec.add_assoc]

end Memory

end ExtUnix.Data
