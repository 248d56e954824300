import ExtUnix.Data.Mask
import ExtUnix.Runtime.Word
import Mathlib.Data.List.TakeWhile

namespace ExtUnix.Runtime

open ExtUnix.Data

/-! What the stubs share: strings, flags, errors. -/

/-- `caml_stat_strdup(String_val(str))`: the copy ends at the first null byte. -/
def statStrdup (str : List UInt8) : List UInt8 :=
  str.takeWhile fun byte => byte ≠ 0

/-- What C reads at `String_val(str)`. -/
def stringVal (str : List UInt8) : List UInt8 :=
  str.takeWhile fun byte => byte ≠ 0

theorem statStrdup_eq_self_iff (str : List UInt8) :
    statStrdup str = str ↔ 0 ∉ str := by
  rw [statStrdup, List.takeWhile_eq_self_iff]
  simp only [decide_eq_true_eq]
  exact ⟨fun nonzero zero => nonzero 0 zero rfl,
    fun absent byte member zero => absent (zero ▸ member)⟩

theorem toInt_intVal (value : CamlInt) :
    (intVal value).toInt = value.toInt.bmod (2 ^ 32) := by
  rw [intVal, ← BitVec.signExtend_eq_setWidth_of_le _ (by decide),
    BitVec.toInt_signExtend_eq_toInt_bmod_of_le _ (by decide), toInt_longVal]

def valInt (word : BitVec 32) : CamlInt := word.signExtend 63

theorem intVal_valInt (word : BitVec 32) : intVal (valInt word) = word := by
  apply BitVec.eq_of_toInt_eq
  rw [toInt_intVal, valInt, BitVec.toInt_signExtend_of_le (by decide)]
  exact Int.bmod_eq_of_le (by simpa using word.le_toInt)
    (by simpa using word.toInt_lt)

/-- A C `int` assigned to a `size_t` or a `loff_t`. -/
def widen (word : BitVec 32) : BitVec 64 := word.signExtend 64

theorem toInt_widen (word : BitVec 32) : (widen word).toInt = word.toInt :=
  BitVec.toInt_signExtend_of_le (by decide)

theorem widen_intVal_iff (value : CamlInt) :
    widen (intVal value) = longVal value ↔
      -2 ^ 31 ≤ value.toInt ∧ value.toInt < 2 ^ 31 := by
  rw [← BitVec.toInt_inj, toInt_widen, toInt_longVal]
  constructor
  · intro same
    rw [← same]
    exact ⟨by simpa using (intVal value).le_toInt,
      by simpa using (intVal value).toInt_lt⟩
  · rintro ⟨lower, upper⟩
    rw [toInt_intVal]
    exact Int.bmod_eq_of_le (by simpa using lower) (by simpa using upper)

/-- `caml_convert_flag_list`.  A constructor without arguments is its position
in the type; `none` is a read outside the table. -/
def convertFlagList (table : List (BitVec 32)) (list : List Nat) :
    Option (BitVec 32) :=
  list.foldlM (fun res tag => table[tag]?.map (res ||| ·)) 0

theorem foldlM_flags {table : List (BitVec 32)} {tag : α → Nat}
    {value : α → BitVec 32} (listed : ∀ flag, table[tag flag]? = some (value flag))
    (flags : List α) (res : BitVec 32) :
    (flags.map tag).foldlM (fun res tag => table[tag]?.map (res ||| ·)) res =
      some (res ||| union (flags.map value)) := by
  induction flags generalizing res with
  | nil => simp
  | cons flag rest induction =>
      rw [List.map_cons, List.foldlM_cons, listed]
      simp only [Option.map_some, Option.bind_eq_bind, Option.bind_some]
      rw [induction, List.map_cons, union_cons, BitVec.or_assoc]

theorem convertFlagList_map {table : List (BitVec 32)} {tag : α → Nat}
    {value : α → BitVec 32} (listed : ∀ flag, table[tag flag]? = some (value flag))
    (flags : List α) :
    convertFlagList table (flags.map tag) = some (union (flags.map value)) := by
  rw [convertFlagList, foldlM_flags listed]
  exact congrArg some BitVec.zero_or

abbrev Errno := BitVec 32

inductive Outcome (α : Type) where
  | returned (value : α)
  | unixError (errno : Errno) (function : String) (argument : List UInt8)
  | invalidArgument (message : String)
  | notAvailable (name : String)
  | crashed
  deriving DecidableEq

def Outcome.map (f : α → β) : Outcome α → Outcome β
  | .returned value => .returned (f value)
  | .unixError errno function argument => .unixError errno function argument
  | .invalidArgument message => .invalidArgument message
  | .notAvailable name => .notAvailable name
  | .crashed => .crashed

/-- `if (ret != 0) caml_uerror(function, argument)`. -/
def uerror (function : String) (argument : List UInt8) :
    Except Errno α → Outcome α
  | .error errno => .unixError errno function argument
  | .ok value => .returned value

inductive Event (Call : Type) where
  | strdup (copy : List UInt8)
  | free (copy : List UInt8)
  | call (request : Call)
  deriving DecidableEq

def calls (events : List (Event Call)) : List Call :=
  events.filterMap fun
    | .call request => some request
    | _ => none

abbrev Trace (Call α : Type) := List (Event Call) × Outcome α

/-- A stub that copies its strings, makes one call and frees the copies. -/
def copying (copies : List (List UInt8)) (call : Call)
    (freed : List (List UInt8)) (outcome : Outcome α) : Trace Call α :=
  (copies.map .strdup ++ .call call :: freed.map .free, outcome)

@[simp] theorem calls_copying (copies : List (List UInt8)) (call : Call)
    (freed : List (List UInt8)) (outcome : Outcome α) :
    calls (copying copies call freed outcome).1 = [call] := by
  rw [copying, calls, List.filterMap_append, List.filterMap_cons]
  simp [List.filterMap_map]

end ExtUnix.Runtime
