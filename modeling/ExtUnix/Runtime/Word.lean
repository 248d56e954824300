import ExtUnix.Data.Splice
import Mathlib.Algebra.Ring.Int.Defs
import Mathlib.Algebra.Ring.Nat

namespace ExtUnix.Runtime

open ExtUnix.Data

/-! Machine words of a 64-bit platform and their OCaml representation.  The C
types `intnat`, `size_t` and `off_t` are all `BitVec 64`. -/

/-- An OCaml `int`: 63 bits, two's complement. -/
abbrev CamlInt := BitVec 63

/-- `Long_val`: untagging sign-extends to the machine word. -/
def longVal (value : CamlInt) : BitVec 64 := value.signExtend 64

/-- `Val_long`: tagging shifts left, which drops the top bit. -/
def valLong (word : BitVec 64) : CamlInt := word.setWidth 63

/-- `Int_val`: the untagged word converted to a C `int`. -/
def intVal (value : CamlInt) : BitVec 32 := (longVal value).setWidth 32

def int64OfInt (value : CamlInt) : BitVec 64 := value.signExtend 64

theorem toInt_longVal (value : CamlInt) : (longVal value).toInt = value.toInt :=
  BitVec.toInt_signExtend_of_le (by decide)

theorem toInt_int64OfInt (value : CamlInt) :
    (int64OfInt value).toInt = value.toInt :=
  BitVec.toInt_signExtend_of_le (by decide)

theorem toInt_lt (value : CamlInt) : value.toInt < 2 ^ 62 := by
  simpa using value.toInt_lt

theorem toNat_eq_of_toInt_nonneg {width : Nat} {word : BitVec width}
    (nonneg : 0 ≤ word.toInt) : (word.toNat : Int) = word.toInt := by
  rw [BitVec.toInt_eq_toNat_cond] at nonneg ⊢
  have := word.isLt
  split_ifs at nonneg ⊢ <;> omega

theorem toNat_longVal {value : CamlInt} (nonneg : 0 ≤ value.toInt) :
    ((longVal value).toNat : Int) = value.toInt := by
  rw [← toInt_longVal] at nonneg ⊢
  exact toNat_eq_of_toInt_nonneg nonneg

theorem toInt_ofNat_of_lt {count : Nat} (bound : count < 2 ^ 62) :
    (BitVec.ofNat 63 count).toInt = count := by
  rw [BitVec.toInt_eq_toNat_cond, BitVec.toNat_ofNat]
  have small : count % 2 ^ 63 = count := Nat.mod_eq_of_lt (by omega)
  rw [small, if_pos (by omega)]

theorem toInt_ofNat_sub {count : Nat} (bound : count < 2 ^ 62) {len : CamlInt}
    (nonneg : 0 ≤ len.toInt) :
    (BitVec.ofNat 63 count - len).toInt = count - len.toInt := by
  have lenBound := toInt_lt len
  rw [BitVec.toInt_sub, toInt_ofNat_of_lt bound, Int.bmod_eq_of_le] <;> omega

theorem valLong_eq_ofNat (word : BitVec 64) :
    valLong word = BitVec.ofNat 63 word.toNat := by
  apply BitVec.eq_of_toNat_eq
  simp [valLong]

theorem slt_zero_iff {width : Nat} (word : BitVec width) :
    word.slt 0 = true ↔ word.toInt < 0 := by
  rw [BitVec.slt_iff_toInt_lt]
  simp

/-- The bytes of an OCaml `Bytes.t`, `string` or one-dimensional bigarray.
Its size is a non-negative OCaml `int`. -/
structure Buffer where
  data : List UInt8
  size_lt : data.length < 2 ^ 62
  deriving DecidableEq

namespace Buffer

@[ext] theorem ext {first second : Buffer} (equal : first.data = second.data) :
    first = second := by
  cases first
  cases second
  cases equal
  rfl

def length (buffer : Buffer) : CamlInt := BitVec.ofNat 63 buffer.data.length

theorem toInt_length (buffer : Buffer) :
    buffer.length.toInt = buffer.data.length :=
  toInt_ofNat_of_lt buffer.size_lt

theorem toInt_length_sub (buffer : Buffer) {len : CamlInt}
    (nonneg : 0 ≤ len.toInt) :
    (buffer.length - len).toInt = buffer.data.length - len.toInt :=
  toInt_ofNat_sub buffer.size_lt nonneg

end Buffer

/-- `memcpy(dest, &Byte(buf, pos), count)`. -/
def load (buf : Buffer) (pos : BitVec 64) (count : Nat) :
    Option (List UInt8) :=
  if pos.toNat + count ≤ buf.data.length then
    some (slice buf.data pos.toNat count)
  else none

/-- `memcpy(&Byte(buf, pos), bytes, count)`. -/
def store (buf : Buffer) (pos : BitVec 64) (bytes : List UInt8) :
    Option Buffer :=
  if inside : pos.toNat + bytes.length ≤ buf.data.length then
    some ⟨splice buf.data pos.toNat bytes, by
      rw [length_splice inside]
      exact buf.size_lt⟩
  else none

theorem load_of_le {buf : Buffer} {pos : BitVec 64} {count : Nat}
    (inside : pos.toNat + count ≤ buf.data.length) :
    load buf pos count = some (slice buf.data pos.toNat count) :=
  if_pos inside

theorem store_of_le {buf : Buffer} {pos : BitVec 64} {bytes : List UInt8}
    (inside : pos.toNat + bytes.length ≤ buf.data.length) :
    ∃ stored, store buf pos bytes = some stored ∧
      stored.data = splice buf.data pos.toNat bytes := by
  exact ⟨_, dif_pos inside, rfl⟩

end ExtUnix.Runtime
