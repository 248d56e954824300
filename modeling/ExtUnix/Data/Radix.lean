import Mathlib.Data.Nat.Digits.Defs
import Mathlib.Tactic.Common

namespace ExtUnix.Data

/-! Natural numbers as fixed numbers of bytes, in either order. -/

inductive ByteOrder where
  | big
  | little
  deriving DecidableEq, Repr

/-- The digits of `value` in base 256, least significant first. -/
def byteDigits : Nat → Nat → List UInt8
  | 0, _ => []
  | count + 1, value => UInt8.ofNat value :: byteDigits count (value / 256)

def byteValue (bytes : List UInt8) : Nat :=
  Nat.ofDigits 256 (bytes.map UInt8.toNat)

@[simp] theorem length_byteDigits (count value : Nat) :
    (byteDigits count value).length = count := by
  induction count generalizing value with
  | zero => rfl
  | succ count induction => simp [byteDigits, induction]

@[simp] theorem byteValue_cons (byte : UInt8) (bytes : List UInt8) :
    byteValue (byte :: bytes) = byte.toNat + 256 * byteValue bytes := by
  simp [byteValue, Nat.ofDigits_cons]

theorem byteValue_lt (bytes : List UInt8) :
    byteValue bytes < 256 ^ bytes.length := by
  induction bytes with
  | nil => simp [byteValue]
  | cons byte bytes induction =>
      have digit := byte.toNat_lt
      rw [byteValue_cons, List.length_cons, Nat.pow_succ]
      omega

theorem byteValue_byteDigits (count value : Nat) :
    byteValue (byteDigits count value) = value % 256 ^ count := by
  induction count generalizing value with
  | zero => simp [byteDigits, byteValue, Nat.mod_one]
  | succ count induction =>
      rw [byteDigits, byteValue_cons, induction, Nat.pow_succ, Nat.mul_comm _ 256,
        Nat.mod_mul]
      simp

theorem byteDigits_byteValue (bytes : List UInt8) :
    byteDigits bytes.length (byteValue bytes) = bytes := by
  induction bytes with
  | nil => rfl
  | cons byte bytes induction =>
      have digit := byte.toNat_lt
      have head : UInt8.ofNat (byte.toNat + 256 * byteValue bytes) = byte := by
        apply UInt8.toNat.inj
        rw [UInt8.toNat_ofNat']
        omega
      have tail : (byte.toNat + 256 * byteValue bytes) / 256 =
          byteValue bytes := by
        omega
      rw [List.length_cons, byteValue_cons, byteDigits, head, tail, induction]

namespace ByteOrder

def arrange : ByteOrder → List α → List α
  | .big, bytes => bytes.reverse
  | .little, bytes => bytes

@[simp] theorem arrange_arrange (order : ByteOrder) (bytes : List α) :
    order.arrange (order.arrange bytes) = bytes := by
  cases order <;> simp [arrange]

@[simp] theorem length_arrange (order : ByteOrder) (bytes : List α) :
    (order.arrange bytes).length = bytes.length := by
  cases order <;> simp [arrange]

def value (order : ByteOrder) (bytes : List UInt8) : Nat :=
  byteValue (order.arrange bytes)

def digits (order : ByteOrder) (count value : Nat) : List UInt8 :=
  order.arrange (byteDigits count value)

@[simp] theorem length_digits (order : ByteOrder) (count value : Nat) :
    (order.digits count value).length = count := by
  simp [digits]

theorem value_lt (order : ByteOrder) (bytes : List UInt8) :
    order.value bytes < 256 ^ bytes.length := by
  have bound := byteValue_lt (order.arrange bytes)
  rwa [length_arrange] at bound

theorem value_digits (order : ByteOrder) (count value : Nat) :
    order.value (order.digits count value) = value % 256 ^ count := by
  rw [ByteOrder.value, digits, arrange_arrange, byteValue_byteDigits]

end ByteOrder

def swapBytes {count : Nat} (word : BitVec (8 * count)) : BitVec (8 * count) :=
  BitVec.ofNat _ (byteValue (byteDigits count word.toNat).reverse)

theorem two_pow_eight_mul (count : Nat) : 2 ^ (8 * count) = 256 ^ count := by
  rw [Nat.pow_mul]

theorem toNat_swapBytes {count : Nat} (word : BitVec (8 * count)) :
    (swapBytes word).toNat = byteValue (byteDigits count word.toNat).reverse := by
  have bound := byteValue_lt (byteDigits count word.toNat).reverse
  rw [List.length_reverse, length_byteDigits] at bound
  rw [swapBytes, BitVec.toNat_ofNat, two_pow_eight_mul, Nat.mod_eq_of_lt bound]

def ByteOrder.word (order : ByteOrder) (count : Nat) (bytes : List UInt8) :
    BitVec (8 * count) :=
  BitVec.ofNat _ (order.value bytes)

theorem ByteOrder.toNat_word (order : ByteOrder) {count : Nat}
    {bytes : List UInt8} (sized : bytes.length = count) :
    (order.word count bytes).toNat = order.value bytes := by
  have bound := order.value_lt bytes
  rw [ByteOrder.word, BitVec.toNat_ofNat, two_pow_eight_mul, ← sized,
    Nat.mod_eq_of_lt bound]

theorem swapBytes_word {order : ByteOrder} (other : ByteOrder)
    (different : order ≠ other) {count : Nat} {bytes : List UInt8}
    (sized : bytes.length = count) :
    swapBytes (order.word count bytes) = other.word count bytes := by
  apply BitVec.eq_of_toNat_eq
  rw [toNat_swapBytes, order.toNat_word sized, other.toNat_word sized]
  have digits : byteDigits count (order.value bytes) = order.arrange bytes := by
    rw [← sized, ByteOrder.value, ← order.length_arrange bytes,
      byteDigits_byteValue]
  rw [digits]
  cases order <;> cases other <;>
    first
      | exact absurd rfl different
      | simp [ByteOrder.value, ByteOrder.arrange]

theorem digits_swapBytes {order : ByteOrder} (other : ByteOrder)
    (different : order ≠ other) {count : Nat} (word : BitVec (8 * count)) :
    order.digits count (swapBytes word).toNat =
      other.digits count word.toNat := by
  have reversed : byteDigits count (swapBytes word).toNat =
      (byteDigits count word.toNat).reverse := by
    have digits := byteDigits_byteValue (byteDigits count word.toNat).reverse
    rwa [List.length_reverse, length_byteDigits, ← toNat_swapBytes] at digits
  rw [ByteOrder.digits, ByteOrder.digits, reversed]
  cases order <;> cases other <;>
    first
      | exact absurd rfl different
      | simp [ByteOrder.arrange]

end ExtUnix.Data
