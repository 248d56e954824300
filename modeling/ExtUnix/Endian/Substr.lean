import ExtUnix.Endian.Refinement

namespace ExtUnix.Endian

open ExtUnix.Data
open ExtUnix.Runtime

/-! `bigarray.c` and the substring accessors of `BA`. -/

namespace BA

/-- `caml_extunixba_get_substr`. -/
def unsafeGetSubstr (memory : Memory 64 UInt8) (vBuf : Bigarray)
    (vOff vLen : CamlInt) : Access Buffer :=
  let buf := vBuf.data
  let off := longVal vOff
  let len := longVal vLen
  -- There is no longer string for `caml_alloc_initialized_string` to allocate.
  if fits : len.toNat < 2 ^ 62 then
    .done ⟨memory.read (buf + off) len.toNat, by
      rw [Memory.length_read]
      exact fits⟩
  else .outOfBounds

def getSubstr (memory : Memory 64 UInt8) (buf : Bigarray)
    (off len : CamlInt) : Access Buffer :=
  if off.slt 0 || len.slt 0 || (buf.dim - len).slt off then
    .invalidArgument "index out of bounds"
  else unsafeGetSubstr memory buf off len

/-- `caml_extunixba_set_substr`. -/
def unsafeSetSubstr (memory : Memory 64 UInt8) (vBuf : Bigarray)
    (vOff : CamlInt) (vStr : Buffer) : Memory 64 UInt8 × Access Unit :=
  let buf := vBuf.data
  let off := longVal vOff
  (memory.write (buf + off) vStr.data, .done ())

def setSubstr (memory : Memory 64 UInt8) (buf : Bigarray) (off : CamlInt)
    (str : Buffer) : Memory 64 UInt8 × Access Unit :=
  if off.slt 0 || (buf.dim - str.length).slt off then
    (memory, .invalidArgument "index out of bounds")
  else unsafeSetSubstr memory buf off str

def Within (buf : Bigarray) (off : CamlInt) (count : Int) : Prop :=
  0 ≤ off.toInt ∧ 0 ≤ count ∧ off.toInt + count ≤ buf.size

section Checks

variable (memory : Memory 64 UInt8) {buf : Bigarray} {off len : CamlInt}
  {str : Buffer}

theorem toInt_dim_sub (buf : Bigarray) {len : CamlInt}
    (nonneg : 0 ≤ len.toInt) :
    (buf.dim - len).toInt = buf.size - len.toInt :=
  toInt_ofNat_sub buf.size_lt nonneg

theorem getSubstr_check (buf : Bigarray) (off len : CamlInt) :
    (off.slt 0 || len.slt 0 || (buf.dim - len).slt off) = true ↔
      ¬Within buf off len.toInt := by
  rw [Bool.or_eq_true, Bool.or_eq_true, slt_zero_iff, slt_zero_iff,
    BitVec.slt_iff_toInt_lt, Within]
  by_cases nonneg : 0 ≤ len.toInt
  · rw [toInt_dim_sub buf nonneg]
    omega
  · constructor
    · intro _
      omega
    · intro _
      exact .inl (.inr (by omega))

theorem setSubstr_check (buf : Bigarray) (off : CamlInt) (str : Buffer) :
    (off.slt 0 || (buf.dim - str.length).slt off) = true ↔
      ¬Within buf off str.data.length := by
  have length := str.toInt_length
  rw [Bool.or_eq_true, slt_zero_iff, BitVec.slt_iff_toInt_lt, Within]
  rw [toInt_dim_sub buf (by omega), length]
  omega

theorem getSubstr_outside (outside : ¬Within buf off len.toInt) :
    getSubstr memory buf off len = .invalidArgument "index out of bounds" :=
  if_pos ((getSubstr_check buf off len).mpr outside)

theorem getSubstr_within (within : Within buf off len.toInt) :
    ∃ result : Buffer, getSubstr memory buf off len = .done result ∧
      result.data =
        memory.read (buf.data + longVal off) (longVal len).toNat := by
  have count := toNat_longVal within.2.1
  have bound := toInt_lt len
  refine ⟨⟨memory.read (buf.data + longVal off) (longVal len).toNat, ?_⟩,
    ?_, rfl⟩
  · rw [Memory.length_read]
    omega
  · unfold getSubstr
    rw [if_neg ((getSubstr_check buf off len).not.mpr (not_not_intro within))]
    exact dif_pos (by omega)

theorem setSubstr_outside (outside : ¬Within buf off str.data.length) :
    setSubstr memory buf off str =
      (memory, .invalidArgument "index out of bounds") :=
  if_pos ((setSubstr_check buf off str).mpr outside)

theorem setSubstr_within (within : Within buf off str.data.length) :
    setSubstr memory buf off str =
      (memory.write (buf.data + longVal off) str.data, .done ()) :=
  if_neg ((setSubstr_check buf off str).not.mpr (not_not_intro within))

end Checks

section Laws

variable (memory : Memory 64 UInt8) (buf : Bigarray)

theorem toInt_add_of_within {buf : Bigarray} {off extra : CamlInt}
    {count : Int} (within : Within buf off count)
    (nonneg : 0 ≤ extra.toInt) (short : extra.toInt ≤ count) :
    (off + extra).toInt = off.toInt + extra.toInt := by
  have bound := buf.size_lt
  obtain ⟨start, -, fits⟩ := within
  rw [BitVec.toInt_add, Int.bmod_eq_of_le] <;> omega

theorem longVal_add_of_within {buf : Bigarray} {off extra : CamlInt}
    {count : Int} (within : Within buf off count)
    (nonneg : 0 ≤ extra.toInt) (short : extra.toInt ≤ count) :
    longVal (off + extra) =
      longVal off + BitVec.ofNat 64 (longVal extra).toNat := by
  have sum := toInt_add_of_within within nonneg short
  have bound := buf.size_lt
  obtain ⟨start, -, fits⟩ := within
  apply BitVec.eq_of_toInt_eq
  rw [toInt_longVal, sum, BitVec.ofNat_toNat, BitVec.setWidth_eq,
    BitVec.toInt_add, toInt_longVal, toInt_longVal, Int.bmod_eq_of_le] <;> omega

theorem setSubstr_exact {off : CamlInt} {str : Buffer}
    (within : Within buf off str.data.length) :
    let written := (setSubstr memory buf off str).1
    (∀ index : Nat, (buf.contents written).data[index]? =
      if off.toInt ≤ index ∧ index < off.toInt + str.data.length then
        str.data[index - off.toInt.toNat]?
      else (buf.contents memory).data[index]?) ∧
    buf.Frames memory written := by
  have start := toNat_longVal within.1
  have bound := buf.size_lt
  have inside : (longVal off).toNat + str.data.length ≤ buf.size := by
    have := within.2.2
    omega
  rw [setSubstr_within memory within]
  refine ⟨fun index => ?_, fun address beyond => ?_⟩
  · have replaced := Memory.read_write memory buf.data (longVal off)
      (by omega) inside
    have covered : (longVal off).toNat + str.data.length ≤
        (memory.read buf.data buf.size).length := by
      rw [Memory.length_read]
      exact inside
    have position : off.toInt.toNat = (longVal off).toNat := by omega
    have same : ((longVal off).toNat ≤ index ∧
        index < (longVal off).toNat + str.data.length) ↔
          off.toInt ≤ index ∧ index < off.toInt + str.data.length := by
      omega
    change ((memory.write _ str.data).read buf.data buf.size)[index]? = _
    rw [replaced, getElem?_splice covered, position, if_congr same rfl rfl]
    rfl
  · exact Memory.write_outside memory buf.data (longVal off)
      (inside.trans beyond)

theorem getSubstr_setSubstr {off : CamlInt} {str : Buffer}
    (within : Within buf off str.data.length) :
    getSubstr (setSubstr memory buf off str).1 buf off str.length =
      .done str := by
  have length := str.toInt_length
  have count : (longVal str.length).toNat = str.data.length := by
    have nonneg : 0 ≤ str.length.toInt := by omega
    have := toNat_longVal nonneg
    omega
  have within' : Within buf off str.length.toInt := by
    rw [length]
    exact within
  rw [setSubstr_within memory within]
  obtain ⟨result, found, data⟩ := getSubstr_within
    (memory.write (buf.data + longVal off) str.data) within'
  rw [found]
  congr 1
  apply Buffer.ext
  have bound := str.size_lt
  rw [data, count]
  exact memory.read_write_self _ (by omega)

theorem setSubstr_append {off : CamlInt} {first second whole : Buffer}
    (joined : whole.data = first.data ++ second.data)
    (within : Within buf off whole.data.length) :
    (setSubstr (setSubstr memory buf off first).1 buf (off + first.length)
        second = setSubstr memory buf off whole) ∧
      setSubstr (setSubstr memory buf (off + first.length) second).1 buf off
        first = setSubstr memory buf off whole := by
  have length := first.toInt_length
  have size : whole.data.length = first.data.length + second.data.length := by
    rw [joined, List.length_append]
  have bound := whole.size_lt
  have nonneg : 0 ≤ first.length.toInt := by omega
  have sum := toInt_add_of_within within nonneg (by omega)
  have position := longVal_add_of_within within nonneg (by omega)
  have count : (longVal first.length).toNat = first.data.length := by
    have := toNat_longVal nonneg
    omega
  have ⟨start, _, fits⟩ := within
  have firstWithin : Within buf off first.data.length :=
    ⟨start, by omega, by omega⟩
  have secondWithin : Within buf (off + first.length) second.data.length :=
    ⟨by omega, by omega, by omega⟩
  have ⟨forward, backward⟩ := memory.write_append (buf.data + longVal off)
    first.data second.data (by omega) (by omega)
  rw [setSubstr_within memory within, setSubstr_within memory firstWithin,
    setSubstr_within _ secondWithin, setSubstr_within memory secondWithin,
    setSubstr_within _ firstWithin, position, count, ← BitVec.add_assoc, joined]
  exact ⟨congrArg (·, _) forward, congrArg (·, _) backward⟩

theorem getSubstr_append {off first second : CamlInt}
    (firstNonneg : 0 ≤ first.toInt) (secondNonneg : 0 ≤ second.toInt)
    (within : Within buf off (first.toInt + second.toInt)) :
    ∃ head tail whole : Buffer,
      getSubstr memory buf off first = .done head ∧
      getSubstr memory buf (off + first) second = .done tail ∧
      getSubstr memory buf off (first + second) = .done whole ∧
      whole.data = head.data ++ tail.data := by
  have bound := buf.size_lt
  have sum := toInt_add_of_within within firstNonneg (by omega)
  have position := longVal_add_of_within within firstNonneg (by omega)
  have ⟨start, _, fits⟩ := within
  have total : (first + second).toInt = first.toInt + second.toInt := by
    rw [BitVec.toInt_add, Int.bmod_eq_of_le] <;> omega
  have counts : (longVal (first + second)).toNat =
      (longVal first).toNat + (longVal second).toNat := by
    have headCount := toNat_longVal firstNonneg
    have tailCount := toNat_longVal secondNonneg
    have nonneg : 0 ≤ (first + second).toInt := by omega
    have wholeCount := toNat_longVal nonneg
    omega
  have headWithin : Within buf off first.toInt :=
    ⟨start, firstNonneg, by omega⟩
  have tailWithin : Within buf (off + first) second.toInt :=
    ⟨by omega, secondNonneg, by omega⟩
  have wholeWithin : Within buf off (first + second).toInt := by
    rw [total]
    exact within
  obtain ⟨head, headFound, headData⟩ := getSubstr_within memory headWithin
  obtain ⟨tail, tailFound, tailData⟩ := getSubstr_within memory tailWithin
  obtain ⟨whole, wholeFound, wholeData⟩ := getSubstr_within memory wholeWithin
  refine ⟨head, tail, whole, headFound, tailFound, wholeFound, ?_⟩
  rw [wholeData, headData, tailData, counts, position, ← BitVec.add_assoc]
  exact memory.read_append (buf.data + longVal off) _ _

end Laws

/-- Both accessors refuse exactly the ranges that leave the bigarray.  What is set
is read back, nothing else in memory changes, and adjacent pieces can be set in
either order or at once. -/
theorem substr_laws (memory : Memory 64 UInt8) (buf : Bigarray)
    (off len : CamlInt) (s : Buffer) :
    ((setSubstr memory buf off s).2 = .invalidArgument "index out of bounds" ↔
      off.toInt < 0 ∨ (buf.size : Int) < off.toInt + s.data.length) ∧
    (getSubstr memory buf off len = .invalidArgument "index out of bounds" ↔
      off.toInt < 0 ∨ len.toInt < 0 ∨
        (buf.size : Int) < off.toInt + len.toInt) ∧
    ((setSubstr memory buf off s).2 ≠ .done () →
      (setSubstr memory buf off s).1 = memory) ∧
    (0 ≤ off.toInt ∧ off.toInt + s.data.length ≤ buf.size →
      (setSubstr memory buf off s).2 = .done () ∧
      (∀ index : Nat,
        (buf.contents (setSubstr memory buf off s).1).data[index]? =
          if off.toInt ≤ index ∧ index < off.toInt + s.data.length then
            s.data[index - off.toInt.toNat]?
          else (buf.contents memory).data[index]?) ∧
      buf.Frames memory (setSubstr memory buf off s).1 ∧
      getSubstr (setSubstr memory buf off s).1 buf off s.length = .done s ∧
      ∀ s1 s2 : Buffer, s.data = s1.data ++ s2.data →
        setSubstr (setSubstr memory buf off s1).1 buf (off + s1.length) s2 =
          setSubstr memory buf off s ∧
        setSubstr (setSubstr memory buf (off + s1.length) s2).1 buf off s1 =
          setSubstr memory buf off s) ∧
    ∀ l1 l2 : CamlInt, 0 ≤ off.toInt ∧ 0 ≤ l1.toInt ∧ 0 ≤ l2.toInt ∧
        off.toInt + (l1.toInt + l2.toInt) ≤ buf.size →
      ∃ first second whole : Buffer,
        getSubstr memory buf off l1 = .done first ∧
        getSubstr memory buf (off + l1) l2 = .done second ∧
        getSubstr memory buf off (l1 + l2) = .done whole ∧
        whole.data = first.data ++ second.data := by
  refine ⟨?_, ?_, ?_, ?_, ?_⟩
  · by_cases within : Within buf off s.data.length
    · rw [setSubstr_within memory within]
      have ⟨_, _, _⟩ := within
      simp only [reduceCtorEq, false_iff]
      omega
    · rw [setSubstr_outside memory within]
      simp only [Within] at within
      simp only [true_iff]
      omega
  · by_cases within : Within buf off len.toInt
    · obtain ⟨result, found, -⟩ := getSubstr_within memory within
      have ⟨_, _, _⟩ := within
      rw [found]
      simp only [reduceCtorEq, false_iff]
      omega
    · rw [getSubstr_outside memory within]
      simp only [Within] at within
      simp only [true_iff]
      omega
  · intro refused
    by_cases within : Within buf off s.data.length
    · exact absurd (by rw [setSubstr_within memory within]) refused
    · rw [setSubstr_outside memory within]
  · rintro ⟨start, fits⟩
    have within : Within buf off s.data.length := ⟨start, by omega, fits⟩
    have ⟨bytes, frames⟩ := setSubstr_exact memory buf within
    refine ⟨by rw [setSubstr_within memory within], bytes, frames,
      getSubstr_setSubstr memory buf within, ?_⟩
    intro s1 s2 joined
    exact setSubstr_append memory buf joined within
  · rintro l1 l2 ⟨start, firstNonneg, secondNonneg, fits⟩
    exact getSubstr_append memory buf firstNonneg secondNonneg
      ⟨start, by omega, fits⟩

end BA

end ExtUnix.Endian
