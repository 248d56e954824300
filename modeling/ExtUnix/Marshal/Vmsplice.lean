import ExtUnix.Marshal.Sizes

namespace ExtUnix.Marshal

open ExtUnix.Data
open ExtUnix.Runtime

/-! `vmsplice` of `splice.c`, where `int` arithmetic wraps around. -/

structure Iov where
  buf : Bigarray
  off : CamlInt
  len : CamlInt
  deriving DecidableEq

structure IoVec where
  base : BitVec 64
  len : BitVec 64
  deriving DecidableEq

structure VmspliceCall where
  fdOut : BitVec 32
  iov : List IoVec
  nrSegs : BitVec 64
  flags : BitVec 32
  deriving DecidableEq

def Iov.exceeds (iov : Iov) : Bool :=
  iov.buf.dim.slt (widen (intVal iov.off + intVal iov.len))

def Iov.vector (iov : Iov) : IoVec where
  base := iov.buf.data + widen (intVal iov.off)
  len := widen (intVal iov.len)

/-- The loop over the records; `none` is `caml_invalid_argument`. -/
def gather : List Iov → Option (List IoVec)
  | [] => some []
  | iov :: rest =>
      if iov.exceeds then none else (gather rest).map (iov.vector :: ·)

def wosize (vIov : List Iov) : BitVec 32 := BitVec.ofNat 32 vIov.length

/-- What `alloca` takes, in bytes: a negative `size` is a huge `size_t`. -/
def iovecBytes (size : BitVec 32) : Nat := (16 * widen size).toNat

/-- `stack` is the room on the stack in bytes.  `alloca` does not check it, and
the first call after it writes below what there is. -/
def vmsplice (stack : Nat) (constants : SpliceConstants)
    (kernel : VmspliceCall → Except Errno (BitVec 64)) (vFdOut : CamlInt)
    (vIov : List Iov) (vFlags : List SpliceFlag) :
    List VmspliceCall × Outcome CamlInt :=
  match spliceFlags constants vFlags with
  | none => ([], .crashed)
  | some flags =>
      let size := wosize vIov
      if stack < iovecBytes size then ([], .crashed)
      else
        match gather (vIov.take size.toInt.toNat) with
        | none => ([], .invalidArgument "vmsplice")
        | some iov =>
            let call : VmspliceCall := ⟨intVal vFdOut, iov, widen size, flags⟩
            ([call], (uerror "vmsplice" [] (kernel call)).map valLong)

def Iov.Valid (iov : Iov) : Prop :=
  0 ≤ iov.off.toInt ∧ 0 ≤ iov.len.toInt ∧
    iov.off.toInt + iov.len.toInt ≤ iov.buf.dim.toInt

instance (iov : Iov) : Decidable iov.Valid :=
  inferInstanceAs (Decidable (_ ∧ _))

def Iov.region (iov : Iov) : IoVec where
  base := iov.buf.data + longVal iov.off
  len := longVal iov.len

/-- An invalid record is refused before any call; valid ones are handed over as
they are. -/
def StaysInside (vIov : List Iov)
    (run : List VmspliceCall × Outcome CamlInt) : Prop :=
  ((∃ iov ∈ vIov, ¬iov.Valid) →
    run.1 = [] ∧ ∃ message, run.2 = .invalidArgument message) ∧
  ((∀ iov ∈ vIov, iov.Valid) →
    ∃ call, run.1 = [call] ∧ call.iov = vIov.map Iov.region)

theorem not_staysInside_crashed (vIov : List Iov) :
    ¬StaysInside vIov ([], .crashed) := by
  rintro ⟨refuses, hands⟩
  by_cases allValid : ∀ iov ∈ vIov, iov.Valid
  · obtain ⟨call, made, -⟩ := hands allValid
    cases made
  · push Not at allValid
    obtain ⟨-, message, raised⟩ := refuses allValid
    cases raised

theorem gather_eq (iovs : List Iov) :
    gather iovs = if ∃ iov ∈ iovs, iov.exceeds = true then none
      else some (iovs.map Iov.vector) := by
  induction iovs with
  | nil => simp [gather]
  | cons iov rest induction =>
      rw [gather, induction]
      by_cases head : iov.exceeds = true
      · simp [head]
      · by_cases tail : ∃ later ∈ rest, later.exceeds = true
        · rw [if_neg head, if_pos tail, if_pos]
          · rfl
          · obtain ⟨later, member, exceeds⟩ := tail
            exact ⟨later, by simp [member], exceeds⟩
        · rw [if_neg head, if_neg tail, if_neg]
          · rfl
          · simpa [head] using tail

theorem Iov.exceeds_iff (iov : Iov) :
    iov.exceeds = true ↔ iov.buf.dim.toInt <
      (iov.off.toInt + iov.len.toInt).bmod (2 ^ 32) := by
  rw [Iov.exceeds, BitVec.slt_iff_toInt_lt, toInt_widen, BitVec.toInt_add,
    toInt_intVal, toInt_intVal, Int.add_bmod_bmod, Int.bmod_add_bmod]

theorem bmod_le_self {value : Int} (nonneg : 0 ≤ value) :
    value.bmod (2 ^ 32) ≤ value := by
  rw [Int.bmod_def]
  omega

theorem Iov.Valid.not_exceeds {iov : Iov} (valid : iov.Valid) :
    ¬iov.exceeds = true := by
  obtain ⟨offNonneg, lenNonneg, inside⟩ := valid
  rw [Iov.exceeds_iff]
  have := bmod_le_self (Int.add_nonneg offNonneg lenNonneg)
  omega

theorem Iov.Valid.vector_eq_iff {iov : Iov} (valid : iov.Valid) :
    iov.vector = iov.region ↔
      iov.off.toInt < 2 ^ 31 ∧ iov.len.toInt < 2 ^ 31 := by
  obtain ⟨offNonneg, lenNonneg, -⟩ := valid
  rw [← widen_intVal_iff_lt offNonneg, ← widen_intVal_iff_lt lenNonneg,
    Iov.vector, Iov.region, IoVec.mk.injEq, BitVec.add_right_inj]

theorem length_le_wosize_iff (vIov : List Iov) :
    vIov.length ≤ (wosize vIov).toInt.toNat ↔ vIov.length < 2 ^ 31 := by
  rw [wosize, BitVec.toInt_ofNat', Int.bmod_def]
  omega

theorem map_take_eq_iff {f g : α → β} {values : List α} {count : Nat} :
    (values.take count).map f = values.map g ↔
      values.length ≤ count ∧ ∀ value ∈ values, f value = g value := by
  constructor
  · intro same
    have lengths := congrArg List.length same
    rw [List.length_map, List.length_map, List.length_take] at lengths
    have all : values.length ≤ count := by omega
    rw [List.take_of_length_le all, List.map_inj_left] at same
    exact ⟨all, same⟩
  · rintro ⟨all, same⟩
    rw [List.take_of_length_le all, List.map_inj_left]
    exact same

/-- One of the records that the loop reaches has `iov_off + iov_len`, reduced to
an `int`, above the dimension. -/
def Caught (vIov : List Iov) : Prop :=
  ∃ iov ∈ vIov.take (wosize vIov).toInt.toNat, iov.buf.dim.toInt <
    (iov.off.toInt + iov.len.toInt).bmod (2 ^ 32)

theorem caught_iff (vIov : List Iov) :
    Caught vIov ↔ ∃ iov ∈ vIov.take (wosize vIov).toInt.toNat,
      iov.exceeds = true := by
  simp only [Caught, Iov.exceeds_iff]

section Runs

variable {stack : Nat} (constants : SpliceConstants)
  (kernel : VmspliceCall → Except Errno (BitVec 64)) (fdOut : CamlInt)
  {vIov : List Iov} (flags : List SpliceFlag)

theorem vmsplice_overflows (full : stack < iovecBytes (wosize vIov)) :
    vmsplice stack constants kernel fdOut vIov flags = ([], .crashed) := by
  rw [vmsplice, spliceFlags_eq]
  exact if_pos full

theorem vmsplice_caught (roomy : iovecBytes (wosize vIov) ≤ stack)
    (caught : Caught vIov) :
    vmsplice stack constants kernel fdOut vIov flags =
      ([], .invalidArgument "vmsplice") := by
  rw [vmsplice, spliceFlags_eq]
  simp only [Nat.not_lt.mpr roomy, if_false, gather_eq,
    if_pos ((caught_iff vIov).mp caught)]

theorem vmsplice_passed (roomy : iovecBytes (wosize vIov) ≤ stack)
    (passed : ¬Caught vIov) :
    ∃ call, (vmsplice stack constants kernel fdOut vIov flags).1 = [call] ∧
      call.iov =
        (vIov.take (wosize vIov).toInt.toNat).map Iov.vector := by
  rw [vmsplice, spliceFlags_eq]
  simp only [Nat.not_lt.mpr roomy, if_false, gather_eq,
    if_neg (mt (caught_iff vIov).mpr passed)]
  exact ⟨_, rfl, rfl⟩

end Runs

/-- `vmsplice` keeps to the given bigarrays exactly when the stack has room for
an `iovec` for each record, and its check catches a record, or all records are
valid, small enough for an `int`, and few enough for an `int` to count. -/
theorem vmsplice_inside_iff (stack : Nat) (constants : SpliceConstants)
    (kernel : VmspliceCall → Except Errno (BitVec 64)) (fdOut : CamlInt)
    (vIov : List Iov) (flags : List SpliceFlag) :
    StaysInside vIov (vmsplice stack constants kernel fdOut vIov flags) ↔
      iovecBytes (wosize vIov) ≤ stack ∧
      (Caught vIov ∨
      ((∀ iov ∈ vIov, iov.Valid ∧ iov.off.toInt < 2 ^ 31 ∧
        iov.len.toInt < 2 ^ 31) ∧ vIov.length < 2 ^ 31)) := by
  by_cases full : stack < iovecBytes (wosize vIov)
  · rw [vmsplice_overflows constants kernel fdOut flags full]
    refine ⟨fun inside => absurd inside ?_,
      fun fits => absurd fits.1 (Nat.not_le.mpr full)⟩
    exact not_staysInside_crashed vIov
  have roomy := Nat.not_lt.mp full
  simp only [roomy, true_and]
  by_cases caught : Caught vIov
  · rw [vmsplice_caught constants kernel fdOut flags roomy caught]
    refine ⟨fun _ => .inl caught, fun _ => ⟨fun _ => ⟨rfl, _, rfl⟩, ?_⟩⟩
    intro allValid
    obtain ⟨iov, member, exceeds⟩ := (caught_iff vIov).mp caught
    exact absurd exceeds (allValid iov (List.mem_of_mem_take member)).not_exceeds
  · obtain ⟨call, made, vectors⟩ :=
      vmsplice_passed constants kernel fdOut flags roomy caught
    have exact_iff : (∀ iov ∈ vIov, iov.Valid) →
        (call.iov = vIov.map Iov.region ↔ vIov.length < 2 ^ 31 ∧
          ∀ iov ∈ vIov, iov.off.toInt < 2 ^ 31 ∧ iov.len.toInt < 2 ^ 31) := by
      intro allValid
      rw [vectors, map_take_eq_iff, length_le_wosize_iff]
      refine and_congr_right fun _ => forall₂_congr fun iov member => ?_
      exact (allValid iov member).vector_eq_iff
    simp only [StaysInside, made, caught, false_or]
    constructor
    · rintro ⟨refuses, hands⟩
      have allValid : ∀ iov ∈ vIov, iov.Valid := by
        by_contra invalid
        push Not at invalid
        exact absurd (refuses invalid).1 (by simp)
      obtain ⟨other, same, regions⟩ := hands allValid
      cases same
      obtain ⟨few, small⟩ := (exact_iff allValid).mp regions
      exact ⟨fun iov member => ⟨allValid iov member, small iov member⟩, few⟩
    · rintro ⟨validAndSmall, few⟩
      have allValid : ∀ iov ∈ vIov, iov.Valid :=
        fun iov member => (validAndSmall iov member).1
      refine ⟨?_, fun _ => ⟨call, rfl, ?_⟩⟩
      · rintro ⟨iov, member, invalid⟩
        exact absurd (allValid iov member) invalid
      · exact (exact_iff allValid).mpr
          ⟨few, fun iov member => (validAndSmall iov member).2⟩

/-- Sixteen bytes before a bigarray of eight are handed to the kernel. -/
theorem vmsplice_negative_offset :
    let iov : Iov := ⟨⟨0x1000, 8⟩, -16, 16⟩
    let run := vmsplice 8388608 (fun _ => 0) (fun _ => .ok 16) 4 [iov] []
    run = ([⟨4, [⟨0xff0, 16⟩], 1, 0⟩], .returned 16) ∧
      ¬StaysInside [iov] run := by
  intro iov run
  have leaks : run = ([⟨4, [⟨0xff0, 16⟩], 1, 0⟩], .returned 16) := by decide
  refine ⟨leaks, ?_⟩
  rintro ⟨refuses, -⟩
  have invalid : ¬iov.Valid := by decide
  have refused := (refuses ⟨iov, by simp, invalid⟩).1
  rw [leaks] at refused
  cases refused

end ExtUnix.Marshal
