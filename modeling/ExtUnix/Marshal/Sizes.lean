import ExtUnix.Runtime.Stub

namespace ExtUnix.Marshal

open ExtUnix.Data
open ExtUnix.Runtime

/-! `splice` and `tee` of `splice.c`, and `memalign.c`. -/

inductive SpliceFlag where
  | SPLICE_F_MOVE
  | SPLICE_F_NONBLOCK
  | SPLICE_F_MORE
  | SPLICE_F_GIFT
  deriving DecidableEq

def SpliceFlag.tag : SpliceFlag → Nat
  | .SPLICE_F_MOVE => 0
  | .SPLICE_F_NONBLOCK => 1
  | .SPLICE_F_MORE => 2
  | .SPLICE_F_GIFT => 3

abbrev SpliceConstants := SpliceFlag → BitVec 32

def spliceFlagsTable (constants : SpliceConstants) : List (BitVec 32) := [
  constants .SPLICE_F_MOVE, constants .SPLICE_F_NONBLOCK,
  constants .SPLICE_F_MORE, constants .SPLICE_F_GIFT]

def spliceFlags (constants : SpliceConstants) (vFlags : List SpliceFlag) :
    Option (BitVec 32) :=
  convertFlagList (spliceFlagsTable constants) (vFlags.map SpliceFlag.tag)

theorem spliceFlags_eq (constants : SpliceConstants)
    (vFlags : List SpliceFlag) :
    spliceFlags constants vFlags = some (union (vFlags.map constants)) := by
  apply convertFlagList_map
  intro flag
  cases flag <;> rfl

inductive SizedCall where
  | splice (fdIn : BitVec 32) (offIn : Option (BitVec 64)) (fdOut : BitVec 32)
      (offOut : Option (BitVec 64)) (len : BitVec 64) (flags : BitVec 32)
  | tee (fdIn fdOut : BitVec 32) (len : BitVec 64) (flags : BitVec 32)
  | memalign (alignment size : BitVec 64)
  deriving DecidableEq

structure Bigarray where
  data : BitVec 64
  dim : BitVec 64
  deriving DecidableEq

section Stubs

variable (constants : SpliceConstants)
  (kernel : SizedCall → Except Errno (BitVec 64))

def splice (vFdIn : CamlInt) (vOffIn : Option CamlInt) (vFdOut : CamlInt)
    (vOffOut : Option CamlInt) (vLen : CamlInt) (vFlags : List SpliceFlag) :
    List SizedCall × Outcome CamlInt :=
  match spliceFlags constants vFlags with
  | none => ([], .crashed)
  | some flags =>
      let call := SizedCall.splice (intVal vFdIn)
        (vOffIn.map fun off => widen (intVal off)) (intVal vFdOut)
        (vOffOut.map fun off => widen (intVal off)) (widen (intVal vLen)) flags
      ([call], (uerror "splice" [] (kernel call)).map valLong)

def tee (vFdIn vFdOut vLen : CamlInt) (vFlags : List SpliceFlag) :
    List SizedCall × Outcome CamlInt :=
  match spliceFlags constants vFlags with
  | none => ([], .crashed)
  | some flags =>
      let call := SizedCall.tee (intVal vFdIn) (intVal vFdOut)
        (widen (intVal vLen)) flags
      ([call], (uerror "tee" [] (kernel call)).map valLong)

/-- `posix_memalign` answers with the address of the block. -/
def memalign (valignment vsize : CamlInt) :
    List SizedCall × Outcome Bigarray :=
  let alignment := widen (intVal valignment)
  let size := widen (intVal vsize)
  let call := SizedCall.memalign alignment size
  ([call], (uerror "memalign" [] (kernel call)).map (⟨·, size⟩))

end Stubs

inductive SizedRequest where
  | splice (fdIn : CamlInt) (offIn : Option CamlInt) (fdOut : CamlInt)
      (offOut : Option CamlInt) (len : CamlInt) (flags : List SpliceFlag)
  | tee (fdIn fdOut len : CamlInt) (flags : List SpliceFlag)
  | memalign (alignment size : CamlInt)

def SizedRequest.sizes : SizedRequest → List CamlInt
  | .splice _ offIn _ offOut len _ => offIn.toList ++ offOut.toList ++ [len]
  | .tee _ _ len _ => [len]
  | .memalign alignment size => [alignment, size]

/-- The call gets the offsets and sizes of the request; `memalign` may raise
`Unix_error` instead, and else returns a bigarray of the size asked for. -/
def Survives (constants : SpliceConstants)
    (kernel : SizedCall → Except Errno (BitVec 64)) : SizedRequest → Prop
  | .splice fdIn offIn fdOut offOut len flags =>
      ∃ flagsWord, (splice constants kernel fdIn offIn fdOut offOut len
          flags).1 =
        [.splice (intVal fdIn) (offIn.map longVal) (intVal fdOut)
          (offOut.map longVal) (longVal len) flagsWord]
  | .tee fdIn fdOut len flags =>
      ∃ flagsWord, (tee constants kernel fdIn fdOut len flags).1 =
        [.tee (intVal fdIn) (intVal fdOut) (longVal len) flagsWord]
  | .memalign alignment size =>
      let run := memalign kernel alignment size
      (∃ errno, run.2 = .unixError errno "memalign" []) ∨
      ∃ array, run.2 = .returned array ∧
        (array.dim.toNat : Int) = size.toInt ∧
        run.1 = [.memalign (longVal alignment) (longVal size)]

/-- `posix_memalign` refuses what is left of the request in two `int`s. -/
def Refused (kernel : SizedCall → Except Errno (BitVec 64)) :
    SizedRequest → Prop
  | .memalign alignment size => ∃ errno,
      kernel (.memalign (widen (intVal alignment)) (widen (intVal size))) =
        .error errno
  | _ => False

theorem widen_intVal_iff_lt {value : CamlInt} (nonneg : 0 ≤ value.toInt) :
    widen (intVal value) = longVal value ↔ value.toInt < 2 ^ 31 := by
  rw [widen_intVal_iff]
  omega

theorem option_map_widen_iff {value : Option CamlInt}
    (nonneg : ∀ off ∈ value, 0 ≤ off.toInt) :
    (value.map fun off => widen (intVal off)) = value.map longVal ↔
      ∀ off ∈ value, off.toInt < 2 ^ 31 := by
  cases value with
  | none => simp
  | some off =>
      rw [Option.map_some, Option.map_some, Option.some_inj,
        widen_intVal_iff_lt (nonneg off rfl)]
      simp

section Families

variable (constants : SpliceConstants)
  (kernel : SizedCall → Except Errno (BitVec 64))

theorem splice_survives_iff (fdIn : CamlInt) {offIn : Option CamlInt}
    (fdOut : CamlInt) {offOut : Option CamlInt} {len : CamlInt}
    (flags : List SpliceFlag) (inNonneg : ∀ off ∈ offIn, 0 ≤ off.toInt)
    (outNonneg : ∀ off ∈ offOut, 0 ≤ off.toInt) (lenNonneg : 0 ≤ len.toInt) :
    Survives constants kernel (.splice fdIn offIn fdOut offOut len flags) ↔
      (∀ off ∈ offIn, off.toInt < 2 ^ 31) ∧
      (∀ off ∈ offOut, off.toInt < 2 ^ 31) ∧ len.toInt < 2 ^ 31 := by
  rw [← option_map_widen_iff inNonneg, ← option_map_widen_iff outNonneg,
    ← widen_intVal_iff_lt lenNonneg, Survives, splice, spliceFlags_eq]
  simp

theorem tee_survives_iff (fdIn fdOut : CamlInt) {len : CamlInt}
    (flags : List SpliceFlag) (nonneg : 0 ≤ len.toInt) :
    Survives constants kernel (.tee fdIn fdOut len flags) ↔
      len.toInt < 2 ^ 31 := by
  rw [← widen_intVal_iff_lt nonneg, Survives, tee, spliceFlags_eq]
  simp

theorem memalign_survives_iff {alignment size : CamlInt}
    (alignmentNonneg : 0 ≤ alignment.toInt) (sizeNonneg : 0 ≤ size.toInt) :
    Survives constants kernel (.memalign alignment size) ↔
      (alignment.toInt < 2 ^ 31 ∧ size.toInt < 2 ^ 31) ∨
      Refused kernel (.memalign alignment size) := by
  rw [← widen_intVal_iff_lt alignmentNonneg, ← widen_intVal_iff_lt sizeNonneg,
    Survives, memalign, Refused]
  cases kernel (.memalign (widen (intVal alignment)) (widen (intVal size))) with
  | error errno => simp [uerror, Outcome.map]
  | ok data =>
      constructor
      · rintro (⟨errno, raised⟩ | ⟨array, -, -, requested⟩)
        · cases raised
        · left
          simpa using requested
      · rintro (⟨sameAlignment, sameSize⟩ | ⟨errno, refused⟩)
        · refine .inr ⟨_, rfl, ?_, by rw [sameAlignment, sameSize]⟩
          change ((widen (intVal size)).toNat : Int) = size.toInt
          rw [sameSize, toNat_longVal sizeNonneg]
        · cases refused

end Families

/-- Offsets and sizes go through a C `int`, so they survive exactly below
`2 ^ 31`; what `posix_memalign` refuses raises an error either way. -/
theorem sizes_survive_iff (constants : SpliceConstants)
    (kernel : SizedCall → Except Errno (BitVec 64)) (request : SizedRequest)
    (nonneg : ∀ size ∈ request.sizes, 0 ≤ size.toInt) :
    Survives constants kernel request ↔
      (∀ size ∈ request.sizes, size.toInt < 2 ^ 31) ∨
        Refused kernel request := by
  cases request with
  | splice fdIn offIn fdOut offOut len flags =>
      simp only [SizedRequest.sizes, List.forall_mem_append,
        List.forall_mem_singleton, Option.mem_toList, Refused, or_false,
        and_assoc] at nonneg ⊢
      obtain ⟨inNonneg, outNonneg, lenNonneg⟩ := nonneg
      exact splice_survives_iff constants kernel fdIn fdOut flags inNonneg
        outNonneg lenNonneg
  | tee fdIn fdOut len flags =>
      simp only [SizedRequest.sizes, List.forall_mem_singleton, Refused,
        or_false] at nonneg ⊢
      exact tee_survives_iff constants kernel fdIn fdOut flags nonneg
  | memalign alignment size =>
      simp only [SizedRequest.sizes, List.forall_mem_cons, List.not_mem_nil,
        false_implies, implies_true, and_true] at nonneg ⊢
      exact memalign_survives_iff constants kernel nonneg.1 nonneg.2

theorem sizes_survive_iff_tee :
    (∀ size ∈ (SizedRequest.tee 3 4 5 []).sizes, 0 ≤ size.toInt) ∧
      Survives (fun _ => 0) (fun _ => .ok 5) (.tee 3 4 5 []) := by
  have nonneg : ∀ size ∈ (SizedRequest.tee 3 4 5 []).sizes, 0 ≤ size.toInt := by
    simp [SizedRequest.sizes]
  have small : ∀ size ∈ (SizedRequest.tee 3 4 5 []).sizes,
      size.toInt < 2 ^ 31 := by
    simp [SizedRequest.sizes]
  exact ⟨nonneg, (sizes_survive_iff (fun _ => 0) (fun _ => .ok 5)
    (.tee 3 4 5 []) nonneg).mpr (.inl small)⟩

/-- Reading from offset `2 ^ 32` of a file reads from its start. -/
theorem splice_offset_truncated :
    let request := SizedRequest.splice 3 (some 0x100000000) 4 none 10 []
    (splice (fun _ => 0) (fun _ => .ok 10) 3 (some 0x100000000) 4 none 10
        []).1 = [.splice 3 (some 0) 4 none 10 0] ∧
      (∀ size ∈ request.sizes, 0 ≤ size.toInt) ∧
      ¬Survives (fun _ => 0) (fun _ => .ok 10) request := by
  refine ⟨by decide, by simp [SizedRequest.sizes], ?_⟩
  rw [splice_survives_iff _ _ _ _ _ (by simp) (by simp) (by simp)]
  simp

end ExtUnix.Marshal
