import ExtUnix.Runtime.Stub
import Mathlib.Data.Int.ConditionallyCompleteOrder
import Mathlib.Data.Int.SuccPred
import Mathlib.Order.WithBot
import Mathlib.Logic.Function.Basic

namespace ExtUnix.Process

open ExtUnix.Runtime

/-! `Rlimit` and the limits of `resource.c`.  `rlim_t` is an unsigned 64-bit
integer. -/

inductive Resource where
  | RLIMIT_CORE
  | RLIMIT_CPU
  | RLIMIT_DATA
  | RLIMIT_FSIZE
  | RLIMIT_NOFILE
  | RLIMIT_STACK
  | RLIMIT_AS
  deriving DecidableEq

def Resource.tag : Resource → Nat
  | .RLIMIT_CORE => 0
  | .RLIMIT_CPU => 1
  | .RLIMIT_DATA => 2
  | .RLIMIT_FSIZE => 3
  | .RLIMIT_NOFILE => 4
  | .RLIMIT_STACK => 5
  | .RLIMIT_AS => 6

abbrev ResourceConstants := Resource → BitVec 32

def resourceMap (constants : ResourceConstants) : List (BitVec 32) := [
  constants .RLIMIT_CORE, constants .RLIMIT_CPU, constants .RLIMIT_DATA,
  constants .RLIMIT_FSIZE, constants .RLIMIT_NOFILE, constants .RLIMIT_STACK,
  constants .RLIMIT_AS]

/-- `none` is a failed assertion. -/
def decodeResource (constants : ResourceConstants) (vrsrc : Resource) :
    Option (BitVec 32) :=
  (resourceMap constants)[vrsrc.tag]?

abbrev RlimT := BitVec 64

def RLIM_INFINITY : RlimT := BitVec.allOnes 64

abbrev Rlimit := Option (BitVec 64)

def encodeLimit (v : RlimT) : Rlimit :=
  if v = RLIM_INFINITY then none else some v

def decodeLimit : Rlimit → RlimT
  | none => RLIM_INFINITY
  | some limit => limit

namespace Rlimit

def int64Compare (l1 l2 : BitVec 64) : Int :=
  if l1.slt l2 then -1 else if l2.slt l1 then 1 else 0

def compare : Rlimit → Rlimit → Int
  | some l1, some l2 => int64Compare l1 l2
  | none, none => 0
  | some _, none => -1
  | none, some _ => 1

def eq (l1 l2 : Rlimit) : Bool := compare l1 l2 = 0
def gt (l1 l2 : Rlimit) : Bool := compare l1 l2 > 0
def ge (l1 l2 : Rlimit) : Bool := compare l1 l2 ≥ 0
def lt (l1 l2 : Rlimit) : Bool := compare l1 l2 < 0
def le (l1 l2 : Rlimit) : Bool := compare l1 l2 ≤ 0

end Rlimit

structure RlimitC where
  cur : RlimT
  max : RlimT
  deriving DecidableEq

abbrev Limits := BitVec 32 → RlimitC

/-- The resources a kernel has, and what it refuses beyond a soft limit above
the hard one. -/
structure Kernel where
  known : BitVec 32 → Bool
  refuses : Limits → BitVec 32 → RlimitC → Option Errno

def EINVAL : Errno := 22

namespace Kernel

variable (kernel : Kernel)

def getrlimit (limits : Limits) (resource : BitVec 32) :
    Except Errno RlimitC :=
  if kernel.known resource then .ok (limits resource) else .error EINVAL

def setrlimit (limits : Limits) (resource : BitVec 32) (rlmt : RlimitC) :
    Except Errno Limits :=
  if !kernel.known resource || rlmt.max.ult rlmt.cur then .error EINVAL
  else
    match kernel.refuses limits resource rlmt with
    | some errno => .error errno
    | none => .ok (Function.update limits resource rlmt)

end Kernel

section Stubs

variable (constants : ResourceConstants) (kernel : Kernel)

def getrlimit (limits : Limits) (vrsrc : Resource) :
    Outcome (Rlimit × Rlimit) :=
  match decodeResource constants vrsrc with
  | none => .crashed
  | some resource =>
      (uerror "getrlimit" [] (kernel.getrlimit limits resource)).map
        fun rlmt => (encodeLimit rlmt.cur, encodeLimit rlmt.max)

def setrlimit (limits : Limits) (vrsrc : Resource) (vslimit vhlimit : Rlimit) :
    Limits × Outcome Unit :=
  let rlmt : RlimitC := ⟨decodeLimit vslimit, decodeLimit vhlimit⟩
  match decodeResource constants vrsrc with
  | none => (limits, .crashed)
  | some resource =>
      match kernel.setrlimit limits resource rlmt with
      | .error errno => (limits, .unixError errno "setrlimit" [])
      | .ok limits' => (limits', .returned ())

end Stubs

theorem decodeResource_eq (constants : ResourceConstants)
    (resource : Resource) :
    decodeResource constants resource = some (constants resource) := by
  cases resource <;> rfl

theorem decodeLimit_encodeLimit (v : RlimT) :
    decodeLimit (encodeLimit v) = v := by
  rw [encodeLimit]
  split_ifs with infinite
  · exact infinite.symm
  · rfl

/-- `Some (-1L)` is the one limit that is taken for infinity. -/
theorem encodeLimit_decodeLimit_iff (limit : Rlimit) :
    encodeLimit (decodeLimit limit) = limit ↔ limit ≠ some RLIM_INFINITY := by
  cases limit with
  | none => simp [decodeLimit, encodeLimit]
  | some word =>
      rw [decodeLimit, encodeLimit]
      split_ifs with infinite
      · simp [infinite]
      · simp [infinite]

namespace Rlimit

def toInt (limit : Rlimit) : WithTop Int :=
  match limit with
  | none => ⊤
  | some word => (word.toInt : Int)

@[simp] theorem toInt_none : toInt none = ⊤ := rfl

@[simp] theorem toInt_some (word : BitVec 64) :
    toInt (some word) = (word.toInt : Int) := rfl

theorem toInt_inj {l1 l2 : Rlimit} : l1.toInt = l2.toInt ↔ l1 = l2 := by
  cases l1 <;> cases l2 <;> simp [BitVec.toInt_inj]

theorem int64Compare_eq (l1 l2 : BitVec 64) :
    int64Compare l1 l2 = (l1.toInt - l2.toInt).sign := by
  rw [int64Compare]
  simp only [BitVec.slt_iff_toInt_lt]
  split_ifs with less greater
  · exact (Int.sign_eq_neg_one_of_neg (by omega)).symm
  · exact (Int.sign_eq_one_of_pos (by omega)).symm
  · rw [show l1.toInt - l2.toInt = 0 by omega]
    rfl

theorem compare_lt_zero_iff (l1 l2 : Rlimit) :
    compare l1 l2 < 0 ↔ l1.toInt < l2.toInt := by
  cases l1 with
  | none => cases l2 <;> simp [compare]
  | some word =>
      cases l2 with
      | none => simp [compare]
      | some word' =>
          simp only [compare, int64Compare_eq, Int.sign_neg_iff, toInt_some,
            WithTop.coe_lt_coe]
          omega

theorem compare_swap (l1 l2 : Rlimit) : compare l2 l1 = -compare l1 l2 := by
  cases l1 <;> cases l2 <;> simp [compare, int64Compare_eq]
  rw [← Int.sign_neg, Int.neg_sub]

theorem lt_iff (l1 l2 : Rlimit) : lt l1 l2 = true ↔ l1.toInt < l2.toInt := by
  rw [lt, decide_eq_true_iff, compare_lt_zero_iff]

theorem gt_iff (l1 l2 : Rlimit) : gt l1 l2 = true ↔ l2.toInt < l1.toInt := by
  rw [gt, decide_eq_true_iff, ← compare_lt_zero_iff, compare_swap]
  omega

theorem le_iff (l1 l2 : Rlimit) : le l1 l2 = true ↔ l1.toInt ≤ l2.toInt := by
  rw [← not_lt, ← gt_iff, gt, le, decide_eq_true_iff, decide_eq_true_iff]
  omega

theorem ge_iff (l1 l2 : Rlimit) : ge l1 l2 = true ↔ l2.toInt ≤ l1.toInt := by
  rw [← not_lt, ← lt_iff, lt, ge, decide_eq_true_iff, decide_eq_true_iff]
  omega

theorem eq_iff (l1 l2 : Rlimit) : eq l1 l2 = true ↔ l1 = l2 := by
  rw [← toInt_inj, le_antisymm_iff (a := l1.toInt), ← le_iff, ← ge_iff, eq,
    le, ge, decide_eq_true_iff, decide_eq_true_iff, decide_eq_true_iff]
  omega

/-- `le` is a total order with `None` greatest, and the other relations are
derived from it. -/
structure TotalOrder : Prop where
  refl : ∀ l, le l l = true
  antisymm : ∀ l1 l2, le l1 l2 = true → le l2 l1 = true → l1 = l2
  trans : ∀ l1 l2 l3, le l1 l2 = true → le l2 l3 = true → le l1 l3 = true
  total : ∀ l1 l2, le l1 l2 = true ∨ le l2 l1 = true
  top : ∀ l, le l none = true
  eq_iff : ∀ l1 l2, eq l1 l2 = true ↔ l1 = l2
  ge_iff : ∀ l1 l2, ge l1 l2 = true ↔ le l2 l1 = true
  lt_iff : ∀ l1 l2, lt l1 l2 = true ↔ ¬le l2 l1 = true
  gt_iff : ∀ l1 l2, gt l1 l2 = true ↔ ¬le l1 l2 = true

theorem totalOrder : TotalOrder where
  refl l := (le_iff l l).mpr (le_refl _)
  antisymm l1 l2 first second := toInt_inj.mp
    (le_antisymm ((le_iff l1 l2).mp first) ((le_iff l2 l1).mp second))
  trans l1 l2 l3 first second := (le_iff l1 l3).mpr
    (((le_iff l1 l2).mp first).trans ((le_iff l2 l3).mp second))
  total l1 l2 := by
    rw [le_iff, le_iff]
    exact le_total l1.toInt l2.toInt
  top l := (le_iff l none).mpr le_top
  eq_iff := eq_iff
  ge_iff l1 l2 := by rw [ge_iff, le_iff]
  lt_iff l1 l2 := by rw [lt_iff, le_iff, not_le]
  gt_iff l1 l2 := by rw [gt_iff, le_iff, not_le]

end Rlimit

section System

variable (constants : ResourceConstants) (kernel : Kernel)

def Refuses (limits : Limits) (resource : Resource) (soft hard : Rlimit) :
    Prop :=
  ∃ errno, kernel.setrlimit limits (constants resource)
    ⟨decodeLimit soft, decodeLimit hard⟩ = .error errno

def ReadsBack (limits : Limits) (resource : Resource) (soft hard : Rlimit) :
    Prop :=
  ∀ limits', setrlimit constants kernel limits resource soft hard =
      (limits', .returned ()) →
    ∃ soft' hard', getrlimit constants kernel limits' resource =
        .returned (soft', hard') ∧
      Rlimit.eq soft' soft = true ∧ Rlimit.eq hard' hard = true

theorem setrlimit_ok {limits limits' : Limits} {resource : BitVec 32}
    {rlmt : RlimitC}
    (succeeded : kernel.setrlimit limits resource rlmt = .ok limits') :
    kernel.known resource = true ∧ limits' resource = rlmt := by
  rw [Kernel.setrlimit] at succeeded
  split_ifs at succeeded with invalid
  rw [Bool.or_eq_true, not_or] at invalid
  split at succeeded
  · cases succeeded
  · cases succeeded
    exact ⟨by simpa using invalid.1, Function.update_self _ _ _⟩

theorem readsBack_iff (limits : Limits) (resource : Resource)
    (soft hard : Rlimit) :
    ReadsBack constants kernel limits resource soft hard ↔
      Refuses constants kernel limits resource soft hard ∨
        (soft ≠ some RLIM_INFINITY ∧ hard ≠ some RLIM_INFINITY) := by
  rw [ReadsBack, Refuses, setrlimit, decodeResource_eq]
  cases answered : kernel.setrlimit limits (constants resource)
      ⟨decodeLimit soft, decodeLimit hard⟩ with
  | error errno => simp [answered]
  | ok limits' =>
      obtain ⟨known, stored⟩ := setrlimit_ok kernel answered
      have read : getrlimit constants kernel limits' resource =
          .returned (encodeLimit (decodeLimit soft),
            encodeLimit (decodeLimit hard)) := by
        rw [getrlimit, decodeResource_eq]
        simp only [Kernel.getrlimit, if_pos known, stored, uerror, Outcome.map]
      rw [← encodeLimit_decodeLimit_iff, ← encodeLimit_decodeLimit_iff]
      simp [answered, read, Rlimit.eq_iff]

end System

/-- Limits survive the way to the kernel and back, except that `Some (-1L)`
becomes infinity. -/
theorem rlimit_roundtrip_iff (constants : ResourceConstants)
    (kernel : Kernel) :
    (∀ v : RlimT, decodeLimit (encodeLimit v) = v) ∧
    (∀ limit : Rlimit, encodeLimit (decodeLimit limit) = limit ↔
      limit ≠ some (-1)) ∧
    ∀ (limits : Limits) (resource : Resource) (soft hard : Rlimit),
      ReadsBack constants kernel limits resource soft hard ↔
        Refuses constants kernel limits resource soft hard ∨
          (soft ≠ some (-1) ∧ hard ≠ some (-1)) :=
  ⟨decodeLimit_encodeLimit, encodeLimit_decodeLimit_iff,
    readsBack_iff constants kernel⟩

def permissive : Kernel := ⟨fun _ => true, fun _ _ _ => none⟩

/-- A hard limit of `Some (-1L)` removes the limit. -/
theorem minus_one_reads_back_infinite :
    encodeLimit (decodeLimit (some (-1))) = none ∧
    ¬ReadsBack (fun _ => 7) permissive (fun _ => ⟨0, 0⟩) .RLIMIT_NOFILE
      (some 1024) (some (-1)) := by
  refine ⟨by decide, ?_⟩
  rw [readsBack_iff]
  rintro (⟨errno, refused⟩ | ⟨-, finite⟩)
  · cases refused
  · exact finite rfl

theorem toNat_lt_infinity {v : RlimT} (finite : v ≠ RLIM_INFINITY) :
    v.toNat < 2 ^ 64 - 1 := by
  have bound := v.isLt
  have different : v.toNat ≠ RLIM_INFINITY.toNat :=
    fun same => finite (BitVec.eq_of_toNat_eq same)
  simp only [RLIM_INFINITY, BitVec.toNat_allOnes] at different
  omega

theorem sign_sub_iff (a b : RlimT) :
    (a.toInt - b.toInt).sign = ((a.toNat : Int) - b.toNat).sign ↔
      (a.toNat < 2 ^ 63 ↔ b.toNat < 2 ^ 63) := by
  have aBound := a.isLt
  have bBound := b.isLt
  rw [BitVec.toInt_eq_toNat_cond, BitVec.toInt_eq_toNat_cond]
  split_ifs with aSmall bSmall bSmall
  · simp only [true_iff]
    omega
  · rw [Int.sign_eq_one_of_pos (by omega),
      Int.sign_eq_neg_one_of_neg (show (a.toNat : Int) - b.toNat < 0 by omega)]
    simp only [show (1 : Int) ≠ -1 by decide, false_iff]
    omega
  · rw [Int.sign_eq_neg_one_of_neg (by omega),
      Int.sign_eq_one_of_pos (show 0 < (a.toNat : Int) - b.toNat by omega)]
    simp only [show (-1 : Int) ≠ 1 by decide, false_iff]
    omega
  · rw [show (a.toNat : Int) - (2 ^ 64 : Nat) - ((b.toNat : Int) - (2 ^ 64 : Nat)) =
      (a.toNat : Int) - b.toNat by omega]
    simp only [true_iff]
    omega

/-- Both words stand for non-negative `int64`s, or both for negative ones, or
one of them is infinity. -/
def SameHalf (a b : RlimT) : Prop :=
  a = RLIM_INFINITY ∨ b = RLIM_INFINITY ∨
    (a.toNat < 2 ^ 63 ↔ b.toNat < 2 ^ 63)

theorem compare_encodeLimit_iff (a b : RlimT) :
    (Rlimit.compare (encodeLimit a) (encodeLimit b)).sign =
        ((a.toNat : Int) - b.toNat).sign ↔ SameHalf a b := by
  rw [SameHalf, encodeLimit, encodeLimit]
  split_ifs with aInfinite bInfinite bInfinite
  · simp [aInfinite, bInfinite, Rlimit.compare]
  · have less := toNat_lt_infinity bInfinite
    have top : a.toNat = 2 ^ 64 - 1 := by rw [aInfinite]; rfl
    rw [Int.sign_eq_one_of_pos (show 0 < (a.toNat : Int) - b.toNat by omega)]
    simp [aInfinite, Rlimit.compare]
  · have less := toNat_lt_infinity aInfinite
    have top : b.toNat = 2 ^ 64 - 1 := by rw [bInfinite]; rfl
    rw [Int.sign_eq_neg_one_of_neg
      (show (a.toNat : Int) - b.toNat < 0 by omega)]
    simp [bInfinite, Rlimit.compare]
  · rw [Rlimit.compare, Rlimit.int64Compare_eq, Int.sign_sign, sign_sub_iff]
    simp [aInfinite, bInfinite]

theorem le_encodeLimit_iff {a b : RlimT} (ordered : a.toNat ≤ b.toNat) :
    Rlimit.le (encodeLimit a) (encodeLimit b) = true ↔ SameHalf a b := by
  rw [Rlimit.le_iff, SameHalf, encodeLimit, encodeLimit]
  split_ifs with aInfinite bInfinite bInfinite
  · simp [aInfinite]
  · have less := toNat_lt_infinity bInfinite
    have top : a.toNat = 2 ^ 64 - 1 := by rw [aInfinite]; rfl
    omega
  · simp [bInfinite]
  · rw [Rlimit.toInt_some, Rlimit.toInt_some, WithTop.coe_le_coe,
      BitVec.toInt_eq_toNat_cond, BitVec.toInt_eq_toNat_cond]
    have aBound := a.isLt
    have bBound := b.isLt
    simp only [aInfinite, bInfinite, false_or]
    split_ifs <;> omega

def Enforced (limits : Limits) : Prop :=
  ∀ resource, (limits resource).cur.toNat ≤ (limits resource).max.toNat

theorem Enforced.kernel_setrlimit {kernel : Kernel} {limits limits' : Limits}
    {resource : BitVec 32} {rlmt : RlimitC} (enforced : Enforced limits)
    (succeeded : kernel.setrlimit limits resource rlmt = .ok limits') :
    Enforced limits' := by
  rw [Kernel.setrlimit] at succeeded
  split_ifs at succeeded with invalid
  rw [Bool.or_eq_true, not_or, BitVec.ult_iff_toNat_lt, Nat.not_lt] at invalid
  split at succeeded
  · cases succeeded
  · cases succeeded
    intro other
    by_cases same : other = resource
    · rw [same, Function.update_self]
      exact invalid.2
    · rw [Function.update_of_ne same]
      exact enforced other

structure SetCall where
  resource : Resource
  soft : Rlimit
  hard : Rlimit

def setAll (constants : ResourceConstants) (kernel : Kernel) (limits : Limits)
    (setCalls : List SetCall) : Limits :=
  setCalls.foldl (fun limits setCall => (setrlimit constants kernel limits
    setCall.resource setCall.soft setCall.hard).1) limits

theorem Enforced.setAll {constants : ResourceConstants} {kernel : Kernel}
    {limits : Limits} (enforced : Enforced limits)
    (setCalls : List SetCall) :
    Enforced (setAll constants kernel limits setCalls) := by
  induction setCalls generalizing limits with
  | nil => exact enforced
  | cons setCall rest induction =>
      apply induction
      change Enforced (setrlimit constants kernel limits setCall.resource
        setCall.soft setCall.hard).1
      rw [setrlimit, decodeResource_eq]
      dsimp only
      split
      · exact enforced
      · rename_i succeeded
        exact enforced.kernel_setrlimit succeeded

/-- `Rlimit.compare` is a total order, and orders two limits as the kernel does
exactly when they are in the same half of the words or one is infinity; that
decides whether a soft limit is seen below its hard limit. -/
theorem rlimit_order_iff (constants : ResourceConstants) (kernel : Kernel) :
    (∀ a b : RlimT, (Rlimit.compare (encodeLimit a) (encodeLimit b)).sign =
        ((a.toNat : Int) - b.toNat).sign ↔ SameHalf a b) ∧
    Rlimit.TotalOrder ∧
    ∀ (limits : Limits) (setCalls : List SetCall) (resource : Resource),
      Enforced limits →
      kernel.known (constants resource) = true →
      let rlmt := setAll constants kernel limits setCalls (constants resource)
      ∃ soft hard, getrlimit constants kernel
          (setAll constants kernel limits setCalls) resource =
            .returned (soft, hard) ∧
        (Rlimit.le soft hard = true ↔ SameHalf rlmt.cur rlmt.max) := by
  refine ⟨compare_encodeLimit_iff, Rlimit.totalOrder, ?_⟩
  intro limits setCalls resource enforced known rlmt
  refine ⟨encodeLimit rlmt.cur, encodeLimit rlmt.max, ?_, ?_⟩
  · rw [getrlimit, decodeResource_eq]
    simp only [Kernel.getrlimit, if_pos known, uerror, Outcome.map]
    rfl
  · exact le_encodeLimit_iff (enforced.setAll setCalls (constants resource))

theorem rlimit_order_iff_zero :
    Rlimit.TotalOrder ∧
    ∃ soft hard, getrlimit (fun _ => 7) permissive
        (setAll (fun _ => 7) permissive (fun _ => ⟨0, 0⟩)
          [⟨.RLIMIT_NOFILE, some 10, some 20⟩]) .RLIMIT_NOFILE =
        .returned (soft, hard) ∧ Rlimit.le soft hard = true := by
  obtain ⟨-, total, reads⟩ := rlimit_order_iff (fun _ => 7) permissive
  obtain ⟨soft, hard, read, ordered⟩ := reads (fun _ => ⟨0, 0⟩)
    [⟨.RLIMIT_NOFILE, some 10, some 20⟩] .RLIMIT_NOFILE
    (fun _ => le_refl _) rfl
  exact ⟨total, soft, hard, read, ordered.mpr (.inr (.inr (by decide)))⟩

/-- A hard limit of `2 ^ 63` is seen below a soft limit of `0`. -/
theorem large_limit_seen_below :
    let a : RlimT := 0
    let b : RlimT := 0x8000000000000000
    a.ult b = true ∧
    Rlimit.compare (encodeLimit a) (encodeLimit b) = 1 ∧
    Rlimit.le (encodeLimit a) (encodeLimit b) = false ∧
    ¬(Rlimit.compare (encodeLimit a) (encodeLimit b)).sign =
      ((a.toNat : Int) - b.toNat).sign := by
  decide

end ExtUnix.Process
