import ExtUnix.Data.Machine
import ExtUnix.Runtime.Stub

namespace ExtUnix.Event.Eventfd

open ExtUnix.Data
open ExtUnix.Runtime

/-! `eventfd.c`, over the counter `eventfd(2)` keeps. -/

/-- The counter never holds its largest value. -/
structure Counter where
  value : Nat
  bounded : value < 2 ^ 64 - 1
  deriving DecidableEq

def EINVAL : Errno := 22

/-- A call by any thread or process that has the descriptor.  `refusal` is the
`errno` it gives up with where it would block: `EAGAIN`, or `EINTR` on a
signal.  A call that goes on waiting takes its place later in the history. -/
inductive Call where
  | read (refusal : Errno)
  | write (value : BitVec 64) (refusal : Errno)
  deriving DecidableEq

def kernelRead (counter : Counter) (refusal : Errno) :
    Counter × Except Errno (BitVec 64) :=
  if counter.value = 0 then (counter, .error refusal)
  else (⟨0, by decide⟩, .ok (BitVec.ofNat 64 counter.value))

def kernelWrite (counter : Counter) (value : BitVec 64) (refusal : Errno) :
    Counter × Except Errno Unit :=
  if value = BitVec.allOnes 64 then (counter, .error EINVAL)
  else if fits : counter.value + value.toNat < 2 ^ 64 - 1 then
    (⟨counter.value + value.toNat, fits⟩, .ok ())
  else (counter, .error refusal)

theorem kernelWrite_of_full {counter : Counter} {value : BitVec 64}
    (full : ¬counter.value + value.toNat < 2 ^ 64 - 1) (refusal : Errno) :
    ∃ errno, kernelWrite counter value refusal = (counter, .error errno) := by
  by_cases invalid : value = BitVec.allOnes 64
  · exact ⟨EINVAL, if_pos invalid⟩
  · exact ⟨refusal, (if_neg invalid).trans (dif_neg full)⟩

theorem kernelWrite_of_fits {counter : Counter} {value : BitVec 64}
    (fits : counter.value + value.toNat < 2 ^ 64 - 1) (refusal : Errno) :
    kernelWrite counter value refusal =
      (⟨counter.value + value.toNat, fits⟩, .ok ()) := by
  have valid : value ≠ BitVec.allOnes 64 := by
    rintro rfl
    rw [BitVec.toNat_allOnes] at fits
    omega
  exact (if_neg valid).trans (dif_pos fits)

/-- `caml_extunix_eventfd`: the `int` becomes the `unsigned int` of
`eventfd(2)`. -/
def eventfd (vInit : CamlInt) : Counter :=
  ⟨(intVal vInit).toNat, by
    have := (intVal vInit).isLt
    omega⟩

def eventfdRead (kernel : Except Errno (BitVec 64)) : Outcome (BitVec 64) :=
  uerror "eventfd_read" [] kernel

def eventfdWrite (kernel : Except Errno Unit) : Outcome Unit :=
  uerror "eventfd_write" [] kernel

inductive Answer where
  | read (outcome : Outcome (BitVec 64))
  | write (outcome : Outcome Unit)
  deriving DecidableEq

def step (counter : Counter) : Call → Counter × Answer
  | .read refusal =>
      let (next, result) := kernelRead counter refusal
      (next, .read (eventfdRead result))
  | .write value refusal =>
      let (next, result) := kernelWrite counter value refusal
      (next, .write (eventfdWrite result))

def taken : Call × Answer → Nat
  | (_, .read (.returned value)) => value.toNat
  | _ => 0

def added : Call × Answer → Nat
  | (.write value _, .write (.returned _)) => value.toNat
  | _ => 0

theorem step_balanced (counter : Counter) (call : Call) :
    (step counter call).1.value + taken (call, (step counter call).2) =
      counter.value + added (call, (step counter call).2) := by
  have bounded := counter.bounded
  cases call with
  | read refusal =>
      by_cases empty : counter.value = 0
      · simp [step, kernelRead, empty, eventfdRead, uerror, taken, added]
      · have exact_ : (BitVec.ofNat 64 counter.value).toNat = counter.value := by
          rw [BitVec.toNat_ofNat]
          exact Nat.mod_eq_of_lt (by omega)
        simp only [step, kernelRead, if_neg empty, eventfdRead, uerror, taken,
          added, exact_]
        omega
  | write value refusal =>
      by_cases fits : counter.value + value.toNat < 2 ^ 64 - 1
      · simp [step, kernelWrite_of_fits fits, eventfdWrite, uerror, taken,
          added]
      · obtain ⟨errno, refused⟩ := kernelWrite_of_full fits refusal
        simp [step, refused, eventfdWrite, uerror, taken, added]

theorem step_read_nonzero (counter : Counter) (call : Call) :
    (step counter call).2 ≠ .read (.returned 0) := by
  have bounded := counter.bounded
  cases call with
  | read refusal =>
      by_cases empty : counter.value = 0
      · simp [step, kernelRead, empty, eventfdRead, uerror]
      · simp only [step, kernelRead, if_neg empty, eventfdRead, uerror, ne_eq,
          Answer.read.injEq, Outcome.returned.injEq]
        intro zero
        have := congrArg BitVec.toNat zero
        rw [BitVec.toNat_ofNat, Nat.mod_eq_of_lt (by omega)] at this
        exact empty this
  | write value refusal => simp [step]

/-- Any number of threads may read and write an `eventfd` in any order: the
values read, taken as unsigned numbers, and what is left in the counter are
exactly the initial value and the values written, and no read returns `0`. -/
theorem eventfd_conserves (vInit : CamlInt) (calls : List Call) :
    let history := account step (eventfd vInit) calls
    (run step (eventfd vInit) calls).1.value + (history.map taken).sum =
        (intVal vInit).toNat + (history.map added).sum ∧
      ∀ answer ∈ (run step (eventfd vInit) calls).2,
        answer ≠ .read (.returned 0) := by
  refine ⟨run_balances Counter.value added taken step_balanced _ calls, ?_⟩
  intro answer member
  obtain ⟨index, found⟩ := List.mem_iff_getElem?.mp member
  rw [getElem?_run, Option.map_eq_some_iff] at found
  obtain ⟨call, -, rfl⟩ := found
  exact step_read_nonzero _ call

end ExtUnix.Event.Eventfd
