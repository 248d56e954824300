import ExtUnix.Runtime.Stub

namespace ExtUnix.Process.Wait4

open ExtUnix.Data
open ExtUnix.Runtime

/-! `wait4.c`. -/

inductive WaitFlag where
  | WNOHANG
  | WUNTRACED
  deriving DecidableEq

def WaitFlag.tag : WaitFlag → Nat
  | .WNOHANG => 0
  | .WUNTRACED => 1

abbrev WaitConstants := WaitFlag → BitVec 32

def waitFlagTable (constants : WaitConstants) : List (BitVec 32) :=
  [constants .WNOHANG, constants .WUNTRACED]

theorem waitFlagTable_tag (constants : WaitConstants) (flag : WaitFlag) :
    (waitFlagTable constants)[flag.tag]? = some (constants flag) := by
  cases flag <;> rfl

structure Timeval where
  tvSec : BitVec 64
  tvUsec : BitVec 64
  deriving DecidableEq

structure Rusage where
  ruUtime : Timeval
  ruStime : Timeval
  ruMaxrss : BitVec 64
  deriving DecidableEq

def WIFEXITED (status : BitVec 32) : Bool := status &&& 0x7f == 0
def WEXITSTATUS (status : BitVec 32) : BitVec 32 := (status &&& 0xff00) >>> 8
def WIFSTOPPED (status : BitVec 32) : Bool := status &&& 0xff == 0x7f
def WSTOPSIG (status : BitVec 32) : BitVec 32 := WEXITSTATUS status
def WTERMSIG (status : BitVec 32) : BitVec 32 := status &&& 0x7f

/-- What became of a child.  A stop may carry an event of `ptrace`. -/
inductive Change where
  | exited (code : BitVec 8)
  | signaled (signal : BitVec 7) (core : Bool)
      (isSignal : signal ≠ 0 ∧ signal ≠ 0x7f)
  | stopped (signal : BitVec 8) (event : BitVec 16)

def Change.encode : Change → BitVec 32
  | .exited code => (0 : BitVec 16) ++ code ++ (0 : BitVec 8)
  | .signaled signal core _ =>
      (0 : BitVec 24) ++ BitVec.ofBool core ++ signal
  | .stopped signal event => event ++ signal ++ (0x7f : BitVec 8)

structure Wait4Call where
  pid : BitVec 32
  options : BitVec 32
  deriving DecidableEq

inductive Waited where
  | failed (errno : Errno)
  | noChild
  | reported (pid : BitVec 32) (change : Change) (rusage : Rusage)
      (positive : 0 < pid.toInt)

structure Locals where
  wstatus : BitVec 32
  rusage : Rusage
  deriving DecidableEq

def Waited.fill (locals : Locals) : Waited → Except Errno (BitVec 32 × Locals)
  | .failed errno => .error errno
  | .noChild => .ok (0, locals)
  | .reported pid change rusage _ => .ok (pid, ⟨change.encode, rusage⟩)

inductive ProcessStatus where
  | WEXITED (code : CamlInt)
  | WSIGNALED (signal : CamlInt)
  | WSTOPPED (signal : CamlInt)
  deriving DecidableEq

variable {Double : Type}

structure Usage (Double : Type) where
  ruUtime : Double
  ruStime : Double
  ruMaxrss : BitVec 64
  deriving DecidableEq

structure Triple (Double : Type) where
  pid : CamlInt
  status : ProcessStatus
  usage : Usage Double
  deriving DecidableEq

/-- `caml_rev_convert_signal_number`, with the table `posix_signals` of the
runtime. -/
def revConvertSignalNumber (posixSignals : List (BitVec 32))
    (signo : BitVec 32) : BitVec 32 :=
  match posixSignals.findIdx? (· == signo) with
  | some index => BitVec.ofInt 32 (-(index : Int) - 1)
  | none => signo

section Stubs

-- `seconds` is `(double)tv.tv_sec + (double)tv.tv_usec / 1e6`.
variable (constants : WaitConstants) (posixSignals : List (BitVec 32))
  (seconds : Timeval → Double)

def decodeStatus (status : BitVec 32) : ProcessStatus :=
  if WIFEXITED status then .WEXITED (valInt (WEXITSTATUS status))
  else if WIFSTOPPED status then
    .WSTOPPED (valInt (revConvertSignalNumber posixSignals (WSTOPSIG status)))
  else
    .WSIGNALED (valInt (revConvertSignalNumber posixSignals (WTERMSIG status)))

def convertRusage (rusage : Rusage) : Usage Double :=
  ⟨seconds rusage.ruUtime, seconds rusage.ruStime, rusage.ruMaxrss⟩

def allocWait4Return (pid status : BitVec 32) (rusage : Rusage) :
    Triple Double :=
  let status := if pid = 0 then 0 else status
  ⟨valInt pid, decodeStatus posixSignals status, convertRusage seconds rusage⟩

def wait4 (kernel : Wait4Call → Waited) (locals : Locals)
    (vwaitFlags : List WaitFlag) (vpidReq : CamlInt) :
    List Wait4Call × Outcome (Triple Double) :=
  let pidReq := intVal vpidReq
  match convertFlagList (waitFlagTable constants)
      (vwaitFlags.map WaitFlag.tag) with
  | none => ([], .crashed)
  | some options =>
      let call : Wait4Call := ⟨pidReq, options⟩
      ([call], (uerror "wait4" [] ((kernel call).fill locals)).map
        fun (pid, filled) =>
          allocWait4Return posixSignals seconds pid filled.wstatus
            filled.rusage)

end Stubs

def Change.status (posixSignals : List (BitVec 32)) : Change → ProcessStatus
  | .exited code => .WEXITED (code.setWidth 63)
  | .signaled signal _ _ =>
      .WSIGNALED (valInt (revConvertSignalNumber posixSignals
        (signal.setWidth 32)))
  | .stopped signal _ =>
      .WSTOPPED (valInt (revConvertSignalNumber posixSignals
        (signal.setWidth 32)))

theorem append_and_allOnes {n m k : Nat} (high : BitVec n) (low : BitVec m)
    (inside : k ≤ m) :
    (high ++ low) &&& (BitVec.allOnes k).setWidth (n + m) =
      (low.setWidth k).setWidth (n + m) := by
  apply BitVec.eq_of_getLsbD_eq
  intro index bound
  simp only [BitVec.getLsbD_and, BitVec.getLsbD_append, BitVec.getLsbD_setWidth,
    BitVec.getLsbD_allOnes]
  by_cases isLow : index < k
  · simp [isLow, bound, show index < m by omega]
  · simp [isLow]

theorem WEXITSTATUS_append (event : BitVec 16) (code low : BitVec 8) :
    WEXITSTATUS (event ++ code ++ low) = code.setWidth 32 := by
  apply BitVec.eq_of_getLsbD_eq
  intro index bound
  have shifted : (0xff00 : BitVec 32) =
      (BitVec.allOnes 8).setWidth 32 <<< 8 := by
    decide
  have above : ¬8 + index < 8 := by omega
  rw [WEXITSTATUS, BitVec.getLsbD_ushiftRight, shifted]
  simp only [BitVec.getLsbD_and, BitVec.getLsbD_append,
    BitVec.getLsbD_shiftLeft, BitVec.getLsbD_setWidth, BitVec.getLsbD_allOnes]
  by_cases isCode : index < 8
  · simp [isCode, above, show 8 + index < 32 by omega,
      show 8 + index - 8 = index by omega, bound]
  · simp [isCode, show 8 + index - 8 = index by omega,
      BitVec.getLsbD_of_ge code index (by omega)]

theorem WIFEXITED_iff (status : BitVec 32) :
    WIFEXITED status = true ↔ WTERMSIG status = 0 := by
  rw [WIFEXITED, WTERMSIG, beq_iff_eq]

theorem WTERMSIG_append (high : BitVec 24) (low : BitVec 8) :
    WTERMSIG (high ++ low) = (low.setWidth 7).setWidth 32 :=
  append_and_allOnes high low (show 7 ≤ 8 by decide)

theorem WTERMSIG_signal (high : BitVec 25) (signal : BitVec 7) :
    WTERMSIG (high ++ signal) = signal.setWidth 32 := by
  have low := append_and_allOnes high signal (le_refl 7)
  rw [BitVec.setWidth_eq] at low
  exact low

theorem WTERMSIG_of_stopped {status : BitVec 32}
    (stopped : WIFSTOPPED status = true) : WTERMSIG status = 0x7f := by
  rw [WIFSTOPPED, beq_iff_eq] at stopped
  have masked : status &&& 0xff &&& 0x7f = status &&& 0x7f := by
    rw [BitVec.and_assoc]
    rfl
  rw [WTERMSIG, ← masked, stopped]
  rfl

theorem valInt_setWidth (code : BitVec 8) :
    valInt (code.setWidth 32) = code.setWidth 63 := by
  have positive : (code.setWidth 32).msb = false := by
    rw [BitVec.msb_eq_false_iff_two_mul_lt, BitVec.toNat_setWidth]
    omega
  rw [valInt, BitVec.signExtend_eq_setWidth_of_msb_false positive]
  apply BitVec.eq_of_toNat_eq
  simp only [BitVec.toNat_setWidth]
  omega

theorem decodeStatus_encode (posixSignals : List (BitVec 32))
    (change : Change) :
    decodeStatus posixSignals change.encode = change.status posixSignals := by
  rw [decodeStatus]
  cases change with
  | exited code =>
      have exited : WIFEXITED (Change.exited code).encode = true := by
        rw [WIFEXITED_iff]
        exact WTERMSIG_append ((0 : BitVec 16) ++ code) 0
      have own : WEXITSTATUS (Change.exited code).encode = code.setWidth 32 :=
        WEXITSTATUS_append 0 code 0
      rw [if_pos exited, own, Change.status, valInt_setWidth]
  | signaled signal core isSignal =>
      have own : WTERMSIG (Change.signaled signal core isSignal).encode =
          signal.setWidth 32 :=
        WTERMSIG_signal ((0 : BitVec 24) ++ BitVec.ofBool core) signal
      rw [if_neg, if_neg, own, Change.status]
      · intro stopped
        have low := WTERMSIG_of_stopped stopped
        rw [own] at low
        exact isSignal.2 (by simpa using congrArg (BitVec.setWidth 7) low)
      · rw [WIFEXITED_iff, own]
        intro zero
        exact isSignal.1 (by simpa using congrArg (BitVec.setWidth 7) zero)
  | stopped signal event =>
      have stopped : WIFSTOPPED (Change.stopped signal event).encode = true := by
        rw [WIFSTOPPED, beq_iff_eq]
        exact append_and_allOnes (event ++ signal) (0x7f : BitVec 8) (le_refl 8)
      have own : WSTOPSIG (Change.stopped signal event).encode =
          signal.setWidth 32 :=
        WEXITSTATUS_append event signal 0x7f
      rw [if_neg, if_pos stopped, own, Change.status]
      rw [WIFEXITED_iff, WTERMSIG_of_stopped stopped]
      decide

section Runs

variable (constants : WaitConstants) (posixSignals : List (BitVec 32))
  (seconds : Timeval → Double) (kernel : Wait4Call → Waited)
  (flags : List WaitFlag) (pid : CamlInt)

def answer : Waited := kernel ⟨intVal pid, union (flags.map constants)⟩

/-- Two runs that find different contents in the variables have one result, and
a child that is reported has the status the kernel encoded. -/
def Determined (first second : Locals) : Prop :=
  let run := fun locals =>
    (wait4 constants posixSignals seconds kernel locals flags pid).2
  run first = run second ∧
    ∀ child change rusage positive,
      answer constants kernel flags pid =
          .reported child change rusage positive →
        ∃ usage, run first = .returned
          ⟨valInt child, change.status posixSignals, usage⟩

theorem wait4_calls (locals : Locals) :
    (wait4 constants posixSignals seconds kernel locals flags pid).1 =
      [⟨intVal pid, union (flags.map constants)⟩] := by
  rw [wait4, convertFlagList_map (waitFlagTable_tag constants)]

theorem wait4_eq (locals : Locals) :
    (wait4 constants posixSignals seconds kernel locals flags pid).2 =
      match answer constants kernel flags pid with
      | .failed errno => .unixError errno "wait4" []
      | .noChild => .returned ⟨0, .WEXITED 0,
          convertRusage seconds locals.rusage⟩
      | .reported child change rusage _ => .returned
          ⟨valInt child, change.status posixSignals,
            convertRusage seconds rusage⟩ := by
  rw [wait4, convertFlagList_map (waitFlagTable_tag constants)]
  change (uerror "wait4" []
    ((answer constants kernel flags pid).fill locals)).map _ = _
  cases answer constants kernel flags pid with
  | failed errno => rfl
  | noChild =>
      have zero : decodeStatus posixSignals 0 = .WEXITED 0 :=
        decodeStatus_encode posixSignals (.exited 0)
      simp only [Waited.fill, uerror, Outcome.map, allocWait4Return, if_true,
        zero]
      rfl
  | reported child change rusage positive =>
      have nonzero : child ≠ 0 := by
        rintro rfl
        exact absurd positive (by decide)
      simp only [Waited.fill, uerror, Outcome.map, allocWait4Return,
        if_neg nonzero, decodeStatus_encode]

/-- `wait4` depends on what the kernel reported only, unless there was no child
to report and the variables held two different usages. -/
theorem wait4_determined_iff (first second : Locals) :
    Determined constants posixSignals seconds kernel flags pid first second ↔
      (answer constants kernel flags pid = .noChild →
        convertRusage seconds first.rusage =
          convertRusage seconds second.rusage) := by
  rw [Determined]
  simp only [wait4_eq]
  cases answer constants kernel flags pid with
  | failed errno => simp
  | noChild => simp
  | reported child change rusage positive =>
      simp only [true_and, reduceCtorEq, false_implies, iff_true]
      rintro _ _ _ _ ⟨⟩
      exact ⟨_, rfl⟩

end Runs

/-- With `WNOHANG` and no child to report, `ru_maxrss` is what was on the
stack. -/
theorem nohang_reads_stack :
    let constants : WaitConstants := fun
      | .WNOHANG => 1
      | .WUNTRACED => 2
    let stack (word : BitVec 64) : Locals := ⟨0, ⟨⟨0, 0⟩, ⟨0, 0⟩, word⟩⟩
    let run := fun locals => (wait4 constants [] (fun _ => ())
      (fun _ => .noChild) locals [.WNOHANG] (-1)).2
    run (stack 7) = .returned ⟨0, .WEXITED 0, ⟨(), (), 7⟩⟩ ∧
      run (stack 8) = .returned ⟨0, .WEXITED 0, ⟨(), (), 8⟩⟩ ∧
      ¬Determined constants [] (fun _ => ()) (fun _ => .noChild) [.WNOHANG]
        (-1) (stack 7) (stack 8) := by
  intro constants stack run
  have seven : run (stack 7) = .returned ⟨0, .WEXITED 0, ⟨(), (), 7⟩⟩ := by
    decide
  have eight : run (stack 8) = .returned ⟨0, .WEXITED 0, ⟨(), (), 8⟩⟩ := by
    decide
  refine ⟨seven, eight, ?_⟩
  rintro ⟨same, -⟩
  have words : run (stack 7) = run (stack 8) := same
  rw [seven, eight] at words
  exact absurd words (by decide)

end ExtUnix.Process.Wait4
