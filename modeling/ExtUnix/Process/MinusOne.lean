import ExtUnix.Data.Machine
import ExtUnix.Runtime.Stub

namespace ExtUnix.Process.MinusOne

open ExtUnix.Data
open ExtUnix.Runtime

/-! Library functions for which `-1` can be a result: `getpriority` of
`resource.c`, `ptrace_peekdata` and `ptrace_peektext` of `ptrace.c`, and
`sysconf.c`.  `errno` is part of the state. -/

inductive Called (width : Nat) where
  | succeeded (result : BitVec width)
  | failed (errno : Errno) (isError : errno ≠ 0)

/-- `errno` afterwards, and what is returned.  A function that succeeds leaves
`errno` alone. -/
def Called.return {width : Nat} (errno : Errno) :
    Called width → Errno × BitVec width
  | .succeeded result => (errno, result)
  | .failed error _ => (error, -1)

inductive WhichPrio where
  | PRIO_PROCESS (who : CamlInt)
  | PRIO_PGRP (who : CamlInt)
  | PRIO_USER (who : CamlInt)

inductive SysconfName where
  | ARG_MAX
  | CHILD_MAX
  | HOST_NAME_MAX
  | LOGIN_NAME_MAX
  | CLK_TCK
  | OPEN_MAX
  | PAGESIZE
  | RE_DUP_MAX
  | STREAM_MAX
  | SYMLOOP_MAX
  | TTY_NAME_MAX
  | TZNAME_MAX
  | POSIX_VERSION
  | LINE_MAX
  | POSIX2_VERSION
  | PHYS_PAGES
  | AVPHYS_PAGES
  | NPROCESSORS_CONF
  | NPROCESSORS_ONLN
  deriving DecidableEq

def SysconfName.tag : SysconfName → Nat
  | .ARG_MAX => 0
  | .CHILD_MAX => 1
  | .HOST_NAME_MAX => 2
  | .LOGIN_NAME_MAX => 3
  | .CLK_TCK => 4
  | .OPEN_MAX => 5
  | .PAGESIZE => 6
  | .RE_DUP_MAX => 7
  | .STREAM_MAX => 8
  | .SYMLOOP_MAX => 9
  | .TTY_NAME_MAX => 10
  | .TZNAME_MAX => 11
  | .POSIX_VERSION => 12
  | .LINE_MAX => 13
  | .POSIX2_VERSION => 14
  | .PHYS_PAGES => 15
  | .AVPHYS_PAGES => 16
  | .NPROCESSORS_CONF => 17
  | .NPROCESSORS_ONLN => 18

/-- The values of the C constants.  Names the platform lacks are `-1`. -/
structure Constants where
  PRIO_PROCESS : BitVec 32
  PRIO_PGRP : BitVec 32
  PRIO_USER : BitVec 32
  sysconf : SysconfName → BitVec 32

def camlConfTable (constants : Constants) : List (BitVec 32) :=
  [.ARG_MAX, .CHILD_MAX, .HOST_NAME_MAX, .LOGIN_NAME_MAX, .CLK_TCK, .OPEN_MAX,
    .PAGESIZE, .RE_DUP_MAX, .STREAM_MAX, .SYMLOOP_MAX, .TTY_NAME_MAX,
    .TZNAME_MAX, .POSIX_VERSION, .LINE_MAX, .POSIX2_VERSION, .PHYS_PAGES,
    .AVPHYS_PAGES, .NPROCESSORS_CONF, .NPROCESSORS_ONLN].map constants.sysconf

structure Library where
  getpriority : BitVec 32 → BitVec 32 → Called 32
  peekdata : BitVec 32 → BitVec 64 → Called 64
  peektext : BitVec 32 → BitVec 64 → Called 64
  sysconf : BitVec 32 → Called 64

section Stubs

variable (constants : Constants) (library : Library) (errno : Errno)

def decodeWhichPrio : WhichPrio → BitVec 32 × BitVec 32
  | .PRIO_PROCESS who => (constants.PRIO_PROCESS, intVal who)
  | .PRIO_PGRP who => (constants.PRIO_PGRP, intVal who)
  | .PRIO_USER who => (constants.PRIO_USER, intVal who)

def getpriority (vwprio : WhichPrio) : Errno × Outcome CamlInt :=
  let (which, who) := decodeWhichPrio constants vwprio
  let (errno, res) := (library.getpriority which who).return 0
  if res = -1 ∧ errno ≠ 0 then (errno, .unixError errno "getpriority" [])
  else (errno, .returned (valInt res))

/-- `ptrace_peekdata` and `ptrace_peektext` but for their names. -/
def ptracePeek (ptrace : BitVec 32 → BitVec 64 → Called 64) (function : String)
    (vPid : CamlInt) (vAddr : BitVec 64) : Errno × Outcome (BitVec 64) :=
  let (errno, r) := (ptrace (intVal vPid) vAddr).return errno
  if -1 = r ∧ 0 ≠ errno then (errno, .unixError errno function [])
  else (errno, .returned r)

def ptracePeekdata (vPid : CamlInt) (vAddr : BitVec 64) :
    Errno × Outcome (BitVec 64) :=
  ptracePeek errno library.peekdata "ptrace_peekdata" vPid vAddr

def ptracePeektext (vPid : CamlInt) (vAddr : BitVec 64) :
    Errno × Outcome (BitVec 64) :=
  ptracePeek errno library.peektext "ptrace_peektext" vPid vAddr

/-- `caml_extunix_sysconf`, with the handler of `Not_found` around it. -/
def sysconf (name : SysconfName) : Errno × Outcome (BitVec 64) :=
  match (camlConfTable constants)[name.tag]? with
  | none => (errno, .crashed)
  | some sc =>
      if -1 = sc then (errno, .notAvailable "sysconf")
      else
        let (errno, r) := (library.sysconf sc).return errno
        if -1 = r then (errno, .unixError errno "sysconf" [])
        else (errno, .returned r)

end Stubs

/-- A call, with the library it meets.  Calls of other functions leave `errno` at
any value. -/
inductive Action where
  | other (errno : Errno)
  | getpriority (library : Library) (wprio : WhichPrio)
  | peekdata (library : Library) (pid : CamlInt) (addr : BitVec 64)
  | peektext (library : Library) (pid : CamlInt) (addr : BitVec 64)
  | sysconf (library : Library) (name : SysconfName)

inductive Reply where
  | other
  | priority (outcome : Outcome CamlInt)
  | word (outcome : Outcome (BitVec 64))

def step (constants : Constants) (errno : Errno) : Action → Errno × Reply
  | .other errno => (errno, .other)
  | .getpriority library wprio =>
      let (errno, outcome) := MinusOne.getpriority constants library wprio
      (errno, .priority outcome)
  | .peekdata library pid addr =>
      let (errno, outcome) := ptracePeekdata library errno pid addr
      (errno, .word outcome)
  | .peektext library pid addr =>
      let (errno, outcome) := ptracePeektext library errno pid addr
      (errno, .word outcome)
  | .sysconf library name =>
      let (errno, outcome) := MinusOne.sysconf constants library errno name
      (errno, .word outcome)

def Faithful {α : Type} {width : Nat} (value : BitVec width → α)
    (function : String) (called : Called width) (outcome : Outcome α) : Prop :=
  match called with
  | .succeeded result => outcome = .returned (value result)
  | .failed errno _ => outcome = .unixError errno function []

/-- `Unix_error` is only raised when the call set `errno`. -/
def Warranted (called : Called 64) (outcome : Outcome (BitVec 64)) : Prop :=
  ∀ errno function argument, outcome = .unixError errno function argument →
    ∃ isError, called = .failed errno isError

def Correct (constants : Constants) (errno : Errno) : Action → Prop
  | .other _ => True
  | .getpriority library wprio =>
      let (which, who) := decodeWhichPrio constants wprio
      Faithful valInt "getpriority" (library.getpriority which who)
        (MinusOne.getpriority constants library wprio).2
  | .peekdata library pid addr =>
      Faithful id "ptrace_peekdata" (library.peekdata (intVal pid) addr)
        (ptracePeekdata library errno pid addr).2
  | .peektext library pid addr =>
      Faithful id "ptrace_peektext" (library.peektext (intVal pid) addr)
        (ptracePeektext library errno pid addr).2
  | .sysconf library name =>
      Warranted (library.sysconf (constants.sysconf name))
        (MinusOne.sysconf constants library errno name).2

/-- A word that is `-1` is read while `errno` is `0`, and `sysconf` does not
return `-1` for want of a limit. -/
def Unambiguous (constants : Constants) (errno : Errno) : Action → Prop
  | .peekdata library pid addr =>
      library.peekdata (intVal pid) addr = .succeeded (-1) → errno = 0
  | .peektext library pid addr =>
      library.peektext (intVal pid) addr = .succeeded (-1) → errno = 0
  | .sysconf library name => constants.sysconf name ≠ -1 →
      library.sysconf (constants.sysconf name) ≠ .succeeded (-1)
  | _ => True

theorem camlConfTable_tag (constants : Constants) (name : SysconfName) :
    (camlConfTable constants)[name.tag]? = some (constants.sysconf name) := by
  cases name <;> rfl

theorem getpriority_faithful (constants : Constants) (library : Library)
    (wprio : WhichPrio) :
    let (which, who) := decodeWhichPrio constants wprio
    Faithful valInt "getpriority" (library.getpriority which who)
      (getpriority constants library wprio).2 := by
  rw [getpriority]
  dsimp only
  cases library.getpriority (decodeWhichPrio constants wprio).1
      (decodeWhichPrio constants wprio).2 with
  | succeeded result =>
      exact congrArg Prod.snd (if_neg fun stale => stale.2 rfl)
  | failed errno isError =>
      exact congrArg Prod.snd (if_pos ⟨rfl, isError⟩)

theorem ptracePeek_eq (errno : Errno)
    (ptrace : BitVec 32 → BitVec 64 → Called 64) (function : String)
    (pid : CamlInt) (addr : BitVec 64) :
    (ptracePeek errno ptrace function pid addr).2 =
      match ptrace (intVal pid) addr with
      | .succeeded r =>
          if -1 = r ∧ 0 ≠ errno then .unixError errno function []
          else .returned r
      | .failed error _ => .unixError error function [] := by
  rw [ptracePeek]
  cases ptrace (intVal pid) addr with
  | succeeded result =>
      exact apply_ite Prod.snd (-1 = result ∧ 0 ≠ errno) _ _
  | failed error isError =>
      exact congrArg Prod.snd (if_pos ⟨rfl, isError.symm⟩)

theorem ptracePeek_faithful_iff (errno : Errno)
    (ptrace : BitVec 32 → BitVec 64 → Called 64) (function : String)
    (pid : CamlInt) (addr : BitVec 64) :
    Faithful id function (ptrace (intVal pid) addr)
        (ptracePeek errno ptrace function pid addr).2 ↔
      (ptrace (intVal pid) addr = .succeeded (-1) → errno = 0) := by
  rw [ptracePeek_eq]
  cases ptrace (intVal pid) addr with
  | succeeded result =>
      simp only [Faithful, Called.succeeded.injEq, id_eq]
      split_ifs with ambiguous
      · simp only [false_iff]
        exact fun clear => ambiguous.2 (clear ambiguous.1.symm).symm
      · simp only [true_iff]
        intro minusOne
        by_contra stale
        exact ambiguous ⟨minusOne.symm, Ne.symm stale⟩
  | failed error isError => simp [Faithful]

theorem sysconf_eq (constants : Constants) (library : Library) (errno : Errno)
    (name : SysconfName) :
    (sysconf constants library errno name).2 =
      if -1 = constants.sysconf name then .notAvailable "sysconf"
      else
        match library.sysconf (constants.sysconf name) with
        | .succeeded r =>
            if -1 = r then .unixError errno "sysconf" [] else .returned r
        | .failed error _ => .unixError error "sysconf" [] := by
  rw [sysconf, camlConfTable_tag]
  dsimp only
  rw [apply_ite Prod.snd]
  cases library.sysconf (constants.sysconf name) with
  | succeeded result =>
      exact congrArg _ (apply_ite Prod.snd (-1 = result) _ _)
  | failed error isError =>
      exact congrArg _ (congrArg Prod.snd (if_pos rfl))

theorem sysconf_warranted_iff (constants : Constants) (library : Library)
    (errno : Errno) (name : SysconfName) :
    Warranted (library.sysconf (constants.sysconf name))
        (sysconf constants library errno name).2 ↔
      (constants.sysconf name ≠ -1 →
        library.sysconf (constants.sysconf name) ≠ .succeeded (-1)) := by
  rw [sysconf_eq, Warranted]
  split_ifs with missing
  · simp only [false_implies, implies_true, true_iff]
    exact fun present => absurd missing.symm present
  · have present : constants.sysconf name ≠ -1 := Ne.symm missing
    cases library.sysconf (constants.sysconf name) with
    | succeeded result =>
        simp only [reduceCtorEq, exists_false, imp_false, ne_eq, present,
          not_false_eq_true, forall_const, Called.succeeded.injEq]
        split_ifs with minusOne
        · simp [← minusOne]
        · simpa using Ne.symm minusOne
    | failed error isError =>
        simp only [Outcome.unixError.injEq, Called.failed.injEq, ne_eq,
          reduceCtorEq, not_false_eq_true, implies_true, iff_true]
        rintro _ _ _ ⟨rfl, -, -⟩
        exact ⟨isError, rfl⟩

theorem correct_iff_unambiguous (constants : Constants) (errno : Errno)
    (action : Action) :
    Correct constants errno action ↔ Unambiguous constants errno action := by
  cases action with
  | other _ => exact Iff.rfl
  | getpriority library wprio =>
      exact iff_of_true (getpriority_faithful constants library wprio) trivial
  | peekdata library pid addr =>
      exact ptracePeek_faithful_iff errno library.peekdata "ptrace_peekdata"
        pid addr
  | peektext library pid addr =>
      exact ptracePeek_faithful_iff errno library.peektext "ptrace_peektext"
        pid addr
  | sysconf library name =>
      exact sysconf_warranted_iff constants library errno name

/-- Whatever `errno` was, every call of a history does what the library function
did exactly when no `-1` of the history is ambiguous. -/
theorem minus_one_iff (constants : Constants) (errno : Errno)
    (actions : List Action) :
    Along (step constants) (Correct constants) errno actions ↔
      Along (step constants) (Unambiguous constants) errno actions :=
  along_congr (fun _ => True)
    (fun errno action _ => correct_iff_unambiguous constants errno action)
    (fun _ _ _ _ => trivial) trivial actions

/-- After a call that failed with `ENOENT`, a word of all ones is taken for a
failure; and a name without a limit is taken for one at any time. -/
theorem stale_errno_raises :
    let constants : Constants := ⟨0, 1, 2, fun _ => 0⟩
    let library : Library := ⟨fun _ _ => .succeeded 0,
      fun _ _ => .succeeded (-1), fun _ _ => .succeeded (-1),
      fun _ => .succeeded (-1)⟩
    let actions : List Action := [.other 2, .peekdata library 1 0]
    (ptracePeekdata library 2 1 0).2 = .unixError 2 "ptrace_peekdata" [] ∧
      (sysconf constants library 0 .OPEN_MAX).2 =
        .unixError 0 "sysconf" [] ∧
      ¬Along (step constants) (Correct constants) 0 actions := by
  refine ⟨by decide, by decide, ?_⟩
  rintro ⟨-, correct, -⟩
  cases correct

end ExtUnix.Process.MinusOne
