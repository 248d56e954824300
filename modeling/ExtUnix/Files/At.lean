import ExtUnix.Runtime.Stub

namespace ExtUnix.Files

open ExtUnix.Data
open ExtUnix.Runtime

/-! The part of `atfile.c` that takes `at_flag`s. -/

inductive AtFlag where
  | AT_EACCESS
  | AT_SYMLINK_NOFOLLOW
  | AT_REMOVEDIR
  | AT_SYMLINK_FOLLOW
  | AT_NO_AUTOMOUNT
  deriving DecidableEq

def AtFlag.tag : AtFlag → Nat
  | .AT_EACCESS => 0
  | .AT_SYMLINK_NOFOLLOW => 1
  | .AT_REMOVEDIR => 2
  | .AT_SYMLINK_FOLLOW => 3
  | .AT_NO_AUTOMOUNT => 4

abbrev AtConstants := AtFlag → BitVec 32

def linux : AtConstants
  | .AT_EACCESS => 0x200
  | .AT_SYMLINK_NOFOLLOW => 0x100
  | .AT_REMOVEDIR => 0x200
  | .AT_SYMLINK_FOLLOW => 0x400
  | .AT_NO_AUTOMOUNT => 0x800

def atFlagsTable (constants : AtConstants) : List (BitVec 32) := [
  constants .AT_EACCESS, constants .AT_SYMLINK_NOFOLLOW,
  constants .AT_REMOVEDIR, constants .AT_SYMLINK_FOLLOW,
  constants .AT_NO_AUTOMOUNT]

inductive AtCall where
  | fstatat (dirfd : BitVec 32) (name : List UInt8) (flags : BitVec 32)
  | unlinkat (dirfd : BitVec 32) (name : List UInt8) (flags : BitVec 32)
  | linkat (olddirfd : BitVec 32) (oldname : List UInt8)
      (newdirfd : BitVec 32) (newname : List UInt8) (flags : BitVec 32)
  | fchownat (dirfd : BitVec 32) (name : List UInt8)
      (owner group flags : BitVec 32)
  | fchmodat (dirfd : BitVec 32) (name : List UInt8) (mode flags : BitVec 32)
  deriving DecidableEq

def AtCall.flags : AtCall → BitVec 32
  | .fstatat _ _ flags => flags
  | .unlinkat _ _ flags => flags
  | .linkat _ _ _ _ flags => flags
  | .fchownat _ _ _ _ flags => flags
  | .fchmodat _ _ _ flags => flags

def AtCall.strings : AtCall → List (List UInt8)
  | .fstatat _ name _ => [name]
  | .unlinkat _ name _ => [name]
  | .linkat _ oldname _ newname _ => [oldname, newname]
  | .fchownat _ name _ _ _ => [name]
  | .fchmodat _ name _ _ => [name]

structure Stat where
  dev : BitVec 64
  ino : BitVec 64
  mode : BitVec 32
  nlink : BitVec 64
  uid : BitVec 32
  gid : BitVec 32
  rdev : BitVec 64
  size : BitVec 64
  atime : BitVec 64
  mtime : BitVec 64
  ctime : BitVec 64
  deriving DecidableEq

/-- `Unix.stats`.  `kind` is a position in `Unix.file_kind`; the times are
whole seconds. -/
structure Stats where
  dev : CamlInt
  ino : CamlInt
  kind : Nat
  perm : CamlInt
  nlink : CamlInt
  uid : CamlInt
  gid : CamlInt
  rdev : CamlInt
  size : CamlInt
  atime : Int
  mtime : Int
  ctime : Int
  deriving DecidableEq

def S_IFMT : BitVec 32 := 0o170000
def S_IFREG : BitVec 32 := 0o100000

def fileKindTable : List (BitVec 32) := [
  S_IFREG, 0o040000, 0o020000, 0o060000, 0o120000, 0o010000, 0o140000]

def cstToConstr (n : BitVec 32) (tbl : List (BitVec 32)) (deflt : Nat) : Nat :=
  (tbl.findIdx? (· == n)).getD deflt

def statAux (buf : Stat) : Stats where
  dev := valLong buf.dev
  ino := valLong buf.ino
  kind := cstToConstr (buf.mode &&& S_IFMT) fileKindTable 0
  perm := valLong ((buf.mode &&& 0o7777).setWidth 64)
  nlink := valLong buf.nlink
  uid := valLong (buf.uid.setWidth 64)
  gid := valLong (buf.gid.setWidth 64)
  rdev := valLong buf.rdev
  size := valLong buf.size
  atime := buf.atime.toInt
  mtime := buf.mtime.toInt
  ctime := buf.ctime.toInt

structure AtKernel where
  fstatat : AtCall → Except Errno Stat
  other : AtCall → Except Errno Unit

def EOVERFLOW : Errno := 75

def maxLong : Int := 2 ^ 62 - 1

section Stubs

variable (constants : AtConstants) (kernel : AtKernel)

def allowedFlags (mask : BitVec 32) (vFlags : List AtFlag) :
    Option (BitVec 32) :=
  (convertFlagList (atFlagsTable constants) (vFlags.map AtFlag.tag)).map
    (· &&& mask)

abbrev Traced (α : Type) := List (Event AtCall) × Outcome α

def fstatat (vDirfd : CamlInt) (vName : List UInt8) (vFlags : List AtFlag) :
    Traced Stats :=
  let p := statStrdup vName
  match allowedFlags constants (constants .AT_SYMLINK_NOFOLLOW |||
      constants .AT_NO_AUTOMOUNT) vFlags with
  | none => ([.strdup p], .crashed)
  | some flags =>
      let call := AtCall.fstatat (intVal vDirfd) p flags
      ([.strdup p, .call call, .free p],
        match kernel.fstatat call with
        | .error errno => .unixError errno "fstatat" vName
        | .ok buf =>
            if maxLong < buf.size.toInt ∧ buf.mode &&& S_IFMT = S_IFREG then
              .unixError EOVERFLOW "fstatat" vName
            else .returned (statAux buf))

def unlinkat (vDirfd : CamlInt) (vName : List UInt8) (vFlags : List AtFlag) :
    Traced Unit :=
  let p := statStrdup vName
  match allowedFlags constants (constants .AT_REMOVEDIR) vFlags with
  | none => ([.strdup p], .crashed)
  | some flags =>
      let call := AtCall.unlinkat (intVal vDirfd) p flags
      ([.strdup p, .call call, .free p],
        uerror "unlinkat" vName (kernel.other call))

def linkat (vOlddirfd : CamlInt) (vOldname : List UInt8)
    (vNewdirfd : CamlInt) (vNewname : List UInt8) (vFlags : List AtFlag) :
    Traced Unit :=
  let oldname := statStrdup vOldname
  let newname := statStrdup vNewname
  match allowedFlags constants (constants .AT_SYMLINK_FOLLOW) vFlags with
  | none => ([.strdup oldname, .strdup newname], .crashed)
  | some flags =>
      let call := AtCall.linkat (intVal vOlddirfd) oldname (intVal vNewdirfd)
        newname flags
      ([.strdup oldname, .strdup newname, .call call, .free newname,
          .free oldname],
        uerror "linkat" vOldname (kernel.other call))

def fchownat (vDirfd : CamlInt) (vName : List UInt8) (vOwner vGroup : CamlInt)
    (vFlags : List AtFlag) : Traced Unit :=
  let name := statStrdup vName
  match allowedFlags constants (constants .AT_SYMLINK_NOFOLLOW) vFlags with
  | none => ([.strdup name], .crashed)
  | some flags =>
      let call := AtCall.fchownat (intVal vDirfd) name (intVal vOwner)
        (intVal vGroup) flags
      ([.strdup name, .call call, .free name],
        uerror "fchownat" vName (kernel.other call))

def fchmodat (vDirfd : CamlInt) (vName : List UInt8) (vMode : CamlInt)
    (vFlags : List AtFlag) : Traced Unit :=
  let name := statStrdup vName
  match allowedFlags constants (constants .AT_SYMLINK_NOFOLLOW) vFlags with
  | none => ([.strdup name], .crashed)
  | some flags =>
      let call := AtCall.fchmodat (intVal vDirfd) name (intVal vMode) flags
      ([.strdup name, .call call, .free name],
        uerror "fchmodat" vName (kernel.other call))

end Stubs

inductive AtRequest where
  | fstatat (dirfd : CamlInt) (name : List UInt8)
  | unlinkat (dirfd : CamlInt) (name : List UInt8)
  | linkat (olddirfd : CamlInt) (oldname : List UInt8)
      (newdirfd : CamlInt) (newname : List UInt8)
  | fchownat (dirfd : CamlInt) (name : List UInt8) (owner group : CamlInt)
  | fchmodat (dirfd : CamlInt) (name : List UInt8) (mode : CamlInt)
  deriving DecidableEq

def AtRequest.strings : AtRequest → List (List UInt8)
  | .fstatat _ name => [name]
  | .unlinkat _ name => [name]
  | .linkat _ oldname _ newname => [oldname, newname]
  | .fchownat _ name _ _ => [name]
  | .fchmodat _ name _ => [name]

inductive AtResult where
  | stats (stats : Stats)
  | unit
  deriving DecidableEq

def runAt (constants : AtConstants) (kernel : AtKernel) (request : AtRequest)
    (flags : List AtFlag) : Traced AtResult :=
  match request with
  | .fstatat dirfd name =>
      (fstatat constants kernel dirfd name flags).map id (.map .stats)
  | .unlinkat dirfd name =>
      (unlinkat constants kernel dirfd name flags).map id
        (.map fun _ => .unit)
  | .linkat olddirfd oldname newdirfd newname =>
      (linkat constants kernel olddirfd oldname newdirfd newname flags).map id
        (.map fun _ => .unit)
  | .fchownat dirfd name owner group =>
      (fchownat constants kernel dirfd name owner group flags).map id
        (.map fun _ => .unit)
  | .fchmodat dirfd name mode =>
      (fchmodat constants kernel dirfd name mode flags).map id
        (.map fun _ => .unit)

/-- The flags the documentation of a function, or the comment on its mask,
says it supports. -/
def AtRequest.supports : AtRequest → AtFlag → Bool
  | .fstatat _ _, .AT_SYMLINK_NOFOLLOW => true
  | .fstatat _ _, .AT_NO_AUTOMOUNT => true
  | .unlinkat _ _, .AT_REMOVEDIR => true
  | .linkat _ _ _ _, .AT_SYMLINK_FOLLOW => true
  | .fchownat _ _ _ _, .AT_SYMLINK_NOFOLLOW => true
  | .fchmodat _ _ _, .AT_SYMLINK_NOFOLLOW => true
  | _, _ => false

def AtRequest.isUnlinkat : AtRequest → Bool
  | .unlinkat _ _ => true
  | _ => false

def AtRequest.mask (constants : AtConstants) : AtRequest → BitVec 32
  | .fstatat _ _ =>
      constants .AT_SYMLINK_NOFOLLOW ||| constants .AT_NO_AUTOMOUNT
  | .unlinkat _ _ => constants .AT_REMOVEDIR
  | .linkat _ _ _ _ => constants .AT_SYMLINK_FOLLOW
  | .fchownat _ _ _ _ => constants .AT_SYMLINK_NOFOLLOW
  | .fchmodat _ _ _ => constants .AT_SYMLINK_NOFOLLOW

def AtRequest.passed (constants : AtConstants) (request : AtRequest)
    (flags : List AtFlag) : BitVec 32 :=
  union (flags.map constants) &&& request.mask constants

theorem allowedFlags_eq (constants : AtConstants) (mask : BitVec 32)
    (flags : List AtFlag) :
    allowedFlags constants mask flags =
      some (union (flags.map constants) &&& mask) := by
  have listed : ∀ flag : AtFlag,
      (atFlagsTable constants)[flag.tag]? = some (constants flag) := by
    intro flag
    cases flag <;> rfl
  rw [allowedFlags, convertFlagList_map listed, Option.map_some]

theorem runAt_calls (constants : AtConstants) (kernel : AtKernel)
    (request : AtRequest) (flags : List AtFlag) :
    ∃ call, calls (runAt constants kernel request flags).1 = [call] ∧
      call.flags = request.passed constants flags := by
  cases request <;>
    simp [runAt, fstatat, unlinkat, linkat, fchownat, fchmodat, allowedFlags_eq,
      calls, AtCall.flags, AtRequest.passed, AtRequest.mask]

theorem runAt_congr (constants : AtConstants) (kernel : AtKernel)
    {request : AtRequest} {first second : List AtFlag}
    (same : request.passed constants first = request.passed constants second) :
    runAt constants kernel request first =
      runAt constants kernel request second := by
  cases request <;>
    simp only [AtRequest.passed, AtRequest.mask] at same <;>
    simp only [runAt, fstatat, unlinkat, linkat, fchownat, fchmodat,
      allowedFlags_eq, same]

/-! On Linux `AT_EACCESS` and `AT_REMOVEDIR` are the same bit. -/

def AtRequest.requested (request : AtRequest) (flags : List AtFlag) :
    BitVec 32 :=
  union ((flags.filter request.supports).map linux)

def AtRequest.admits (request : AtRequest) (flag : AtFlag) : Bool :=
  request.supports flag || (request.isUnlinkat && flag = .AT_EACCESS)

theorem AtRequest.linux_mask (request : AtRequest) (flag : AtFlag) :
    linux flag &&& request.mask linux =
      if request.admits flag then linux flag else 0 := by
  cases request <;> cases flag <;>
    simp [linux, AtRequest.mask, AtRequest.admits, AtRequest.supports,
      AtRequest.isUnlinkat]

theorem AtRequest.passed_linux (request : AtRequest) (flags : List AtFlag) :
    request.passed linux flags =
      union ((flags.filter request.admits).map linux) := by
  rw [AtRequest.passed, union_and, List.map_map, union_filter]
  congr 2
  funext flag
  exact request.linux_mask flag

theorem AtRequest.passed_supported (request : AtRequest)
    (flags : List AtFlag) :
    request.passed linux (flags.filter request.supports) =
      request.requested flags := by
  rw [AtRequest.passed_linux, List.filter_filter, AtRequest.requested]
  congr 3
  funext flag
  rw [AtRequest.admits]
  cases request.supports flag <;> simp

theorem union_linux {flags : List AtFlag} {kept : AtFlag → Bool}
    {word : BitVec 32} (same : ∀ flag, kept flag = true → linux flag = word) :
    union ((flags.filter kept).map linux) =
      if ∃ flag ∈ flags, kept flag = true then word else 0 := by
  induction flags with
  | nil => simp
  | cons flag rest induction =>
      cases isKept : kept flag with
      | false =>
          rw [List.filter_cons_of_neg (by simp [isKept]), induction]
          simp [isKept]
      | true =>
          have listed : ∃ other ∈ flag :: rest, kept other = true :=
            ⟨flag, by simp, isKept⟩
          rw [List.filter_cons_of_pos isKept, List.map_cons, union_cons,
            same flag isKept, induction, if_pos listed]
          split_ifs
          · exact BitVec.or_self
          · exact BitVec.or_zero

theorem AtRequest.passed_unlinkat {request : AtRequest}
    (unlinks : request.isUnlinkat = true) (flags : List AtFlag) :
    request.passed linux flags =
      if ∃ flag ∈ flags, flag = .AT_REMOVEDIR ∨ flag = .AT_EACCESS then 0x200
      else 0 := by
  have admits : ∀ flag, request.admits flag = true ↔
      flag = .AT_REMOVEDIR ∨ flag = .AT_EACCESS := by
    intro flag
    cases request <;> cases flag <;>
      simp_all [AtRequest.admits, AtRequest.supports, AtRequest.isUnlinkat]
  have same : ∀ flag, request.admits flag = true → linux flag = 0x200 := by
    intro flag admitted
    rcases (admits flag).mp admitted with rfl | rfl
    · rfl
    · rfl
  simp only [AtRequest.passed_linux, union_linux same, admits]

theorem AtRequest.requested_unlinkat {request : AtRequest}
    (unlinks : request.isUnlinkat = true) (flags : List AtFlag) :
    request.requested flags = if .AT_REMOVEDIR ∈ flags then 0x200 else 0 := by
  have supports : ∀ flag, request.supports flag = true ↔
      flag = .AT_REMOVEDIR := by
    intro flag
    cases request <;> cases flag <;>
      simp_all [AtRequest.supports, AtRequest.isUnlinkat]
  have same : ∀ flag, request.supports flag = true → linux flag = 0x200 := by
    intro flag supported
    rw [(supports flag).mp supported]
    rfl
  simp only [AtRequest.requested, union_linux same, supports, exists_eq_right]

theorem AtRequest.passed_eq_requested_iff (request : AtRequest)
    (flags : List AtFlag) :
    request.passed linux flags = request.requested flags ↔
      (request.isUnlinkat = true → .AT_EACCESS ∈ flags →
        .AT_REMOVEDIR ∈ flags) := by
  by_cases unlinks : request.isUnlinkat = true
  · rw [AtRequest.passed_unlinkat unlinks, AtRequest.requested_unlinkat unlinks]
    by_cases removes : .AT_REMOVEDIR ∈ flags
    · rw [if_pos removes, if_pos ⟨_, removes, .inl rfl⟩]
      simp [removes]
    · rw [if_neg removes]
      by_cases accesses : .AT_EACCESS ∈ flags
      · rw [if_pos ⟨_, accesses, .inr rfl⟩]
        simp [removes, accesses, unlinks]
      · have neither : ¬∃ flag ∈ flags,
            flag = .AT_REMOVEDIR ∨ flag = .AT_EACCESS := by
          rintro ⟨flag, member, rfl | rfl⟩
          · exact removes member
          · exact accesses member
        rw [if_neg neither]
        simp [accesses]
  · have same : request.admits = request.supports := by
      funext flag
      rw [AtRequest.admits, Bool.eq_false_iff.mpr unlinks]
      simp
    rw [AtRequest.passed_linux, same]
    exact ⟨fun _ isUnlink => absurd isUnlink unlinks, fun _ => rfl⟩

/-- The kernel is given the supported flags of the list and no others, so that
the others might as well not be there, and only a listed `AT_REMOVEDIR` makes
`unlinkat` remove a directory. -/
def IgnoresUnsupported (kernel : AtKernel) (request : AtRequest)
    (flags : List AtFlag) : Prop :=
  (∃ call, calls (runAt linux kernel request flags).1 = [call] ∧
    call.flags = request.requested flags ∧
    (request.isUnlinkat = true → call.flags &&& linux .AT_REMOVEDIR ≠ 0 →
      .AT_REMOVEDIR ∈ flags)) ∧
  runAt linux kernel request flags =
    runAt linux kernel request (flags.filter request.supports)

/-- Unsupported flags are ignored, but for `AT_EACCESS`, which `unlinkat` takes for
`AT_REMOVEDIR`. -/
theorem at_flags_ignored_iff (kernel : AtKernel) (request : AtRequest)
    (flags : List AtFlag) :
    IgnoresUnsupported kernel request flags ↔
      (request.isUnlinkat = true → .AT_EACCESS ∈ flags →
        .AT_REMOVEDIR ∈ flags) := by
  rw [← AtRequest.passed_eq_requested_iff]
  obtain ⟨call, made, passes⟩ := runAt_calls linux kernel request flags
  constructor
  · rintro ⟨⟨other, alsoMade, requested, -⟩, -⟩
    rw [made] at alsoMade
    cases alsoMade
    rw [← passes, requested]
  · intro equal
    refine ⟨⟨call, made, passes.trans equal, ?_⟩, ?_⟩
    · intro unlinks removes
      by_contra unlisted
      rw [passes, equal, AtRequest.requested_unlinkat unlinks,
        if_neg unlisted] at removes
      exact removes rfl
    · apply runAt_congr
      rw [equal, AtRequest.passed_supported]

/-- `unlinkat dirfd name [AT_EACCESS]` asks for a directory to be removed. -/
theorem unlinkat_eaccess_removes_directory :
    let kernel : AtKernel := ⟨fun _ => .error 2, fun _ => .ok ()⟩
    let request := AtRequest.unlinkat 3 [100]
    calls (runAt linux kernel request [.AT_EACCESS]).1 =
        [.unlinkat 3 [100] (linux .AT_REMOVEDIR)] ∧
      ¬IgnoresUnsupported kernel request [.AT_EACCESS] := by
  intro kernel request
  have made : calls (runAt linux kernel request [.AT_EACCESS]).1 =
      [.unlinkat 3 [100] (linux .AT_REMOVEDIR)] := by decide
  refine ⟨made, ?_⟩
  rintro ⟨⟨call, alsoMade, requested, -⟩, -⟩
  rw [made] at alsoMade
  cases alsoMade
  exact absurd requested (by decide)

end ExtUnix.Files
