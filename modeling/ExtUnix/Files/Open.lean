import ExtUnix.Runtime.Stub

namespace ExtUnix.Files

open ExtUnix.Data
open ExtUnix.Runtime

/-! `common.c` and the stubs that convert `Unix.open_flag`s with it: `openat`,
`posix_openpt` and `mkostemp`. -/

/-- `Unix.open_flag`, in the order of the standard library.  A later one may
have constructors `beyond` the table. -/
inductive OpenFlag where
  | O_RDONLY
  | O_WRONLY
  | O_RDWR
  | O_NONBLOCK
  | O_APPEND
  | O_CREAT
  | O_TRUNC
  | O_EXCL
  | O_NOCTTY
  | O_DSYNC
  | O_SYNC
  | O_RSYNC
  | O_SHARE_DELETE
  | O_CLOEXEC
  | O_KEEPEXEC
  | beyond (count : Nat)
  deriving DecidableEq

def OpenFlag.tag : OpenFlag → Nat
  | .O_RDONLY => 0
  | .O_WRONLY => 1
  | .O_RDWR => 2
  | .O_NONBLOCK => 3
  | .O_APPEND => 4
  | .O_CREAT => 5
  | .O_TRUNC => 6
  | .O_EXCL => 7
  | .O_NOCTTY => 8
  | .O_DSYNC => 9
  | .O_SYNC => 10
  | .O_RSYNC => 11
  | .O_SHARE_DELETE => 12
  | .O_CLOEXEC => 13
  | .O_KEEPEXEC => 14
  | .beyond count => 15 + count

abbrev OpenConstants := OpenFlag → BitVec 32

def openFlagTable (constants : OpenConstants) : List (BitVec 32) := [
  constants .O_RDONLY, constants .O_WRONLY, constants .O_RDWR,
  constants .O_NONBLOCK, constants .O_APPEND, constants .O_CREAT,
  constants .O_TRUNC, constants .O_EXCL, constants .O_NOCTTY,
  constants .O_DSYNC, constants .O_SYNC, constants .O_RSYNC,
  0, constants .O_CLOEXEC, constants .O_KEEPEXEC]

/-- Flags outside the table are ignored. -/
def extunixOpenFlags (constants : OpenConstants) (list : List Nat) :
    BitVec 32 :=
  let table := openFlagTable constants
  list.foldl (fun res flag =>
    if _inside : flag < table.length then res ||| table[flag] else res) 0

def OpenFlag.value (constants : OpenConstants) : OpenFlag → BitVec 32
  | .O_SHARE_DELETE => 0
  | .beyond _ => 0
  | flag => constants flag

theorem openFlagTable_tag (constants : OpenConstants) (flag : OpenFlag) :
    (openFlagTable constants)[flag.tag]?.getD 0 = flag.value constants := by
  cases flag with
  | beyond count =>
      have outside : (openFlagTable constants).length ≤ 15 + count :=
        Nat.le_add_right 15 count
      rw [OpenFlag.tag, List.getElem?_eq_none outside]
      rfl
  | _ => rfl

theorem extunixOpenFlags_eq (constants : OpenConstants)
    (flags : List OpenFlag) :
    extunixOpenFlags constants (flags.map OpenFlag.tag) =
      union (flags.map (OpenFlag.value constants)) := by
  have entry : ∀ (res : BitVec 32) (flag : OpenFlag),
      (if _inside : flag.tag < (openFlagTable constants).length then
        res ||| (openFlagTable constants)[flag.tag] else res) =
      res ||| flag.value constants := by
    intro res flag
    rw [← openFlagTable_tag]
    split_ifs with inside
    · rw [List.getElem?_eq_getElem inside, Option.getD_some]
    · rw [List.getElem?_eq_none (not_lt.mp inside), Option.getD_none]
      exact BitVec.or_zero.symm
  rw [extunixOpenFlags, List.foldl_map]
  simp only [entry]
  rw [foldl_or]
  exact BitVec.zero_or

theorem extunixOpenFlags_cloexec (constants : OpenConstants)
    (flags : List OpenFlag) :
    extunixOpenFlags constants (flags.map OpenFlag.tag) |||
        constants .O_CLOEXEC =
      union ((flags ++ [OpenFlag.O_CLOEXEC]).map (OpenFlag.value constants)) := by
  rw [extunixOpenFlags_eq, List.map_append, union_append]
  exact congrArg _ BitVec.or_zero.symm

inductive OpenCall where
  | openat (dirfd : BitVec 32) (path : List UInt8) (flags perm : BitVec 32)
  | posixOpenpt (flags : BitVec 32)
  | mkostemps (template : List UInt8) (suffixlen flags : BitVec 32)
  deriving DecidableEq

/-- The descriptor that is opened, and what `mkostemps` makes of the string it
is given, also where it fails. -/
structure OpenKernel where
  descriptor : OpenCall → Except Errno (BitVec 32)
  filled : OpenCall → List UInt8

section Stubs

variable (constants : OpenConstants) (kernel : OpenKernel)

def openat (vDirfd : CamlInt) (vPath : List UInt8) (flags : List OpenFlag)
    (vPerm : CamlInt) : Trace OpenCall CamlInt :=
  let path := statStrdup vPath
  let cvFlags := extunixOpenFlags constants (flags.map OpenFlag.tag)
  let call := OpenCall.openat (intVal vDirfd) path cvFlags (intVal vPerm)
  copying [path] call [path]
    ((uerror "openat" vPath (kernel.descriptor call)).map valInt)

def posixOpenpt (flags : List OpenFlag) : Trace OpenCall CamlInt :=
  let cvFlags := extunixOpenFlags constants (flags.map OpenFlag.tag)
  let call := OpenCall.posixOpenpt cvFlags
  copying [] call []
    ((uerror "posix_openpt" [] (kernel.descriptor call)).map valInt)

/-- `caml_extunix_internal_mkostemps`, with the bytes as it leaves them.  The
exception holds the same bytes. -/
def internalMkostemps (vTemplate : List UInt8) (vSuffixlen : CamlInt)
    (vFlags : List OpenFlag) : Trace OpenCall (CamlInt × List UInt8) :=
  let template := stringVal vTemplate
  let flags := extunixOpenFlags constants (vFlags.map OpenFlag.tag) |||
    constants .O_CLOEXEC
  let call := OpenCall.mkostemps template (intVal vSuffixlen) flags
  let after := kernel.filled call ++ vTemplate.drop template.length
  copying [] call []
    ((uerror "mkostemps" after (kernel.descriptor call)).map
      fun ret => (valInt ret, after))

def mkostemp (suffix : Option (List UInt8)) (flags : Option (List OpenFlag))
    (start : List UInt8) : Trace OpenCall (CamlInt × List UInt8) :=
  let suffix := suffix.getD []
  let s := start ++ List.replicate 6 88 ++ suffix
  internalMkostemps constants kernel s (BitVec.ofNat 63 suffix.length)
    (flags.getD [])

end Stubs

def OpenCall.strings : OpenCall → List (List UInt8)
  | .openat _ path _ _ => [path]
  | .posixOpenpt _ => []
  | .mkostemps template _ _ => [template]

def OpenCall.flags : OpenCall → BitVec 32
  | .openat _ _ flags _ => flags
  | .posixOpenpt flags => flags
  | .mkostemps _ _ flags => flags

end ExtUnix.Files
