import ExtUnix.Runtime.Stub

namespace ExtUnix.Files

open ExtUnix.Data
open ExtUnix.Runtime

/-! `mount.c` and `unshare.c`. -/

inductive MountFlag where
  | MS_RDONLY
  | MS_NOSUID
  | MS_NODEV
  | MS_NOEXEC
  | MS_SYNCHRONOUS
  | MS_REMOUNT
  | MS_MANDLOCK
  | MS_DIRSYNC
  | MS_NOATIME
  | MS_NODIRATIME
  | MS_BIND
  | MS_MOVE
  | MS_REC
  | MS_SILENT
  | MS_POSIXACL
  | MS_UNBINDABLE
  | MS_PRIVATE
  | MS_SLAVE
  | MS_SHARED
  | MS_RELATIME
  | MS_KERNMOUNT
  | MS_I_VERSION
  | MS_STRICTATIME
  | MS_NOUSER
  deriving DecidableEq

def MountFlag.tag : MountFlag → Nat
  | .MS_RDONLY => 0
  | .MS_NOSUID => 1
  | .MS_NODEV => 2
  | .MS_NOEXEC => 3
  | .MS_SYNCHRONOUS => 4
  | .MS_REMOUNT => 5
  | .MS_MANDLOCK => 6
  | .MS_DIRSYNC => 7
  | .MS_NOATIME => 8
  | .MS_NODIRATIME => 9
  | .MS_BIND => 10
  | .MS_MOVE => 11
  | .MS_REC => 12
  | .MS_SILENT => 13
  | .MS_POSIXACL => 14
  | .MS_UNBINDABLE => 15
  | .MS_PRIVATE => 16
  | .MS_SLAVE => 17
  | .MS_SHARED => 18
  | .MS_RELATIME => 19
  | .MS_KERNMOUNT => 20
  | .MS_I_VERSION => 21
  | .MS_STRICTATIME => 22
  | .MS_NOUSER => 23

def mountflagsTable (constants : MountFlag → BitVec 32) : List (BitVec 32) :=
  [.MS_RDONLY, .MS_NOSUID, .MS_NODEV, .MS_NOEXEC, .MS_SYNCHRONOUS, .MS_REMOUNT,
    .MS_MANDLOCK, .MS_DIRSYNC, .MS_NOATIME, .MS_NODIRATIME, .MS_BIND, .MS_MOVE,
    .MS_REC, .MS_SILENT, .MS_POSIXACL, .MS_UNBINDABLE, .MS_PRIVATE, .MS_SLAVE,
    .MS_SHARED, .MS_RELATIME, .MS_KERNMOUNT, .MS_I_VERSION, .MS_STRICTATIME,
    .MS_NOUSER].map constants

inductive Umount2Flag where
  | MNT_FORCE
  | MNT_DETACH
  | MNT_EXPIRE
  | UMOUNT_NOFOLLOW
  deriving DecidableEq

def Umount2Flag.tag : Umount2Flag → Nat
  | .MNT_FORCE => 0
  | .MNT_DETACH => 1
  | .MNT_EXPIRE => 2
  | .UMOUNT_NOFOLLOW => 3

def umountflagsTable (constants : Umount2Flag → BitVec 32) :
    List (BitVec 32) :=
  [.MNT_FORCE, .MNT_DETACH, .MNT_EXPIRE, .UMOUNT_NOFOLLOW].map constants

inductive CloneFlag where
  | CLONE_FS
  | CLONE_FILES
  | CLONE_NEWNS
  | CLONE_SYSVSEM
  | CLONE_NEWUTS
  | CLONE_NEWIPC
  | CLONE_NEWUSER
  | CLONE_NEWPID
  | CLONE_NEWNET
  deriving DecidableEq

def CloneFlag.tag : CloneFlag → Nat
  | .CLONE_FS => 0
  | .CLONE_FILES => 1
  | .CLONE_NEWNS => 2
  | .CLONE_SYSVSEM => 3
  | .CLONE_NEWUTS => 4
  | .CLONE_NEWIPC => 5
  | .CLONE_NEWUSER => 6
  | .CLONE_NEWPID => 7
  | .CLONE_NEWNET => 8

/-- The table of `unshare.c`, which calls it `umountflags_table` as well. -/
def cloneflagsTable (constants : CloneFlag → BitVec 32) : List (BitVec 32) :=
  [.CLONE_FS, .CLONE_FILES, .CLONE_NEWNS, .CLONE_SYSVSEM, .CLONE_NEWUTS,
    .CLONE_NEWIPC, .CLONE_NEWUSER, .CLONE_NEWPID, .CLONE_NEWNET].map constants

structure MountConstants where
  mount : MountFlag → BitVec 32
  umount2 : Umount2Flag → BitVec 32
  clone : CloneFlag → BitVec 32

inductive MountCall where
  | mount (source target fstype : List UInt8) (mountflags : BitVec 64)
      (data : List UInt8)
  | umount2 (target : List UInt8) (flags : BitVec 32)
  | unshare (flags : BitVec 32)
  deriving DecidableEq

def MountCall.strings : MountCall → List (List UInt8)
  | .mount source target fstype _ data => [source, target, fstype, data]
  | .umount2 target _ => [target]
  | .unshare _ => []

section Stubs

variable (constants : MountConstants) (kernel : MountCall → Except Errno Unit)

def mount (vSource vTarget vFstype : List UInt8)
    (vMountflags : List MountFlag) (vData : List UInt8) :
    Trace MountCall Unit :=
  let source := statStrdup vSource
  let target := statStrdup vTarget
  let fstype := statStrdup vFstype
  let data := statStrdup vData
  match convertFlagList (mountflagsTable constants.mount)
      (vMountflags.map MountFlag.tag) with
  | none => ([source, target, fstype, data].map .strdup, .crashed)
  | some mountflags =>
      let call := MountCall.mount source target fstype (widen mountflags) data
      copying [source, target, fstype, data] call
        [source, target, fstype, data] (uerror "mount" vTarget (kernel call))

def umount2 (vTarget : List UInt8) (vUmountflags : List Umount2Flag) :
    Trace MountCall Unit :=
  let target := statStrdup vTarget
  match convertFlagList (umountflagsTable constants.umount2)
      (vUmountflags.map Umount2Flag.tag) with
  | none => ([.strdup target], .crashed)
  | some umountflags =>
      let call := MountCall.umount2 target umountflags
      copying [target] call [target] (uerror "umount" vTarget (kernel call))

def unshare (vCloneflags : List CloneFlag) : Trace MountCall Unit :=
  match convertFlagList (cloneflagsTable constants.clone)
      (vCloneflags.map CloneFlag.tag) with
  | none => ([], .crashed)
  | some cloneflags =>
      let call := MountCall.unshare cloneflags
      copying [] call [] (uerror "unshare" [] (kernel call))

end Stubs

theorem mountflags_eq (constants : MountFlag → BitVec 32)
    (flags : List MountFlag) :
    convertFlagList (mountflagsTable constants) (flags.map MountFlag.tag) =
      some (union (flags.map constants)) := by
  apply convertFlagList_map
  intro flag
  cases flag <;> rfl

theorem umountflags_eq (constants : Umount2Flag → BitVec 32)
    (flags : List Umount2Flag) :
    convertFlagList (umountflagsTable constants) (flags.map Umount2Flag.tag) =
      some (union (flags.map constants)) := by
  apply convertFlagList_map
  intro flag
  cases flag <;> rfl

theorem cloneflags_eq (constants : CloneFlag → BitVec 32)
    (flags : List CloneFlag) :
    convertFlagList (cloneflagsTable constants) (flags.map CloneFlag.tag) =
      some (union (flags.map constants)) := by
  apply convertFlagList_map
  intro flag
  cases flag <;> rfl

end ExtUnix.Files
