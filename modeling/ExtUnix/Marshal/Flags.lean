import ExtUnix.Files.Mount
import ExtUnix.Files.Open
import ExtUnix.Marshal.Vmsplice
import ExtUnix.Process.Syslog
import ExtUnix.Process.Wait4

namespace ExtUnix.Marshal

open ExtUnix.Data
open ExtUnix.Files
open ExtUnix.Process
open ExtUnix.Runtime

/-! Lists of flags on their way to a mask, in `mlockall` of `mman.c` and in the
stubs that other modules have. -/

inductive MlockallFlag where
  | MCL_CURRENT
  | MCL_FUTURE
  deriving DecidableEq

def MlockallFlag.tag : MlockallFlag → Nat
  | .MCL_CURRENT => 0
  | .MCL_FUTURE => 1

def mlockallFlagsTable (constants : MlockallFlag → BitVec 32) :
    List (BitVec 32) :=
  [constants .MCL_CURRENT, constants .MCL_FUTURE]

structure MlockallCall where
  flags : BitVec 32
  deriving DecidableEq

def mlockall (constants : MlockallFlag → BitVec 32)
    (kernel : MlockallCall → Except Errno Unit) (vFlags : List MlockallFlag) :
    Trace MlockallCall Unit :=
  match convertFlagList (mlockallFlagsTable constants)
      (vFlags.map MlockallFlag.tag) with
  | none => ([], .crashed)
  | some flags =>
      let call : MlockallCall := ⟨flags⟩
      copying [] call [] (uerror "mlockall" [] (kernel call))

inductive Constructor where
  | mount (flag : MountFlag)
  | umount2 (flag : Umount2Flag)
  | clone (flag : CloneFlag)
  | mlockall (flag : MlockallFlag)
  | splice (flag : SpliceFlag)
  | wait (flag : Wait4.WaitFlag)
  | log (flag : Syslog.Options)
  | opening (flag : OpenFlag)
  deriving DecidableEq

structure FlagConstants where
  mount : MountConstants
  mlockall : MlockallFlag → BitVec 32
  splice : SpliceConstants
  wait : Wait4.WaitConstants
  log : Syslog.Constants
  opening : OpenConstants

/-- The C constant that bears the name of a constructor.  Those of
`Unix.open_flag` that have none contribute nothing. -/
def FlagConstants.named (constants : FlagConstants) : Constructor → BitVec 32
  | .mount flag => constants.mount.mount flag
  | .umount2 flag => constants.mount.umount2 flag
  | .clone flag => constants.mount.clone flag
  | .mlockall flag => constants.mlockall flag
  | .splice flag => constants.splice flag
  | .wait flag => constants.wait flag
  | .log flag => constants.log.option flag
  | .opening flag => flag.value constants.opening

inductive FlagRequest where
  | mount (source target fstype : List UInt8) (flags : List MountFlag)
      (data : List UInt8)
  | umount2 (target : List UInt8) (flags : List Umount2Flag)
  | unshare (flags : List CloneFlag)
  | mlockall (flags : List MlockallFlag)
  | splice (fdIn : CamlInt) (offIn : Option CamlInt) (fdOut : CamlInt)
      (offOut : Option CamlInt) (len : CamlInt) (flags : List SpliceFlag)
  | tee (fdIn fdOut len : CamlInt) (flags : List SpliceFlag)
  | vmsplice (fdOut : CamlInt) (iov : List Iov) (flags : List SpliceFlag)
  | wait4 (flags : List Wait4.WaitFlag) (pid : CamlInt)
  | openlog (ident : Option (List UInt8)) (options : List Syslog.Options)
      (facility : Syslog.Facility)
  | openat (dirfd : CamlInt) (path : List UInt8) (flags : List OpenFlag)
      (perm : CamlInt)
  | posixOpenpt (flags : List OpenFlag)
  | mkostemp (suffix : Option (List UInt8)) (flags : Option (List OpenFlag))
      (start : List UInt8)

def FlagRequest.constructors : FlagRequest → List Constructor
  | .mount _ _ _ flags _ => flags.map .mount
  | .umount2 _ flags => flags.map .umount2
  | .unshare flags => flags.map .clone
  | .mlockall flags => flags.map .mlockall
  | .splice _ _ _ _ _ flags => flags.map .splice
  | .tee _ _ _ flags => flags.map .splice
  | .vmsplice _ _ flags => flags.map .splice
  | .wait4 flags _ => flags.map .wait
  | .openlog _ options _ => options.map .log
  | .openat _ _ flags _ => flags.map .opening
  | .posixOpenpt flags => flags.map .opening
  | .mkostemp _ flags _ =>
      (flags.getD []).map .opening ++ [.opening .O_CLOEXEC]

structure FlagSystem where
  mount : MountCall → Except Errno Unit
  mlockall : MlockallCall → Except Errno Unit
  sized : SizedCall → Except Errno (BitVec 64)
  stack : Nat
  vmsplice : VmspliceCall → Except Errno (BitVec 64)
  posixSignals : List (BitVec 32)
  wait4 : Wait4.Wait4Call → Wait4.Waited
  locals : Wait4.Locals
  log : Syslog.State
  allocator : Syslog.Allocator
  opening : OpenKernel

def mountMask : MountCall → BitVec 64
  | .mount _ _ _ mountflags _ => mountflags
  | .umount2 _ flags => widen flags
  | .unshare flags => widen flags

def sizedMask : SizedCall → Option (BitVec 32)
  | .splice _ _ _ _ _ flags => some flags
  | .tee _ _ _ flags => some flags
  | .memalign _ _ => none

def libcMask : Syslog.LibcCall → Option (BitVec 32)
  | .openlog _ option _ => some option
  | _ => none

/-- The masks of the calls that are made, an `int` as the `long` it extends
to. -/
def masks (constants : FlagConstants) (system : FlagSystem) :
    FlagRequest → List (BitVec 64)
  | .mount source target fstype flags data =>
      (calls (mount constants.mount system.mount source target fstype flags
        data).1).map mountMask
  | .umount2 target flags =>
      (calls (umount2 constants.mount system.mount target flags).1).map
        mountMask
  | .unshare flags =>
      (calls (unshare constants.mount system.mount flags).1).map mountMask
  | .mlockall flags =>
      (calls (mlockall constants.mlockall system.mlockall flags).1).map
        fun call => widen call.flags
  | .splice fdIn offIn fdOut offOut len flags =>
      ((splice constants.splice system.sized fdIn offIn fdOut offOut len
        flags).1.filterMap sizedMask).map widen
  | .tee fdIn fdOut len flags =>
      ((tee constants.splice system.sized fdIn fdOut len
        flags).1.filterMap sizedMask).map widen
  | .vmsplice fdOut iov flags =>
      (vmsplice system.stack constants.splice system.vmsplice fdOut iov
        flags).1.map
        fun call => widen call.flags
  | .wait4 flags pid =>
      (Wait4.wait4 constants.wait system.posixSignals id system.wait4
        system.locals flags pid).1.map fun call => widen call.options
  | .openlog ident options facility =>
      ((Syslog.openlog constants.log system.allocator system.log ident options
        facility).2.1.filterMap libcMask).map widen
  | .openat dirfd path flags perm =>
      (calls (openat constants.opening system.opening dirfd path flags
        perm).1).map fun call => widen call.flags
  | .posixOpenpt flags =>
      (calls (posixOpenpt constants.opening system.opening flags).1).map
        fun call => widen call.flags
  | .mkostemp suffix flags start =>
      (calls (mkostemp constants.opening system.opening suffix flags
        start).1).map fun call => widen call.flags

/-- The function ends before it comes to the call: there is no room on the stack
for the records of `vmsplice`, or one is refused, or there is no memory for the
identifier of `openlog`. -/
def endsBefore (system : FlagSystem) : FlagRequest → Bool
  | .vmsplice _ iov _ => decide (system.stack < iovecBytes (wosize iov)) ||
      (gather (iov.take (wosize iov).toInt.toNat)).isNone
  | .openlog ident _ _ =>
      (system.log.releaseIdent.copyIdent system.allocator ident).isNone
  | _ => false

def FlagConstants.mask (constants : FlagConstants)
    (constructors : List Constructor) : BitVec 64 :=
  union (constructors.map fun constructor => widen (constants.named constructor))

theorem widen_union (constants : FlagConstants) (shown : α → Constructor)
    (flags : List α) :
    [widen (union (flags.map fun flag => constants.named (shown flag)))] =
      [constants.mask (flags.map shown)] := by
  rw [widen, signExtend_union, List.map_map, FlagConstants.mask, List.map_map]
  rfl

theorem mask_congr (constants : FlagConstants)
    {first second : List Constructor}
    (same : ∀ constructor, constructor ∈ first ↔ constructor ∈ second) :
    constants.mask first = constants.mask second := by
  apply union_ext
  intro index
  simp only [List.mem_map, exists_exists_and_eq_and, same]

theorem mlockallFlags_eq (constants : MlockallFlag → BitVec 32)
    (flags : List MlockallFlag) :
    convertFlagList (mlockallFlagsTable constants)
        (flags.map MlockallFlag.tag) =
      some (union (flags.map constants)) := by
  apply convertFlagList_map
  intro flag
  cases flag <;> rfl

theorem masks_eq (constants : FlagConstants) (system : FlagSystem)
    (request : FlagRequest) :
    masks constants system request =
      if endsBefore system request then []
      else [constants.mask request.constructors] := by
  cases request with
  | mount source target fstype flags data =>
      rw [masks, mount, mountflags_eq]
      exact widen_union constants .mount flags
  | umount2 target flags =>
      rw [masks, umount2, umountflags_eq]
      exact widen_union constants .umount2 flags
  | unshare flags =>
      rw [masks, unshare, cloneflags_eq]
      exact widen_union constants .clone flags
  | mlockall flags =>
      rw [masks, mlockall, mlockallFlags_eq]
      exact widen_union constants .mlockall flags
  | splice fdIn offIn fdOut offOut len flags =>
      rw [masks, splice, spliceFlags_eq]
      exact widen_union constants .splice flags
  | tee fdIn fdOut len flags =>
      rw [masks, tee, spliceFlags_eq]
      exact widen_union constants .splice flags
  | vmsplice fdOut iov flags =>
      rw [masks, vmsplice, spliceFlags_eq, endsBefore]
      dsimp only
      by_cases full : system.stack < iovecBytes (wosize iov)
      · simp [full]
      simp only [full, if_false, decide_false, Bool.false_or]
      cases gather (iov.take (wosize iov).toInt.toNat) with
      | none => rfl
      | some vectors =>
          exact widen_union constants .splice flags
  | wait4 flags pid =>
      rw [masks, Wait4.wait4_calls]
      exact widen_union constants .wait flags
  | openlog ident options facility =>
      rw [masks, Syslog.openlog_eq, endsBefore]
      cases system.log.releaseIdent.copyIdent system.allocator ident with
      | none => rfl
      | some copied =>
          exact widen_union constants .log options
  | openat dirfd path flags perm =>
      rw [masks, openat, extunixOpenFlags_eq]
      exact widen_union constants .opening flags
  | posixOpenpt flags =>
      rw [masks, posixOpenpt, extunixOpenFlags_eq]
      exact widen_union constants .opening flags
  | mkostemp suffix flags start =>
      have added := widen_union constants .opening
        (flags.getD [] ++ [.O_CLOEXEC])
      rw [List.map_append (f := Constructor.opening)] at added
      rw [masks, mkostemp, internalMkostemps, extunixOpenFlags_cloexec]
      exact added

/-- The mask is made of the constants that bear the names of the constructors,
so which constructors are listed matters, not where nor how often. -/
theorem masks_named (constants : FlagConstants) (system : FlagSystem)
    (request : FlagRequest) :
    masks constants system request =
        (if endsBefore system request then []
        else [constants.mask request.constructors]) ∧
      ∀ other, endsBefore system other = endsBefore system request →
        (∀ constructor, constructor ∈ other.constructors ↔
          constructor ∈ request.constructors) →
        masks constants system other = masks constants system request := by
  refine ⟨masks_eq constants system request, ?_⟩
  intro other early same
  rw [masks_eq, masks_eq, early, mask_congr constants same]

end ExtUnix.Marshal
