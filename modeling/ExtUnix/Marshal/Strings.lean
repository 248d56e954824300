import ExtUnix.Files.At
import ExtUnix.Files.Mount
import ExtUnix.Files.Open
import ExtUnix.Files.Paths
import ExtUnix.Files.Readlinkat
import ExtUnix.Files.Rename

namespace ExtUnix.Marshal

open ExtUnix.Data
open ExtUnix.Files
open ExtUnix.Runtime

/-! OCaml strings on their way to C strings, in the stubs that take paths and in
`setenv` and `unsetenv` of `stdlib.c`. -/

inductive EnvCall where
  | setenv (name value : List UInt8) (overwrite : Bool)
  | unsetenv (name : List UInt8)
  deriving DecidableEq

def setenv (libc : EnvCall → Except Errno Unit) (vName vVal : List UInt8)
    (vOverwrite : Bool) : Trace EnvCall Unit :=
  let call := EnvCall.setenv (stringVal vName) (stringVal vVal) vOverwrite
  copying [] call [] (uerror "setenv" vName (libc call))

def unsetenv (libc : EnvCall → Except Errno Unit) (vName : List UInt8) :
    Trace EnvCall Unit :=
  let call := EnvCall.unsetenv (stringVal vName)
  copying [] call [] (uerror "unsetenv" vName (libc call))

structure System where
  openConstants : OpenConstants
  atConstants : AtConstants
  renameConstants : RenameConstants
  mountConstants : MountConstants
  stConstants : StConstants
  haveWhiteout : Bool
  openKernel : OpenKernel
  atKernel : AtKernel
  renameKernel : RenameCall → Except Errno Unit
  mountKernel : MountCall → Except Errno Unit
  pathKernel : PathKernel
  attempts : Nat → Attempt
  libc : EnvCall → Except Errno Unit

/-- The flags of `renameat2` are positions in `rename_flag`. -/
inductive StringRequest where
  | openat (dirfd : CamlInt) (path : List UInt8) (flags : List OpenFlag)
      (perm : CamlInt)
  | atfile (request : AtRequest) (flags : List AtFlag)
  | renameat (oldfd : CamlInt) (oldname : List UInt8) (newfd : CamlInt)
      (newname : List UInt8)
  | renameat2 (oldfd : CamlInt) (oldname : List UInt8) (newfd : CamlInt)
      (newname : List UInt8) (flags : List (Fin 3))
  | mkdirat (dirfd : CamlInt) (name : List UInt8) (mode : CamlInt)
  | symlinkat (path : List UInt8) (newdirfd : CamlInt) (newname : List UInt8)
  | readlinkat (dirfd : CamlInt) (name : List UInt8)
  | statvfs (path : List UInt8)
  | realpath (path : List UInt8)
  | chroot (path : List UInt8)
  | mount (source target fstype : List UInt8) (flags : List MountFlag)
      (data : List UInt8)
  | umount2 (target : List UInt8) (flags : List Umount2Flag)
  | mkdtemp (template : List UInt8)
  | setenv (name value : List UInt8) (overwrite : Bool)
  | unsetenv (name : List UInt8)

def EnvCall.strings : EnvCall → List (List UInt8)
  | .setenv name value _ => [name, value]
  | .unsetenv name => [name]

structure Observed where
  received : List (List (List UInt8))
  raised : Bool

def raises : Outcome α → Bool
  | .unixError _ _ _ => true
  | .invalidArgument _ => true
  | .notAvailable _ => true
  | .returned _ => false
  | .crashed => false

def observe (strings : Call → List (List UInt8)) (trace : Trace Call α) :
    Observed :=
  ⟨(calls trace.1).map strings, raises trace.2⟩

def invoke (system : System) : StringRequest → Observed
  | .openat dirfd path flags perm =>
      observe OpenCall.strings
        (openat system.openConstants system.openKernel dirfd path flags perm)
  | .atfile request flags =>
      observe AtCall.strings
        (runAt system.atConstants system.atKernel request flags)
  | .renameat oldfd oldname newfd newname =>
      observe PathCall.strings
        (renameat system.pathKernel oldfd oldname newfd newname)
  | .renameat2 oldfd oldname newfd newname flags =>
      observe RenameCall.strings
        (renameat2 system.haveWhiteout system.renameConstants
          system.renameKernel oldfd oldname newfd newname (flags.map Fin.val))
  | .mkdirat dirfd name mode =>
      observe PathCall.strings (mkdirat system.pathKernel dirfd name mode)
  | .symlinkat path newdirfd newname =>
      observe PathCall.strings
        (symlinkat system.pathKernel path newdirfd newname)
  | .readlinkat dirfd name =>
      let run := readlinkat system.attempts dirfd name
      ⟨(linkNames run.1).map ([·]), raises run.2⟩
  | .statvfs path =>
      observe PathCall.strings
        (statvfs system.pathKernel system.stConstants path)
  | .realpath path =>
      observe PathCall.strings (realpath system.pathKernel path)
  | .chroot path => observe PathCall.strings (chroot system.pathKernel path)
  | .mount source target fstype flags data =>
      observe MountCall.strings
        (mount system.mountConstants system.mountKernel source target fstype
          flags data)
  | .umount2 target flags =>
      observe MountCall.strings
        (umount2 system.mountConstants system.mountKernel target flags)
  | .mkdtemp template =>
      observe PathCall.strings (mkdtemp system.pathKernel template)
  | .setenv name value overwrite =>
      observe EnvCall.strings (setenv system.libc name value overwrite)
  | .unsetenv name => observe EnvCall.strings (unsetenv system.libc name)

def StringRequest.strings : StringRequest → List (List UInt8)
  | .openat _ path _ _ => [path]
  | .atfile request _ => request.strings
  | .renameat _ oldname _ newname => [oldname, newname]
  | .renameat2 _ oldname _ newname _ => [oldname, newname]
  | .mkdirat _ name _ => [name]
  | .symlinkat path _ newname => [path, newname]
  | .readlinkat _ name => [name]
  | .statvfs path => [path]
  | .realpath path => [path]
  | .chroot path => [path]
  | .mount source target fstype _ data => [source, target, fstype, data]
  | .umount2 target _ => [target]
  | .mkdtemp template => [template]
  | .setenv name value _ => [name, value]
  | .unsetenv name => [name]

/-- Every call receives all the bytes of the strings, or none is made and the
function raises. -/
def NotShortened (system : System) (request : StringRequest) : Prop :=
  let observed := invoke system request
  (observed.received ≠ [] ∧
      ∀ strings ∈ observed.received, strings = request.strings) ∨
    (observed.received = [] ∧ observed.raised = true)

/-- The function raises before it comes to a call: `RENAME_WHITEOUT` is listed
and not available, or there is no memory for a first buffer. -/
def RaisesEarly (system : System) : StringRequest → Prop
  | .renameat2 _ _ _ _ flags =>
      system.haveWhiteout = false ∧ RENAME_WHITEOUT_INDEX ∈ flags.map Fin.val
  | .readlinkat _ _ => ∃ errno, (system.attempts 0).resized = .error errno
  | _ => False

theorem map_statStrdup_iff (strings : List (List UInt8)) :
    strings.map statStrdup = strings ↔ ∀ str ∈ strings, 0 ∉ str := by
  induction strings with
  | nil => simp
  | cons str rest induction =>
      rw [List.map_cons, List.cons.injEq, induction, statStrdup_eq_self_iff,
        List.forall_mem_cons]

theorem runAt_strings (constants : AtConstants) (kernel : AtKernel)
    (request : AtRequest) (flags : List AtFlag) :
    (observe AtCall.strings (runAt constants kernel request flags)).received =
      [(request.strings).map statStrdup] := by
  cases request <;>
    simp [observe, runAt, fstatat, unlinkat, linkat, fchownat, fchmodat,
      allowedFlags_eq, calls, AtCall.strings, AtRequest.strings]

theorem renameat2_strings (system : System) (oldfd : CamlInt)
    (oldname : List UInt8) (newfd : CamlInt) (newname : List UInt8)
    (flags : List (Fin 3)) :
    let observed := invoke system
      (.renameat2 oldfd oldname newfd newname flags)
    if system.haveWhiteout = false ∧
        RENAME_WHITEOUT_INDEX ∈ flags.map Fin.val then
      observed.received = [] ∧ observed.raised = true
    else observed.received = [[oldname, newname].map statStrdup] := by
  have listed : ∀ flag : Fin 3,
      (renameFlagsTable system.renameConstants)[flag.val]? =
        some ((renameFlagsTable system.renameConstants).get flag) := by
    intro flag
    exact List.getElem?_eq_getElem flag.isLt
  intro observed
  simp only [observed, invoke, observe, renameat2, checkFlagList_eq]
  split_ifs
  · exact ⟨rfl, rfl⟩
  · simp only [convertFlagList_map listed]
    rfl

theorem readlinkat_strings (system : System) (dirfd : CamlInt)
    (name : List UInt8) :
    let observed := invoke system (.readlinkat dirfd name)
    match (system.attempts 0).resized with
    | .error _ => observed.received = [] ∧ observed.raised = true
    | .ok () => observed.received ≠ [] ∧
        ∀ strings ∈ observed.received, strings = [statStrdup name] := by
  intro observed
  cases resized : (system.attempts 0).resized with
  | error errno =>
      obtain ⟨none, raised⟩ := readlinkat_refused resized dirfd name
      simp [observed, invoke, none, raised, raises]
  | ok =>
      simp only [observed, invoke, linkNames_readlinkat, ne_eq,
        List.map_eq_nil_iff, List.forall_mem_map]
      refine ⟨readlinkatMalloc_resized resized (intVal dirfd) _, ?_⟩
      intro received member
      rw [linkNames_readlinkatMalloc _ _ _ _ received member]

theorem invoke_received (system : System) (request : StringRequest)
    (proceeds : ¬RaisesEarly system request) :
    (invoke system request).received ≠ [] ∧
      ∀ strings ∈ (invoke system request).received,
        strings = request.strings.map statStrdup := by
  have single : ∀ {received : List (List (List UInt8))},
      received = [request.strings.map statStrdup] →
        received ≠ [] ∧ ∀ strings ∈ received,
          strings = request.strings.map statStrdup := by
    rintro received rfl
    simp
  cases request with
  | readlinkat dirfd name =>
      have called := readlinkat_strings system dirfd name
      cases resized : (system.attempts 0).resized with
      | error errno => exact absurd ⟨errno, resized⟩ proceeds
      | ok =>
          rw [resized] at called
          exact called
  | renameat2 oldfd oldname newfd newname flags =>
      have called := renameat2_strings system oldfd oldname newfd newname flags
      rw [RaisesEarly] at proceeds
      rw [if_neg proceeds] at called
      exact single called
  | atfile request flags => exact single (runAt_strings _ _ request flags)
  | realpath path =>
      apply single
      rw [invoke, observe, realpath]
      dsimp only
      split <;> rfl
  | mount source target fstype flags data =>
      apply single
      simp only [invoke, observe, mount, mountflags_eq, calls_copying]
      rfl
  | umount2 target flags =>
      apply single
      simp only [invoke, observe, umount2, umountflags_eq, calls_copying]
      rfl
  | _ =>
      apply single
      rfl

theorem invoke_early (system : System) (request : StringRequest)
    (early : RaisesEarly system request) :
    (invoke system request).received = [] ∧
      (invoke system request).raised = true := by
  cases request with
  | readlinkat dirfd name =>
      obtain ⟨errno, refused⟩ := early
      have called := readlinkat_strings system dirfd name
      rw [refused] at called
      exact called
  | renameat2 oldfd oldname newfd newname flags =>
      have called := renameat2_strings system oldfd oldname newfd newname flags
      rw [RaisesEarly] at early
      rw [if_pos early] at called
      exact called
  | _ => exact early.elim

/-- No stub looks for null bytes, so a string arrives exactly when it has
none. -/
theorem notShortened_iff (system : System) (request : StringRequest) :
    NotShortened system request ↔
      (∀ str ∈ request.strings, 0 ∉ str) ∨ RaisesEarly system request := by
  rw [← map_statStrdup_iff]
  by_cases early : RaisesEarly system request
  · have raised := invoke_early system request early
    exact iff_of_true (.inr raised) (.inr early)
  · obtain ⟨called, received⟩ := invoke_received system request early
    rw [NotShortened]
    simp only [called, early, false_and, or_false, ne_eq, not_false_eq_true,
      true_and]
    constructor
    · intro whole
      obtain ⟨strings, member⟩ := List.exists_mem_of_ne_nil _ called
      rw [← received strings member]
      exact whole strings member
    · intro whole strings member
      rw [received strings member, whole]

def permissive : System where
  openConstants := fun _ => 0
  atConstants := linux
  renameConstants := linuxRename
  mountConstants := ⟨fun _ => 0, fun _ => 0, fun _ => 0⟩
  stConstants := fun _ => 0
  haveWhiteout := true
  openKernel := ⟨fun _ => .ok 3, fun _ => []⟩
  atKernel := ⟨fun _ => .ok ⟨0, 0, 0, 0, 0, 0, 0, 0, 0, 0, 0⟩, fun _ => .ok ()⟩
  renameKernel := fun _ => .ok ()
  mountKernel := fun _ => .ok ()
  pathKernel := ⟨fun _ => .ok (), fun _ => .ok [],
    fun _ => .ok ⟨0, 0, 0, 0, 0, 0, 0, 0, 0, 0⟩⟩
  attempts := fun _ => ⟨.ok (), .ok []⟩
  libc := fun _ => .ok ()

/-- `realpath "/a\000b"` asks for the path `/a`. -/
theorem realpath_null_byte :
    (invoke permissive (.realpath [47, 97, 0, 98])).received = [[[47, 97]]] ∧
      ¬NotShortened permissive (.realpath [47, 97, 0, 98]) := by
  have received : (invoke permissive
      (.realpath [47, 97, 0, 98])).received = [[[47, 97]]] := rfl
  refine ⟨received, ?_⟩
  rw [NotShortened, received]
  rintro (⟨-, whole⟩ | ⟨empty, -⟩)
  · exact absurd (whole _ (List.mem_singleton_self _)) (by decide)
  · cases empty

end ExtUnix.Marshal
