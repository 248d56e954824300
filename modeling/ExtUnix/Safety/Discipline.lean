import ExtUnix.Cpp.Facts
import ExtUnix.Safety.Buffers
import ExtUnix.Safety.Channels
import ExtUnix.Safety.Checker
import ExtUnix.Safety.Files
import ExtUnix.Safety.Processes
import ExtUnix.Linkage.Expanded

namespace ExtUnix.Safety

open ExtUnix.Cpp ExtUnix.Ppx
open Linkage.Bindings (body)

/-! The primitives of the library, under the rules that their declarations put
them under. -/

def stubs : List Stub :=
  Files.stubs ++ Buffers.stubs ++ Channels.stubs ++ Processes.stubs

/-- A primitive of the runtime; `openlog`, whose copy outlives the call; and
`vmsplice`, whose data is kept alive by an array of its caller only. -/
def apart : List String :=
  ["caml_sys_exit", "caml_extunix_openlog", "caml_extunixba_vmsplice"]

def holdingAtEnter : List String := [
  "caml_extunix_fstatat", "caml_extunix_unlinkat", "caml_extunix_renameat",
  "caml_extunix_mkdirat", "caml_extunix_linkat", "caml_extunix_fchownat",
  "caml_extunix_fchmodat", "caml_extunix_symlinkat", "caml_extunix_openat",
  "caml_extunix_readlinkat", "caml_extunix_renameat2", "caml_extunix_mkdtemp",
  "caml_extunix_mount", "caml_extunix_umount2", "caml_extunix_sendmsg",
  "caml_extunix_poll", "caml_extunix_chroot", "caml_extunix_syslog"]

def holdingAtAllocation : List String := [
  "caml_extunix_renameat", "caml_extunix_linkat", "caml_extunix_symlinkat",
  "caml_extunix_readlinkat", "caml_extunix_renameat2", "caml_extunix_mkdtemp",
  "caml_extunix_realpath", "caml_extunix_mount", "caml_extunix_memalign",
  "caml_extunix_poll", "caml_extunix_fexecve", "caml_extunix_backtrace",
  "caml_extunix_malloc_info"]

/-- The primitives that may lose a block.  Where `inet_ntop` fails, `getifaddrs`
loses its list without any fault. -/
def leaking (faults : Faults) : List String :=
  "caml_extunix_getifaddrs" ::
    ((if faults.handlers then holdingAtEnter else []) ++
      if faults.memory then holdingAtAllocation else [])

def isCalm (external : External) : Bool :=
  decide ("noalloc" ∈ external.attributes)

def Stub.Safe (faults : Faults) (calm : Bool) (stub : Stub) : Prop :=
  Safety.Safe faults calm stub.body (start stub.params)

def Stub.judgedUnder (faults : Faults) (calm : Bool) (stub : Stub) : Bool :=
  if (leaking faults).any (sameText stub.name) then
    (explore faults calm stub.body (start stub.params)).any Result.isWrong
  else accepts faults calm stub.body (start stub.params)

def everyFaults : List Faults :=
  [⟨false, false⟩, ⟨true, false⟩, ⟨false, true⟩, ⟨true, true⟩]

theorem mem_everyFaults (faults : Faults) : faults ∈ everyFaults := by
  rcases faults with ⟨_ | _, _ | _⟩ <;> decide

def Stub.judged (calm : Bool) (stub : Stub) : Bool :=
  everyFaults.all fun faults => stub.judgedUnder faults calm

theorem Stub.safe_iff {calm : Bool} {stub : Stub}
    (judged : stub.judged calm = true) (faults : Faults) :
    stub.Safe faults calm ↔ stub.name ∉ leaking faults := by
  have decided := List.all_eq_true.mp judged faults (mem_everyFaults faults)
  have listed : (leaking faults).any (sameText stub.name) = true ↔
      stub.name ∈ leaking faults := by
    simp [sameText_iff]
  rw [Stub.judgedUnder] at decided
  split_ifs at decided with isListed
  · have unsafe_ : ¬stub.Safe faults calm := not_safe_of_explore decided
    simp [unsafe_, listed.mp isListed]
  · have safe : stub.Safe faults calm := safe_of_accepts decided
    simpa [safe] using mt listed.mpr isListed

theorem stubs_judged : (stubs.all fun stub => stub.judged false) = true := by
  decide +kernel

/-- There is a stub for the primitive, and where it is declared calm, every stub
for it is. -/
def covered (calm : Bool) (prim : String) : Bool :=
  (stubs.any fun stub => sameText stub.name prim) &&
    (!calm || stubs.all fun stub => !sameText stub.name prim || stub.judged true)

theorem externals_covered : ((guardeds body).all fun entry =>
    entry.2.prims.all fun prim => apart.any (sameText prim) ||
      covered (isCalm entry.2) prim) = true := by
  decide +kernel

theorem covered_of_named {entry : List Cond × External}
    (member : entry ∈ guardeds body) {prim : String}
    (named : prim ∈ entry.2.prims) (among : prim ∉ apart) :
    covered (isCalm entry.2) prim = true := by
  have every := List.all_eq_true.mp
    (List.all_eq_true.mp externals_covered entry member) prim named
  rcases Bool.or_eq_true_iff.mp every with isApart | isCovered
  · obtain ⟨other, inApart, same⟩ := List.any_eq_true.mp isApart
    exact (among (sameText_iff.mp same ▸ inApart)).elim
  · exact isCovered

theorem judged_of_covered {calm : Bool} {stub : Stub} (inStubs : stub ∈ stubs)
    (isCovered : covered calm stub.name = true) : stub.judged calm = true := by
  cases calm with
  | false => exact List.all_eq_true.mp stubs_judged stub inStubs
  | true =>
      rw [covered, Bool.and_eq_true] at isCovered
      have named := List.all_eq_true.mp isCovered.2 stub inStubs
      rwa [sameText_iff.mpr rfl] at named

/-- In every execution of every primitive the module is bound to, whatever the
collector moves and whatever the system answers, no value is used after it may
have moved, no pointer into the heap outlives the lock, no block is lost or freed
twice, and one declared `noalloc` is calm, but for `getifaddrs`, for those that
hold a block where a handler may raise, and for those that hold one where memory
may run out. -/
theorem primitives_safe_iff {entry : List Cond × External}
    (member : entry ∈ guardeds body) {prim : String}
    (named : prim ∈ entry.2.prims) (among : prim ∉ apart) :
    (∃ stub ∈ stubs, stub.name = prim) ∧
      ∀ (faults : Faults), ∀ stub ∈ stubs, stub.name = prim →
        (stub.Safe faults (isCalm entry.2) ↔ prim ∉ leaking faults) := by
  have isCovered := covered_of_named member named among
  constructor
  · rw [covered, Bool.and_eq_true] at isCovered
    obtain ⟨stub, inStubs, same⟩ := List.any_eq_true.mp isCovered.1
    exact ⟨stub, inStubs, sameText_iff.mp same⟩
  · rintro faults stub inStubs rfl
    exact stub.safe_iff (judged_of_covered inStubs isCovered) faults

/-- `openat` keeps the rules where memory may run out, and not where a handler
may raise. -/
theorem primitives_safe_iff_openat : ∃ entry ∈ guardeds body,
    "caml_extunix_openat" ∈ entry.2.prims ∧
      ∃ stub ∈ stubs, stub.name = "caml_extunix_openat" ∧
        stub.Safe ⟨false, true⟩ (isCalm entry.2) ∧
        ¬stub.Safe ⟨true, false⟩ (isCalm entry.2) := by
  have found : ((guardeds body).any fun entry =>
      entry.2.prims.any (sameText "caml_extunix_openat")) = true := by
    decide +kernel
  obtain ⟨entry, member, matched⟩ := List.any_eq_true.mp found
  obtain ⟨prim, named, same⟩ := List.any_eq_true.mp matched
  obtain rfl : "caml_extunix_openat" = prim := sameText_iff.mp same
  obtain ⟨⟨stub, inStubs, name⟩, judged⟩ :=
    primitives_safe_iff member named (by decide)
  refine ⟨entry, member, named, stub, inStubs, name,
    (judged _ stub inStubs name).mpr (by decide), fun safe => ?_⟩
  exact (judged _ stub inStubs name).mp safe (by decide)

end ExtUnix.Safety
