import ExtUnix.Runtime.Stub
import Mathlib.Data.List.Induction

namespace ExtUnix.Process.Poll

open ExtUnix.Data
open ExtUnix.Runtime

/-! `poll.c` and the module `Poll`. -/

inductive Flag where
  | POLLIN
  | POLLPRI
  | POLLOUT
  | POLLERR
  | POLLHUP
  | POLLNVAL
  | POLLRDHUP
  deriving DecidableEq

/-- The bits of the constants, in a `short`.  Only `POLLRDHUP` may be missing. -/
structure Platform where
  bit : Flag → Option Nat
  bit_lt : ∀ {flag index}, bit flag = some index → index < 16
  bit_inj : ∀ {first second index}, bit first = some index →
    bit second = some index → first = second
  named : ∀ {flag}, bit flag = none → flag = .POLLRDHUP

/-- The C constant; `Z "POLLRDHUP"` defines a missing one to be `0`. -/
def Platform.constant (platform : Platform) (flag : Flag) : BitVec 32 :=
  match platform.bit flag with
  | some index => 1#32 <<< index
  | none => 0

def isSet (xs x : CamlInt) : Bool := xs &&& x == x
def isInter (x y : CamlInt) : Bool := x &&& y != 0
def join (flags : List CamlInt) : CamlInt := flags.foldl (· ||| ·) 0

/-- `poll_constants ()`, from which `pollin`, …, `pollrdhup` are taken. -/
def pollConstants (platform : Platform) : List CamlInt :=
  [.POLLIN, .POLLPRI, .POLLOUT, .POLLERR, .POLLHUP, .POLLNVAL,
    .POLLRDHUP].map fun flag => valInt (platform.constant flag)

def Flag.position : Flag → Nat
  | .POLLIN => 0
  | .POLLPRI => 1
  | .POLLOUT => 2
  | .POLLERR => 3
  | .POLLHUP => 4
  | .POLLNVAL => 5
  | .POLLRDHUP => 6

def Flag.value (platform : Platform) (flag : Flag) : CamlInt :=
  (pollConstants platform)[flag.position]?.getD 0

structure PollFd where
  fd : BitVec 32
  events : BitVec 16
  revents : BitVec 16

def PollFd.ofPair (pair : CamlInt × CamlInt) : PollFd where
  fd := intVal pair.1
  events := (intVal pair.2).setWidth 16
  revents := 0

abbrev Kernel := List PollFd → BitVec 32 → Except Errno (Nat → BitVec 16)

def collect (fds : List PollFd) : List (CamlInt × CamlInt) :=
  fds.foldl (fun vL fd =>
    if fd.revents ≠ 0 then
      (valInt fd.fd, valInt (fd.revents.signExtend 32)) :: vL
    else vL) []

/-- `caml_extunix_poll`, with the timeout in milliseconds. -/
def pollStub (kernel : Kernel) (vFds : List (CamlInt × CamlInt)) (vN : CamlInt)
    (timeout : BitVec 32) : Outcome (List (CamlInt × CamlInt)) :=
  let n := widen (intVal vN)
  if vFds.length < n.toNat then .invalidArgument "poll"
  else if n = 0 then .returned []
  else
    let fds := (vFds.take n.toNat).map PollFd.ofPair
    (uerror "poll" [] (kernel fds timeout)).map fun revents =>
      collect (fds.mapIdx fun index fd => { fd with revents := revents index })

def poll (kernel : Kernel) (a : List (CamlInt × CamlInt)) (n : Option CamlInt)
    (timeout : BitVec 32) : Outcome (List (CamlInt × CamlInt)) :=
  pollStub kernel a (n.getD (BitVec.ofNat 63 a.length)) timeout

def Reported (platform : Platform) (revents : BitVec 16) (flag : Flag) : Prop :=
  ∃ index, platform.bit flag = some index ∧ revents.getLsbD index = true

def eventsOf (revents : BitVec 16) : CamlInt := valInt (revents.signExtend 32)

def active (revents : Nat → BitVec 16) (n : Nat) : List Nat :=
  (List.range n).reverse.filter fun index => revents index ≠ 0

/-- The result lists the entries with events, and the operations of `Poll` read
the kernel's flags off it. -/
def Reports (platform : Platform) (fds : List (BitVec 32 × CamlInt))
    (n : CamlInt) (timeout : BitVec 32) (revents : Nat → BitVec 16) : Prop :=
  let indices := active revents n.toInt.toNat
  poll (fun _ _ => .ok revents) (fds.map fun (fd, flags) => (valInt fd, flags))
      (some n) timeout =
    .returned (indices.filterMap fun index =>
      fds[index]?.map fun (fd, _) => (valInt fd, eventsOf (revents index))) ∧
  ∀ index ∈ indices,
    (∀ flag, isSet (eventsOf (revents index)) (flag.value platform) = true ↔
      Reported platform (revents index) flag) ∧
    ∀ flags : List Flag,
      isInter (eventsOf (revents index))
          (join (flags.map (Flag.value platform))) = true ↔
        ∃ flag ∈ flags, Reported platform (revents index) flag

theorem collect_concat (fds : List PollFd) (fd : PollFd) :
    collect (fds ++ [fd]) =
      if fd.revents ≠ 0 then
        (valInt fd.fd, eventsOf fd.revents) :: collect fds
      else collect fds := by
  rw [collect, List.foldl_append]
  rfl

theorem active_succ (revents : Nat → BitVec 16) (n : Nat) :
    active revents (n + 1) =
      if revents n ≠ 0 then n :: active revents n else active revents n := by
  rw [active, List.range_succ, List.reverse_append, List.reverse_singleton,
    List.singleton_append, List.filter_cons]
  simp only [decide_eq_true_eq]
  rfl

theorem mem_active {revents : Nat → BitVec 16} {n index : Nat} :
    index ∈ active revents n ↔ index < n ∧ revents index ≠ 0 := by
  simp [active]

theorem collect_mapIdx (revents : Nat → BitVec 16) (fds : List PollFd) :
    collect (fds.mapIdx fun index fd => { fd with revents := revents index }) =
      (active revents fds.length).filterMap fun index =>
        fds[index]?.map fun fd => (valInt fd.fd, eventsOf (revents index)) := by
  induction fds using List.reverseRecOn with
  | nil => rfl
  | append_singleton fds fd induction =>
      rw [List.mapIdx_concat, collect_concat, List.length_append,
        List.length_singleton, active_succ, induction]
      have earlier : (active revents fds.length).filterMap (fun index =>
          (fds ++ [fd])[index]?.map fun fd =>
            (valInt fd.fd, eventsOf (revents index))) =
          (active revents fds.length).filterMap fun index =>
            fds[index]?.map fun fd =>
              (valInt fd.fd, eventsOf (revents index)) := by
        apply List.filterMap_congr
        intro index member
        rw [List.getElem?_append_left (mem_active.mp member).1]
      split_ifs with reported
      · rw [List.filterMap_cons, earlier, List.getElem?_concat_length]
        rfl
      · exact earlier.symm

theorem getElem?_ofPair (fds : List (BitVec 32 × CamlInt)) {n index : Nat}
    (bound : index < n) (revents : CamlInt) :
    ((((fds.map fun (fd, flags) => (valInt fd, flags)).take n).map
        PollFd.ofPair)[index]?.map fun fd => (valInt fd.fd, revents)) =
      fds[index]?.map fun (fd, _) => (valInt fd, revents) := by
  rw [List.getElem?_map, List.getElem?_take_of_lt bound, List.getElem?_map,
    Option.map_map, Option.map_map]
  apply congrArg (Option.map · _)
  funext pair
  exact congrArg (fun fd => (valInt fd, revents)) (intVal_valInt pair.1)

theorem poll_returned (fds : List (BitVec 32 × CamlInt)) {n : CamlInt}
    (nonneg : 0 ≤ n.toInt) (bound : n.toInt ≤ fds.length)
    (small : n.toInt < 2 ^ 31) (timeout : BitVec 32)
    (revents : Nat → BitVec 16) :
    poll (fun _ _ => .ok revents) (fds.map fun (fd, flags) => (valInt fd, flags))
        (some n) timeout =
      .returned ((active revents n.toInt.toNat).filterMap fun index =>
        fds[index]?.map fun (fd, _) => (valInt fd, eventsOf (revents index))) := by
  have arrives : widen (intVal n) = longVal n :=
    (widen_intVal_iff n).mpr ⟨by omega, small⟩
  have count : (longVal n).toNat = n.toInt.toNat := by
    have := toNat_longVal nonneg
    omega
  have within : n.toInt.toNat ≤ fds.length := by omega
  unfold poll pollStub
  simp only [Option.getD_some, arrives, count, List.length_map]
  rw [if_neg (by omega)]
  split_ifs with zero
  · rw [← count, zero]
    rfl
  · rw [uerror, Outcome.map, collect_mapIdx]
    have length : (((fds.map fun (fd, flags) => (valInt fd, flags)).take
        n.toInt.toNat).map PollFd.ofPair).length = n.toInt.toNat := by
      rw [List.length_map, List.length_take, List.length_map]
      exact min_eq_left within
    rw [length]
    apply congrArg Outcome.returned
    apply List.filterMap_congr
    intro index member
    exact getElem?_ofPair fds (mem_active.mp member).1 _

theorem value_eq (platform : Platform) (flag : Flag) :
    flag.value platform = valInt (platform.constant flag) := by
  cases flag <;> rfl

theorem value_of_some {platform : Platform} {flag : Flag} {index : Nat}
    (present : platform.bit flag = some index) :
    flag.value platform = BitVec.twoPow 63 index := by
  have bound := platform.bit_lt present
  rw [value_eq, Platform.constant, present]
  dsimp only
  rw [← BitVec.twoPow_eq]
  apply BitVec.eq_of_getLsbD_eq
  intro position inside
  rw [valInt, BitVec.getLsbD_signExtend, BitVec.msb_twoPow,
    BitVec.getLsbD_twoPow, BitVec.getLsbD_twoPow]
  grind

theorem value_of_none {platform : Platform} {flag : Flag}
    (missing : platform.bit flag = none) : flag.value platform = 0 := by
  rw [value_eq, Platform.constant, missing]
  rfl

theorem getLsbD_eventsOf (revents : BitVec 16) {index : Nat}
    (bound : index < 16) :
    (eventsOf revents).getLsbD index = revents.getLsbD index := by
  rw [eventsOf, valInt, BitVec.getLsbD_signExtend, BitVec.getLsbD_signExtend,
    if_pos (by omega), if_pos bound]
  simp [show index < 63 by omega, show index < 32 by omega]

theorem value_eq_zero_iff (platform : Platform) (flag : Flag) :
    flag.value platform = 0 ↔ platform.bit flag = none := by
  cases present : platform.bit flag with
  | none => exact iff_of_true (value_of_none present) rfl
  | some index =>
      have bound : index < 63 :=
        Nat.lt_trans (platform.bit_lt present) (by decide)
      rw [value_of_some present]
      exact iff_of_false (twoPow_ne_zero bound) (Option.some_ne_none index)

instance (platform : Platform) (revents : BitVec 16) (flag : Flag) :
    Decidable (Reported platform revents flag) :=
  match present : platform.bit flag with
  | none => isFalse fun ⟨_, other, _⟩ => nomatch present.symm.trans other
  | some index =>
      decidable_of_iff (revents.getLsbD index = true) (by
        simp [Reported, present])

theorem eventsOf_and_value (platform : Platform) (revents : BitVec 16)
    (flag : Flag) :
    eventsOf revents &&& flag.value platform =
      if Reported platform revents flag then flag.value platform else 0 := by
  cases present : platform.bit flag with
  | none =>
      rw [value_of_none present, ite_self]
      exact BitVec.and_zero
  | some index =>
      rw [value_of_some present, BitVec.and_twoPow,
        getLsbD_eventsOf revents (platform.bit_lt present)]
      simp [Reported, present]

theorem isSet_iff (platform : Platform) (revents : BitVec 16) (flag : Flag) :
    isSet (eventsOf revents) (flag.value platform) = true ↔
      platform.bit flag = none ∨ Reported platform revents flag := by
  rw [isSet, beq_iff_eq, eventsOf_and_value]
  split_ifs with reported
  · simp [reported]
  · rw [eq_comm, value_eq_zero_iff]
    simp [reported]

theorem join_eq_union (flags : List CamlInt) : join flags = union flags := by
  rw [join]
  refine (foldl_or id flags 0).trans ?_
  rw [List.map_id]
  exact BitVec.zero_or

theorem eventsOf_and_value_ne_zero_iff (platform : Platform)
    (revents : BitVec 16) (flag : Flag) :
    eventsOf revents &&& flag.value platform ≠ 0 ↔
      Reported platform revents flag := by
  rw [eventsOf_and_value]
  split_ifs with reported
  · obtain ⟨index, present, -⟩ := id reported
    apply iff_of_true _ reported
    rw [ne_eq, value_eq_zero_iff, present]
    exact Option.some_ne_none index
  · exact iff_of_false (fun nonzero => nonzero rfl) reported

theorem isInter_join_iff (platform : Platform) (revents : BitVec 16)
    (flags : List Flag) :
    isInter (eventsOf revents) (join (flags.map (Flag.value platform))) = true ↔
      ∃ flag ∈ flags, Reported platform revents flag := by
  rw [isInter, bne_iff_ne, join_eq_union, BitVec.and_comm, union_and, ne_eq,
    union_eq_zero_iff, List.map_map]
  simp only [List.forall_mem_map, Function.comp_apply, not_forall, exists_prop]
  apply exists_congr
  intro flag
  rw [BitVec.and_comm]
  exact and_congr_right fun _ => eventsOf_and_value_ne_zero_iff ..

/-- The report is as it should be exactly when the platform has `POLLRDHUP` or no
entry has events: of a missing flag `is_set` says that it is set. -/
theorem poll_reports_iff (platform : Platform)
    (fds : List (BitVec 32 × CamlInt)) (n : CamlInt) (nonneg : 0 ≤ n.toInt)
    (bound : n.toInt ≤ fds.length) (small : n.toInt < 2 ^ 31)
    (timeout : BitVec 32) (revents : Nat → BitVec 16) :
    Reports platform fds n timeout revents ↔
      platform.bit .POLLRDHUP ≠ none ∨
        ∀ index < n.toInt.toNat, revents index = 0 := by
  constructor
  · rintro ⟨-, reports⟩
    rw [or_iff_not_imp_left, not_not]
    intro missing index inside
    by_contra nonzero
    have flags := (reports index (mem_active.mpr ⟨inside, nonzero⟩)).1 .POLLRDHUP
    rw [isSet_iff] at flags
    obtain ⟨_, present, -⟩ := flags.mp (.inl missing)
    exact nomatch missing.symm.trans present
  · intro condition
    refine ⟨poll_returned fds nonneg bound small timeout revents, ?_⟩
    intro index member
    obtain ⟨inside, nonzero⟩ := mem_active.mp member
    have present : platform.bit .POLLRDHUP ≠ none :=
      condition.resolve_right fun silent => nonzero (silent index inside)
    refine ⟨fun flag => ?_, isInter_join_iff platform (revents index)⟩
    rw [isSet_iff]
    apply or_iff_right
    intro missing
    rw [platform.named missing] at missing
    exact present missing

/-- The usual bits; Linux has `POLLRDHUP` at bit 13, macOS has none. -/
def usual (rdhup : Bool) : Platform where
  bit
    | .POLLIN => some 0
    | .POLLPRI => some 1
    | .POLLOUT => some 2
    | .POLLERR => some 3
    | .POLLHUP => some 4
    | .POLLNVAL => some 5
    | .POLLRDHUP => if rdhup then some 13 else none
  bit_lt := by
    intro flag index present
    cases rdhup <;> cases flag <;> cases present <;> decide
  bit_inj := by
    intro first second index
    cases rdhup <;> cases first <;> cases second <;> simp <;> omega
  named := by
    intro flag missing
    cases rdhup <;> cases flag <;> first | rfl | cases missing

theorem poll_reports_linux :
    Reports (usual true) [(3, 1)] 1 1000 (fun _ => 1) :=
  (poll_reports_iff (usual true) [(3, 1)] 1 (by decide) (by decide) (by decide)
    1000 fun _ => 1).mpr (.inl (by decide))

/-- One descriptor is readable; every event has the flag that is missing. -/
theorem missing_flag_is_set :
    ¬Reports (usual false) [(3, 1)] 1 1000 (fun _ => 1) := by
  rintro ⟨-, reports⟩
  have flags := (reports 0 (by decide)).1 .POLLRDHUP
  obtain ⟨_, present, -⟩ := flags.mp (by decide)
  exact nomatch present

end ExtUnix.Process.Poll
