import ExtUnix.Data.Machine
import ExtUnix.Process.Wait4

namespace ExtUnix.Event.Signalfd

open ExtUnix.Data
open ExtUnix.Runtime
open ExtUnix.Process.Wait4 (revConvertSignalNumber)

/-! `signalfd.c`, over the signals a process has blocked. -/

abbrev Signal := BitVec 32

/-- The table `posix_signals` of the runtime.  Signals the platform lacks are
the same number in it, one that `sigaddset` refuses; no other signal has two
names, which leaves out a runtime that lists both `SIGIO` and `SIGPOLL`. -/
structure SignalTable (valid : Signal → Bool) where
  posixSignals : List Signal
  short : posixSignals.length ≤ 2 ^ 31
  distinct : ∀ signal, valid signal = true → ∀ first second : Nat,
    posixSignals[first]? = some signal →
      posixSignals[second]? = some signal → first = second

def convertSignalNumber (posixSignals : List Signal) (signo : BitVec 32) :
    Signal :=
  if signo.toInt < 0 then
    posixSignals.getD (-signo.toInt - 1).toNat signo
  else signo

structure SfdConstants where
  SFD_NONBLOCK : BitVec 32
  SFD_CLOEXEC : BitVec 32

structure Ssi where
  signo : Signal
  errno : BitVec 32
  code : BitVec 32
  pid : BitVec 32
  uid : BitVec 32
  fd : BitVec 32
  tid : BitVec 32
  band : BitVec 32
  overrun : BitVec 32
  trapno : BitVec 32
  status : BitVec 32
  int : BitVec 32
  ptr : BitVec 64
  utime : BitVec 64
  stime : BitVec 64
  addr : BitVec 64
  deriving DecidableEq

def EINVAL : Errno := 22

structure Descriptor where
  mask : List Signal
  flags : BitVec 32
  deriving DecidableEq

structure Kernel where
  descriptors : BitVec 32 → Option Descriptor
  pending : List Signal

def Kernel.fresh (pending : List Signal) : Kernel := ⟨fun _ => none, pending⟩

def Kernel.install (kernel : Kernel) (fd : BitVec 32) (entry : Descriptor) :
    Kernel :=
  { kernel with descriptors := fun other =>
      if other = fd then some entry else kernel.descriptors other }

/-- `signalfd(2)`.  `answer` is the number of a new descriptor, or why the
kernel has none. -/
def Kernel.signalfd (kernel : Kernel) (fd : BitVec 32) (mask : List Signal)
    (flags : BitVec 32) (answer : Except Errno (BitVec 32)) :
    Kernel × Except Errno (BitVec 32) :=
  match answer with
  | .error errno => (kernel, .error errno)
  | .ok new =>
      if fd = -1 then (kernel.install new ⟨mask, flags⟩, .ok new)
      else
        match kernel.descriptors fd with
        | none => (kernel, .error EINVAL)
        | some entry =>
            (kernel.install fd { entry with mask := mask }, .ok fd)

/-- A signal below `SIGRTMIN` that waits already is not queued again. -/
def Kernel.raise (kernel : Kernel) (signal : Signal) : Kernel × Bool :=
  if signal.toNat < 32 ∧ signal ∈ kernel.pending then (kernel, false)
  else ({ kernel with pending := kernel.pending ++ [signal] }, true)

/-- `read(2)` takes one of the waiting signals of the mask; `refusal` is the
`errno` it gives up with. -/
def Kernel.read (kernel : Kernel) (fd : BitVec 32) (pick : Nat) (info : Ssi)
    (refusal : Errno) : Kernel × Except Errno Ssi :=
  match kernel.descriptors fd with
  | none => (kernel, .error refusal)
  | some entry =>
      match (kernel.pending.filter (· ∈ entry.mask))[pick]? with
      | none => (kernel, .error refusal)
      | some signal =>
          ({ kernel with pending := kernel.pending.erase signal },
            .ok { info with signo := signal })

section Stubs

variable (posixSignals : List Signal) (valid : Signal → Bool)
  (constants : SfdConstants)

def signalOf (vsig : CamlInt) : Signal :=
  convertSignalNumber posixSignals (intVal vsig)

/-- The first loop. -/
def sigset (vsigs : List CamlInt) : Except Errno (List Signal) :=
  vsigs.foldlM (fun ss vsig =>
    let sig := signalOf posixSignals vsig
    if valid sig then .ok (sig :: ss) else .error EINVAL) []

/-- The second loop. -/
def sfdFlags (vflags : List CamlInt) : BitVec 32 :=
  vflags.foldl (fun flags vflag =>
    let f := intVal vflag
    let flags :=
      if constants.SFD_NONBLOCK = f then flags ||| constants.SFD_NONBLOCK
      else flags
    if constants.SFD_CLOEXEC = f then flags ||| constants.SFD_CLOEXEC
    else flags) 0

def signalfd (kernel : Kernel) (vfd : Option CamlInt)
    (vsigs vflags : List CamlInt) (answer : Except Errno (BitVec 32)) :
    Kernel × Outcome CamlInt :=
  match sigset posixSignals valid vsigs with
  | .error errno => (kernel, .unixError errno "sigaddset" [])
  | .ok ss =>
      let fd := (vfd.map intVal).getD (-1)
      let (next, ret) :=
        kernel.signalfd fd ss (sfdFlags constants vflags) answer
      (next, (uerror "signalfd" [] ret).map valInt)

/-- `caml_extunix_signalfd_read`: whatever `read(2)` says, the error raised is
`EINVAL`. -/
def signalfdRead (kernel : Kernel) (vFd : CamlInt) (pick : Nat) (info : Ssi)
    (refusal : Errno) : Kernel × Outcome Ssi :=
  match kernel.read (intVal vFd) pick info refusal with
  | (next, .error _) => (next, .unixError EINVAL "signalfd_read" [])
  | (next, .ok ssi) => (next, .returned ssi)

def ssiSignoSys (ssi : Ssi) : CamlInt :=
  valInt (revConvertSignalNumber posixSignals ssi.signo)

end Stubs

inductive Call where
  | signalfd (vfd : Option CamlInt) (vsigs vflags : List CamlInt)
      (answer : Except Errno (BitVec 32))
  | raise (signal : Signal)
  | read (vFd : CamlInt) (pick : Nat) (info : Ssi) (refusal : Errno)

inductive Answer where
  | descriptor (outcome : Outcome CamlInt)
  | raised (queued : Bool)
  | info (outcome : Outcome Ssi)
  deriving DecidableEq

def step (posixSignals : List Signal) (valid : Signal → Bool)
    (constants : SfdConstants) (kernel : Kernel) : Call → Kernel × Answer
  | .signalfd vfd vsigs vflags answer =>
      let (next, outcome) :=
        signalfd posixSignals valid constants kernel vfd vsigs vflags answer
      (next, .descriptor outcome)
  | .raise signal =>
      let (next, queued) := kernel.raise signal
      (next, .raised queued)
  | .read vFd pick info refusal =>
      let (next, outcome) := signalfdRead kernel vFd pick info refusal
      (next, .info outcome)

def asked (fd : BitVec 32) : Call × Answer → Option (List CamlInt)
  | (.signalfd _ vsigs _ _, .descriptor (.returned vFd)) =>
      if intVal vFd = fd then some vsigs else none
  | _ => none

def masked (posixSignals : List Signal) (fd : BitVec 32)
    (entry : Call × Answer) : Option (Option (List Signal)) :=
  (asked fd entry).map fun vsigs =>
    some (vsigs.map (signalOf posixSignals)).reverse

def queued (signal : Signal) : Call × Answer → Nat
  | (.raise raised, .raised true) => if raised = signal then 1 else 0
  | _ => 0

def delivered (signal : Signal) : Call × Answer → Nat
  | (_, .info (.returned ssi)) => if ssi.signo = signal then 1 else 0
  | _ => 0

theorem getElem?_convertSignalNumber {posixSignals : List Signal}
    {signo : BitVec 32} (negative : signo.toInt < 0)
    (named : -posixSignals.length ≤ signo.toInt) :
    posixSignals[(-signo.toInt - 1).toNat]? =
      some (convertSignalNumber posixSignals signo) := by
  have bound : (-signo.toInt - 1).toNat < posixSignals.length := by omega
  rw [convertSignalNumber, if_pos negative, List.getD_eq_getElem?_getD,
    List.getElem?_eq_getElem bound, Option.getD_some]

theorem revConvertSignalNumber_of_only {posixSignals : List Signal}
    {signal : Signal} {index : Nat} (found : posixSignals[index]? = some signal)
    (only : ∀ other, posixSignals[other]? = some signal → other = index) :
    revConvertSignalNumber posixSignals signal =
      BitVec.ofInt 32 (-(index : Int) - 1) := by
  have first : posixSignals.findIdx? (· == signal) = some index := by
    rw [List.findIdx?_eq_some_iff_getElem]
    obtain ⟨bound, equal⟩ := List.getElem?_eq_some_iff.mp found
    refine ⟨bound, by simpa using equal, ?_⟩
    intro other earlier
    simp only [beq_iff_eq]
    intro same
    have := only other (List.getElem?_eq_some_iff.mpr ⟨_, same⟩)
    omega
  rw [revConvertSignalNumber, first]

/-- A signal that has a name of its own in OCaml comes back under that name. -/
theorem ssiSignoSys_named {valid : Signal → Bool} (table : SignalTable valid)
    {vsig : CamlInt} (negative : vsig.toInt < 0)
    (named : -table.posixSignals.length ≤ vsig.toInt) {ssi : Ssi}
    (signo : ssi.signo = signalOf table.posixSignals vsig)
    (accepted : valid ssi.signo = true) :
    ssiSignoSys table.posixSignals ssi = vsig := by
  have short := table.short
  have number : (intVal vsig).toInt = vsig.toInt := by
    rw [toInt_intVal]
    exact Int.bmod_eq_of_le (by omega) (by omega)
  have found : table.posixSignals[(-vsig.toInt - 1).toNat]? =
      some ssi.signo := by
    rw [signo, signalOf, ← number]
    exact getElem?_convertSignalNumber (number ▸ negative) (number ▸ named)
  rw [ssiSignoSys, revConvertSignalNumber_of_only found fun other at_ =>
    table.distinct _ accepted _ _ at_ found]
  apply BitVec.eq_of_toInt_eq
  rw [valInt, BitVec.toInt_signExtend_of_le (by decide), BitVec.toInt_ofInt]
  have value : -((-vsig.toInt - 1).toNat : Int) - 1 = vsig.toInt := by omega
  rw [value]
  exact Int.bmod_eq_of_le (by omega) (by omega)

section Loops

variable {posixSignals : List Signal} {valid : Signal → Bool}

theorem foldlM_sigset {vsigs : List CamlInt} {start ss : List Signal}
    (built : vsigs.foldlM (fun ss vsig =>
      let sig := signalOf posixSignals vsig
      if valid sig then Except.ok (sig :: ss) else .error EINVAL) start =
        .ok ss)
    (accepted : ∀ signal ∈ start, valid signal = true) :
    ss = (vsigs.map (signalOf posixSignals)).reverse ++ start ∧
      ∀ signal ∈ ss, valid signal = true := by
  induction vsigs generalizing start with
  | nil =>
      obtain rfl : start = ss := Except.ok.inj built
      exact ⟨rfl, accepted⟩
  | cons vsig rest induction =>
      rw [List.foldlM_cons] at built
      by_cases isValid : valid (signalOf posixSignals vsig) = true
      · simp only [isValid, if_true] at built
        obtain ⟨same, all⟩ := induction built
          (List.forall_mem_cons.mpr ⟨isValid, accepted⟩)
        refine ⟨?_, all⟩
        rw [same, List.map_cons, List.reverse_cons, List.append_assoc]
        rfl
      · simp only [isValid] at built
        cases built

theorem sigset_ok {vsigs : List CamlInt} {ss : List Signal}
    (built : sigset posixSignals valid vsigs = .ok ss) :
    ss = (vsigs.map (signalOf posixSignals)).reverse ∧
      ∀ signal ∈ ss, valid signal = true := by
  have loop := foldlM_sigset built (by simp)
  rwa [List.append_nil] at loop

end Loops

section Kernels

variable (kernel : Kernel) (fd : BitVec 32)

theorem Kernel.read_cases (pick : Nat) (info : Ssi) (refusal : Errno) :
    kernel.read fd pick info refusal = (kernel, .error refusal) ∨
      ∃ entry signal, kernel.descriptors fd = some entry ∧
        signal ∈ entry.mask ∧ signal ∈ kernel.pending ∧
        kernel.read fd pick info refusal =
          ({ kernel with pending := kernel.pending.erase signal },
            .ok { info with signo := signal }) := by
  unfold read
  cases opened : kernel.descriptors fd with
  | none => exact .inl rfl
  | some entry =>
      cases picked : (kernel.pending.filter (· ∈ entry.mask))[pick]? with
      | none => exact .inl (by simp only [picked])
      | some signal =>
          have member := List.mem_of_getElem? picked
          rw [List.mem_filter, decide_eq_true_eq] at member
          exact .inr ⟨entry, signal, rfl, member.2, member.1,
            by simp only [picked]⟩

theorem Kernel.raise_cases (signal : Signal) :
    kernel.raise signal = (kernel, false) ∨
      kernel.raise signal =
        ({ kernel with pending := kernel.pending ++ [signal] }, true) := by
  unfold raise
  split_ifs
  · exact .inl rfl
  · exact .inr rfl

theorem Kernel.signalfd_cases (mask : List Signal) (flags : BitVec 32)
    (answer : Except Errno (BitVec 32)) :
    (∃ errno, kernel.signalfd fd mask flags answer = (kernel, .error errno)) ∨
      ∃ number entry, entry.mask = mask ∧
        kernel.signalfd fd mask flags answer =
          (kernel.install number entry, .ok number) := by
  unfold signalfd
  cases answer with
  | error errno => exact .inl ⟨errno, rfl⟩
  | ok new =>
      by_cases fresh : fd = -1
      · simp only [if_pos fresh]
        exact .inr ⟨new, _, rfl, rfl⟩
      · simp only [if_neg fresh]
        cases kernel.descriptors fd with
        | none => exact .inl ⟨EINVAL, rfl⟩
        | some entry => exact .inr ⟨fd, { entry with mask := mask }, rfl, rfl⟩

end Kernels

section Steps

variable {posixSignals : List Signal} {valid : Signal → Bool}
  {constants : SfdConstants}

/-- A call either fails, and changes nothing, or leaves exactly the listed
signals, all of them valid, as the mask of the descriptor it returns. -/
theorem signalfd_cases (kernel : Kernel) (vfd : Option CamlInt)
    (vsigs vflags : List CamlInt) (answer : Except Errno (BitVec 32)) :
    (∃ errno function, signalfd posixSignals valid constants kernel vfd vsigs
        vflags answer = (kernel, .unixError errno function [])) ∨
      ∃ number entry,
        entry.mask = (vsigs.map (signalOf posixSignals)).reverse ∧
        (∀ signal ∈ entry.mask, valid signal = true) ∧
        signalfd posixSignals valid constants kernel vfd vsigs vflags answer =
          (kernel.install number entry, .returned (valInt number)) := by
  unfold signalfd
  cases built : sigset posixSignals valid vsigs with
  | error errno => exact .inl ⟨errno, "sigaddset", rfl⟩
  | ok ss =>
      obtain ⟨same, accepted⟩ := sigset_ok built
      obtain ⟨errno, failed⟩ | ⟨number, entry, mask, done⟩ :=
        kernel.signalfd_cases ((vfd.map intVal).getD (-1)) ss
          (sfdFlags constants vflags) answer
      · exact .inl ⟨errno, "signalfd", by simp only [failed]; rfl⟩
      · refine .inr ⟨number, entry, mask.trans same, ?_, by simp only [done]; rfl⟩
        rw [mask]
        exact accepted

theorem step_mask (fd : BitVec 32) (kernel : Kernel) (call : Call) :
    ((step posixSignals valid constants kernel call).1.descriptors fd).map
        Descriptor.mask =
      (masked posixSignals fd
        (call, (step posixSignals valid constants kernel call).2)).getD
          ((kernel.descriptors fd).map Descriptor.mask) := by
  cases call with
  | raise signal =>
      rw [step]
      obtain same | same := kernel.raise_cases signal
      all_goals
        rw [same]
        rfl
  | read vFd pick info refusal =>
      rw [step, signalfdRead]
      obtain same | ⟨entry, signal, -, -, -, same⟩ :=
        kernel.read_cases (intVal vFd) pick info refusal
      all_goals
        rw [same]
        rfl
  | signalfd vfd vsigs vflags answer =>
      rw [step]
      obtain ⟨errno, function, same⟩ | ⟨number, entry, mask, -, same⟩ :=
        @signalfd_cases posixSignals valid constants kernel vfd vsigs vflags
          answer
      · rw [same]
        rfl
      · rw [same]
        simp only [masked, asked, intVal_valInt, Kernel.install]
        by_cases here : fd = number
        · simp [here, mask]
        · simp [here, Ne.symm here]

def Kernel.Valid (valid : Signal → Bool) (kernel : Kernel) : Prop :=
  ∀ fd entry, kernel.descriptors fd = some entry →
    ∀ signal ∈ entry.mask, valid signal = true

theorem step_valid (kernel : Kernel) (call : Call)
    (kept : kernel.Valid valid) :
    (step posixSignals valid constants kernel call).1.Valid valid := by
  cases call with
  | raise signal =>
      rw [step]
      obtain same | same := kernel.raise_cases signal
      all_goals
        rw [same]
        exact kept
  | read vFd pick info refusal =>
      rw [step, signalfdRead]
      obtain same | ⟨entry, signal, -, -, -, same⟩ :=
        kernel.read_cases (intVal vFd) pick info refusal
      all_goals
        rw [same]
        exact kept
  | signalfd vfd vsigs vflags answer =>
      rw [step]
      obtain ⟨errno, function, same⟩ | ⟨number, entry, -, accepted, same⟩ :=
        @signalfd_cases posixSignals valid constants kernel vfd vsigs vflags
          answer
      · rw [same]
        exact kept
      · rw [same]
        intro fd found installed
        simp only [Kernel.install] at installed
        split_ifs at installed
        · cases installed
          exact accepted
        · exact kept fd found installed

theorem step_pending (signal : Signal) (kernel : Kernel) (call : Call) :
    (step posixSignals valid constants kernel call).1.pending.count signal +
        delivered signal
          (call, (step posixSignals valid constants kernel call).2) =
      kernel.pending.count signal +
        queued signal
          (call, (step posixSignals valid constants kernel call).2) := by
  cases call with
  | raise raised =>
      rw [step]
      obtain same | same := kernel.raise_cases raised
      · rw [same]
        rfl
      · rw [same]
        simp only [delivered, queued, List.count_append, List.count_singleton,
          beq_iff_eq, Nat.add_zero]
  | read vFd pick info refusal =>
      rw [step, signalfdRead]
      obtain same | ⟨entry, taken, -, -, waiting, same⟩ :=
        kernel.read_cases (intVal vFd) pick info refusal
      · rw [same]
        rfl
      · rw [same]
        simp only [delivered, queued]
        by_cases here : taken = signal
        · subst here
          have positive := List.count_pos_iff.mpr waiting
          rw [if_pos rfl, List.count_erase_self]
          omega
        · rw [if_neg here, List.count_erase_of_ne (Ne.symm here)]
  | signalfd vfd vsigs vflags answer =>
      rw [step]
      obtain ⟨errno, function, same⟩ | ⟨number, entry, -, -, same⟩ :=
        @signalfd_cases posixSignals valid constants kernel vfd vsigs vflags
          answer
      all_goals
        rw [same]
        rfl

theorem step_read_returned {kernel : Kernel} {vFd : CamlInt} {pick : Nat}
    {info ssi : Ssi} {refusal : Errno}
    (returned : (step posixSignals valid constants kernel
      (.read vFd pick info refusal)).2 = .info (.returned ssi)) :
    ∃ entry, kernel.descriptors (intVal vFd) = some entry ∧
      ssi.signo ∈ entry.mask := by
  rw [step, signalfdRead] at returned
  obtain same | ⟨entry, signal, opened, listed, -, same⟩ :=
    kernel.read_cases (intVal vFd) pick info refusal
  · rw [same] at returned
    cases returned
  · rw [same] at returned
    cases returned
    exact ⟨entry, opened, listed⟩

end Steps

section Runs

variable (posixSignals : List Signal) (valid : Signal → Bool)
  (constants : SfdConstants) (pending : List Signal) (calls : List Call)

theorem run_mask (fd : BitVec 32) :
    ((run (step posixSignals valid constants) (.fresh pending) calls).1.descriptors
        fd).map Descriptor.mask =
      ((account (step posixSignals valid constants) (.fresh pending)
          calls).filterMap (asked fd)).getLast?.map
        fun vsigs => (vsigs.map (signalOf posixSignals)).reverse := by
  have latest := run_latest (step posixSignals valid constants)
    (fun kernel : Kernel => (kernel.descriptors fd).map Descriptor.mask)
    (masked posixSignals fd) (step_mask fd) (.fresh pending) calls
  have masks : (account (step posixSignals valid constants) (.fresh pending)
        calls).filterMap (masked posixSignals fd) =
      ((account (step posixSignals valid constants) (.fresh pending)
        calls).filterMap (asked fd)).map fun vsigs =>
          some (vsigs.map (signalOf posixSignals)).reverse :=
    List.map_filterMap.symm
  rw [latest, masks, List.getLast?_map]
  cases ((account (step posixSignals valid constants) (.fresh pending)
    calls).filterMap (asked fd)).getLast? <;> rfl

theorem run_valid :
    (run (step posixSignals valid constants) (.fresh pending) calls).1.Valid
      valid := by
  refine run_keeps (fun kernel call _ => step_valid kernel call) ?_
  intro fd entry opened
  cases opened

end Runs

/-- Over every history of `signalfd`s made and remade, signals raised and reads:
each signal is read as often as it was queued, less what still waits; and a read
gives a signal of the list last given for its descriptor, under the number that
list has for it where that is one of OCaml's names. -/
theorem signalfd_delivers {valid : Signal → Bool} (table : SignalTable valid)
    (constants : SfdConstants) (pending : List Signal) (calls : List Call) :
    let step := step table.posixSignals valid constants
    let history := account step (.fresh pending) calls
    (∀ signal, (run step (.fresh pending) calls).1.pending.count signal +
        (history.map (delivered signal)).sum =
      pending.count signal + (history.map (queued signal)).sum) ∧
    ∀ index vFd pick info refusal ssi,
      history[index]? =
        some (.read vFd pick info refusal, .info (.returned ssi)) →
      ∃ vsigs, ((history.take index).filterMap (asked (intVal vFd))).getLast? =
          some vsigs ∧
        ∃ vsig ∈ vsigs, ssi.signo = signalOf table.posixSignals vsig ∧
          (vsig.toInt < 0 → -table.posixSignals.length ≤ vsig.toInt →
            ssiSignoSys table.posixSignals ssi = vsig) := by
  intro step history
  constructor
  · intro signal
    exact run_balances (fun kernel : Kernel => kernel.pending.count signal)
      (queued signal) (delivered signal) (step_pending signal) (.fresh pending)
      calls
  · intro index vFd pick info refusal ssi answered
    obtain ⟨-, returned⟩ := account_eq_some.mp answered
    obtain ⟨entry, opened, listed⟩ := step_read_returned returned
    have accepted := run_valid table.posixSignals valid constants pending
      (calls.take index) (intVal vFd) entry opened ssi.signo listed
    have mask := (run_mask table.posixSignals valid constants pending
      (calls.take index) (intVal vFd)).symm.trans
        (congrArg (Option.map Descriptor.mask) opened)
    obtain ⟨vsigs, given, masks⟩ := Option.map_eq_some_iff.mp mask
    refine ⟨vsigs, by rw [take_account]; exact given, ?_⟩
    rw [← masks, List.mem_reverse, List.mem_map] at listed
    obtain ⟨vsig, member, signo⟩ := listed
    exact ⟨vsig, member, signo.symm, fun negative named =>
      ssiSignoSys_named table negative named signo.symm accepted⟩

/-- The table on Linux, from `SIGABRT` to `SIGXFSZ`. -/
def linuxSignals : SignalTable fun signal => 0 < signal.toInt where
  posixSignals := [6, 14, 8, 1, 4, 2, 9, 13, 3, 11, 15, 10, 12, 17, 18, 19, 20,
    21, 22, 26, 27, 7, 29, 31, 5, 23, 24, 25]
  short := by decide
  distinct := fun _ _ _ _ first second =>
    (List.getElem?_inj (List.getElem?_eq_some_iff.mp first).1
      (by decide)).mp (first.trans second.symm)

/-- `SIGUSR1` and `SIGUSR2` are blocked and raised, and read one after the
other. -/
theorem signalfd_delivers_pair :
    let table := linuxSignals
    let info : Ssi := ⟨0, 0, 0, 0, 0, 0, 0, 0, 0, 0, 0, 0, 0, 0, 0, 0⟩
    let calls : List Call := [.signalfd none [-12] [] (.ok 3), .raise 10,
      .signalfd (some 3) [-12, -13] [] (.ok 0), .read 3 0 info 11, .raise 12,
      .read 3 0 info 11]
    ∃ ssi, (account (step table.posixSignals (fun signal => 0 < signal.toInt)
          ⟨0x800, 0x80000⟩) (.fresh []) calls)[5]? =
        some (.read 3 0 info 11, .info (.returned ssi)) ∧
      ssiSignoSys table.posixSignals ssi ∈ ([-12, -13] : List CamlInt) := by
  intro table info calls
  obtain ⟨-, delivers⟩ := signalfd_delivers table ⟨0x800, 0x80000⟩ [] calls
  refine ⟨{ info with signo := 12 }, rfl, ?_⟩
  obtain ⟨vsigs, given, vsig, member, -, named⟩ := delivers 5 3 0 info 11 _ rfl
  obtain rfl : [-12, -13] = vsigs := Option.some.inj given
  have bounds : vsig.toInt < 0 ∧ -table.posixSignals.length ≤ vsig.toInt := by
    simp only [List.mem_cons, List.not_mem_nil, or_false] at member
    obtain rfl | rfl := member <;> decide
  rw [named bounds.1 bounds.2]
  exact member

end ExtUnix.Event.Signalfd
