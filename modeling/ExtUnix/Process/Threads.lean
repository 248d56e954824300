import ExtUnix.Process.Syslog

namespace ExtUnix.Process.Syslog

open ExtUnix.Data
open ExtUnix.Runtime

/-! `Syslog` under threads.  `caml_extunix_syslog` gives the lock up around
`syslog(3)`, which reads the tag and then what the tag points to; the other stubs
keep the lock, so that only such threads see them between two statements.  A lock
of libc's own would leave out some of these orders. -/

/-- Where a thread is; it has the address of the copy of its message. -/
inductive Phase where
  | outside
  | entered (str : Address)
  | looked (str : Address) (tag : Option Address)
  | written (str : Address)

def Phase.copy : Phase → Option Address
  | .outside => none
  | .entered str | .looked str _ | .written str => some str

def Phase.held : Phase → Option Address
  | .looked _ tag => tag
  | _ => none

def Phase.isEntered : Phase → Bool
  | .entered _ => true
  | _ => false

/-- What an `openlog` is given; its options and facility do not touch the tag. -/
structure Opening where
  ident : Option (List UInt8)

structure Threads (τ : Type) where
  shared : State
  /-- An `openlog` that has released the copy of the one before. -/
  opening : Option Opening
  phase : τ → Phase

inductive Action (τ : Type) where
  | enter (thread : τ) (allocator : Allocator) (message : List UInt8)
  | look (thread : τ)
  | write (thread : τ)
  | leave (thread : τ)
  | closelog
  | release (opening : Opening)
  | openlog (allocator : Allocator)

section Steps

variable {τ : Type} [DecidableEq τ]

namespace Threads

def moved (threads : Threads τ) (thread : τ) (phase : Phase) : Threads τ :=
  { threads with phase := Function.update threads.phase thread phase }

def enter (threads : Threads τ) (thread : τ) (allocator : Allocator)
    (message : List UInt8) : Threads τ :=
  match threads.opening, threads.phase thread,
      allocator.strdup threads.shared.heap message with
  | none, .outside, some (heap, str) =>
      { threads.moved thread (.entered str) with
        shared := { threads.shared with heap } }
  | _, _, _ => threads

def look (threads : Threads τ) (thread : τ) : Threads τ :=
  match threads.phase thread with
  | .entered str => threads.moved thread (.looked str threads.shared.tag)
  | _ => threads

def write (threads : Threads τ) (thread : τ) : Threads τ × Option Label :=
  match threads.phase thread with
  | .looked str tag => (threads.moved thread (.written str),
      some { threads.shared with tag }.label)
  | _ => (threads, none)

def leave (threads : Threads τ) (thread : τ) : Threads τ :=
  match threads.opening, threads.phase thread with
  | none, .written str =>
      { threads.moved thread .outside with
        shared := { threads.shared with heap := free threads.shared.heap str } }
  | _, _ => threads

def closelog (threads : Threads τ) : Threads τ :=
  match threads.opening with
  | none => { threads with shared := { threads.shared with tag := none } }
  | some _ => threads

def release (threads : Threads τ) (opening : Opening) : Threads τ :=
  match threads.opening with
  | none => { threads with
      shared := threads.shared.releaseIdent
      opening := some opening }
  | some _ => threads

def openlog (threads : Threads τ) (allocator : Allocator) : Threads τ :=
  match threads.opening with
  | none => threads
  | some opening =>
      match threads.shared.copyIdent allocator opening.ident with
      | none => { threads with opening := none }
      | some copied => { threads with
          shared := copied.libcOpenlog copied.ident
          opening := none }

def step (threads : Threads τ) : Action τ → Threads τ × Option Label
  | .enter thread allocator message =>
      (threads.enter thread allocator message, none)
  | .look thread => (threads.look thread, none)
  | .write thread => threads.write thread
  | .leave thread => (threads.leave thread, none)
  | .closelog => (threads.closelog, none)
  | .release opening => (threads.release opening, none)
  | .openlog allocator => (threads.openlog allocator, none)

variable {threads : Threads τ}

/-! Without the others, the parts of a stub are the stub. -/

omit [DecidableEq τ] in
theorem openlog_release (constants : Constants) (allocator : Allocator)
    (closed : threads.opening = none) (vIdent : Option (List UInt8))
    (vOption : List Options) (vFacility : Facility) :
    (threads.release ⟨vIdent⟩).openlog allocator =
      { threads with shared := (Syslog.openlog constants allocator
        threads.shared vIdent vOption vFacility).1 } := by
  rw [openlog_eq, Threads.release, closed, Threads.openlog]
  cases copied : threads.shared.releaseIdent.copyIdent allocator vIdent <;>
    simp [copied]

theorem syslog_parts (constants : Constants) (allocator : Allocator)
    (closed : threads.opening = none) {thread : τ}
    (outside : threads.phase thread = .outside) (vFacility : Option Facility)
    (vLevel : Level) (vString : List UInt8) :
    (((threads.enter thread allocator vString).look thread).write
      thread).1.leave thread =
      { threads with shared := (Syslog.syslog constants allocator
        threads.shared vFacility vLevel vString).1 } := by
  rw [syslog_eq]
  cases copied : allocator.strdup threads.shared.heap vString with
  | none =>
      simp only [Threads.enter, Threads.look, Threads.write, Threads.leave,
        closed, outside, copied]
      rw [← closed]
  | some copy =>
      have back : Function.update threads.phase thread .outside =
          threads.phase := by
        rw [← outside, Function.update_eq_self]
      simp [Threads.enter, Threads.look, Threads.write, Threads.leave,
        Threads.moved, closed, outside, copied, back]

/-- What a thread has still to read is not freed, and no thread can enter where
the tag is. -/
structure Sound (threads : Threads τ) : Prop where
  held : ∀ thread address, (threads.phase thread).held = some address →
    (threads.shared.heap address).isSome = true
  entered : ∀ thread, (threads.phase thread).isEntered = true →
    threads.shared.Live
  closed : threads.opening = none → threads.shared.Live

def Safe (threads : Threads τ) (action : Action τ) : Prop :=
  let (next, found) := threads.step action
  next.Sound ∧ found ≠ some .dangling

/-- Where an `openlog` frees a copy, no thread has read its address, and none is
about to; where libc has a tag, it gets another. -/
def Guarded (threads : Threads τ) : Action τ → Prop
  | .release _ => threads.opening = none →
      ∀ address, threads.shared.ident = some address → ∀ thread,
        (threads.phase thread).held ≠ some address ∧
        (threads.shared.tag = some address →
          (threads.phase thread).isEntered = false)
  | .openlog allocator => ∀ opening, threads.opening = some opening →
      threads.shared.tag.isSome = true →
      opening.ident.isSome = true ∧
        (allocator.choose threads.shared.heap).isSome = true
  | _ => True

structure Kept (threads : Threads τ) : Prop extends Sound threads where
  owned : threads.opening = none → threads.shared.Owned
  released : ∀ opening, threads.opening = some opening →
    threads.shared.ident = none ∧ ∀ address,
      threads.shared.tag = some address → threads.shared.heap address = none
  ident : ∀ address, threads.shared.ident = some address →
    (threads.shared.heap address).isSome = true
  copy : ∀ thread str, (threads.phase thread).copy = some str →
    (threads.shared.heap str).isSome = true ∧
    threads.shared.ident ≠ some str ∧ ∀ other,
      (threads.phase other).held ≠ some str ∧
      (other ≠ thread → (threads.phase other).copy ≠ some str)

theorem free_self (heap : Heap) (address : Address) :
    free heap address address = none := by
  rw [free, Function.update_self]

theorem free_alive {heap : Heap} {address other : Address}
    (alive : (heap other).isSome = true) (distinct : other ≠ address) :
    (free heap address other).isSome = true := by
  rwa [free, Function.update_of_ne distinct]

theorem malloc_alive {heap : Heap} {address other : Address}
    (bytes : List UInt8) (alive : (heap other).isSome = true) :
    (Function.update heap address (some bytes) other).isSome = true := by
  rw [Function.update_apply]
  split_ifs
  · rfl
  · exact alive

theorem malloc_apart {heap : Heap} {address other : Address}
    (isFree : heap address = none) (alive : (heap other).isSome = true) :
    other ≠ address := by
  rintro rfl
  rw [isFree] at alive
  cases alive

theorem owned_of_untagged {state : State} (untagged : state.tag = none) :
    state.Owned := by
  intro address tagged
  cases untagged.symm.trans tagged

theorem phase_moved (threads : Threads τ) (thread other : τ) (phase : Phase) :
    (threads.moved thread phase).phase other =
      if other = thread then phase else threads.phase other :=
  Function.update_apply threads.phase thread phase other

theorem Kept.moved (kept : threads.Kept) {thread : τ} {phase : Phase}
    (copy : phase.copy = (threads.phase thread).copy)
    (passed : phase.isEntered = false)
    (held : ∀ address, phase.held = some address →
      (threads.shared.heap address).isSome = true ∧
      ∀ other, (threads.phase other).copy ≠ some address) :
    (threads.moved thread phase).Kept where
  held other address isHeld := by
    rw [phase_moved] at isHeld
    split_ifs at isHeld with same
    · exact (held address isHeld).1
    · exact kept.held other address isHeld
  entered other isEntered := by
    rw [phase_moved] at isEntered
    split_ifs at isEntered with same
    · rw [passed] at isEntered
      cases isEntered
    · exact kept.entered other isEntered
  closed := kept.closed
  owned := kept.owned
  released := kept.released
  ident := kept.ident
  copy other str hasCopy := by
    have copies : ∀ third, ((threads.moved thread phase).phase third).copy =
        (threads.phase third).copy := by
      intro third
      rw [phase_moved]
      split_ifs with same
      · rw [same, copy]
      · rfl
    rw [copies] at hasCopy
    obtain ⟨live, notIdent, others⟩ := kept.copy other str hasCopy
    refine ⟨live, notIdent, fun third => ⟨?_, fun distinct => ?_⟩⟩
    · rw [phase_moved]
      split_ifs with same
      · exact fun isHeld => (held str isHeld).2 other hasCopy
      · exact (others third).1
    · rw [copies]
      exact (others third).2 distinct

theorem Kept.look (kept : threads.Kept) (thread : τ) :
    (threads.look thread).Kept := by
  unfold Threads.look
  split
  next str found =>
    have live := kept.entered thread (by rw [found]; rfl)
    refine kept.moved (by rw [found]; rfl) rfl fun address tagged =>
      ⟨live address tagged, fun other hasCopy => ?_⟩
    obtain ⟨-, notIdent, -⟩ := kept.copy other address hasCopy
    cases closed : threads.opening with
    | none => exact notIdent (kept.owned closed address tagged).1
    | some opening =>
        have alive := live address tagged
        rw [(kept.released opening closed).2 address tagged] at alive
        cases alive
  next => exact kept

theorem Kept.write (kept : threads.Kept) (thread : τ) :
    (threads.write thread).1.Kept ∧
      (threads.write thread).2 ≠ some .dangling := by
  unfold Threads.write
  split
  next str tag found =>
    refine ⟨kept.moved (by rw [found]; rfl) rfl (fun _ isHeld => by cases isHeld),
      ?_⟩
    cases tag with
    | none => simp [State.label]
    | some address =>
        obtain ⟨bytes, alive⟩ := Option.isSome_iff_exists.mp
          (kept.held thread address (by rw [found]; rfl))
        simp [State.label, alive]
  next => exact ⟨kept, by simp⟩

theorem Kept.replaced (kept : threads.Kept) (closed : threads.opening = none)
    {thread : τ} {phase : Phase} {heap : Heap} (held : phase.held = none)
    (survives : ∀ {address}, (threads.shared.heap address).isSome = true →
      (threads.phase thread).copy ≠ some address →
      (heap address).isSome = true)
    (fresh : ∀ str, phase.copy = some str →
      threads.shared.heap str = none ∧ (heap str).isSome = true) :
    Kept { threads.moved thread phase with
      shared := { threads.shared with heap } } := by
  have idents : ∀ address, threads.shared.ident = some address →
      (heap address).isSome = true := by
    intro address isIdent
    exact survives (kept.ident address isIdent) fun isCopy =>
      (kept.copy thread address isCopy).2.1 isIdent
  have owned : State.Owned { threads.shared with heap } := by
    intro address tagged
    have isIdent := (kept.owned closed address tagged).1
    exact ⟨isIdent, idents address isIdent⟩
  have helds : ∀ {other address},
      ((threads.moved thread phase).phase other).held = some address →
        (threads.phase other).held = some address := by
    intro other address isHeld
    rw [phase_moved] at isHeld
    split_ifs at isHeld with same
    · cases held.symm.trans isHeld
    · exact isHeld
  refine ⟨⟨fun other address isHeld => ?_, fun _ _ => owned.live,
    fun _ => owned.live⟩, fun _ => owned, fun opening opened => ?_, idents,
    fun other str hasCopy => ?_⟩
  · exact survives (kept.held other address (helds isHeld)) fun isCopy =>
      ((kept.copy thread address isCopy).2.2 other).1 (helds isHeld)
  · cases closed.symm.trans opened
  · have notFresh : ∀ {address}, (threads.shared.heap address).isSome = true →
        phase.copy ≠ some address := by
      intro address alive isCopy
      exact malloc_apart (fresh address isCopy).1 alive rfl
    rw [phase_moved] at hasCopy
    split_ifs at hasCopy with same
    · refine ⟨(fresh str hasCopy).2, fun isIdent => ?_, fun third =>
        ⟨fun isHeld => ?_, fun distinct => ?_⟩⟩
      · exact notFresh (kept.ident str isIdent) hasCopy
      · exact notFresh (kept.held third str (helds isHeld)) hasCopy
      · rw [phase_moved, if_neg (same ▸ distinct)]
        exact fun itsCopy => notFresh (kept.copy third str itsCopy).1 hasCopy
    · obtain ⟨alive, notIdent, others⟩ := kept.copy other str hasCopy
      have apart := (others thread).2 (Ne.symm same)
      refine ⟨survives alive apart, notIdent, fun third =>
        ⟨fun isHeld => (others third).1 (helds isHeld), fun distinct => ?_⟩⟩
      rw [phase_moved]
      split_ifs with isThread
      · exact notFresh alive
      · exact (others third).2 distinct

theorem Kept.enter (kept : threads.Kept) (thread : τ) (allocator : Allocator)
    (message : List UInt8) : (threads.enter thread allocator message).Kept := by
  unfold Threads.enter
  split
  next heap str closed outside copied =>
    obtain ⟨address, chosen, same⟩ := Option.map_eq_some_iff.mp copied
    cases same
    have isFree := allocator.fresh chosen
    refine kept.replaced closed rfl
      (fun alive _ => malloc_alive (statStrdup message) alive)
      fun copy isCopy => ?_
    cases isCopy
    exact ⟨isFree, by rw [Function.update_self]; rfl⟩
  next => exact kept

theorem Kept.leave (kept : threads.Kept) (thread : τ) :
    (threads.leave thread).Kept := by
  unfold Threads.leave
  split
  next str closed found =>
    refine kept.replaced closed rfl (fun alive apart => free_alive alive ?_)
      fun _ isCopy => (by cases isCopy)
    rintro rfl
    exact apart (by rw [found]; rfl)
  next => exact kept

omit [DecidableEq τ] in
theorem Kept.closelog (kept : threads.Kept) : threads.closelog.Kept := by
  unfold Threads.closelog
  split
  next closed =>
    have untagged : State.Owned { threads.shared with tag := none } :=
      owned_of_untagged rfl
    refine ⟨⟨kept.held, fun _ _ => untagged.live, fun _ => untagged.live⟩,
      fun _ => untagged,
      fun opening opened => ?_, kept.ident, kept.copy⟩
    cases closed.symm.trans opened
  next => exact kept

omit [DecidableEq τ] in
theorem release_none {opening : Opening} (closed : threads.opening = none)
    (isIdent : threads.shared.ident = none) :
    threads.release opening = { threads with opening := some opening } := by
  simp [Threads.release, closed, State.releaseIdent, isIdent]

omit [DecidableEq τ] in
theorem release_some {opening : Opening} {address : Address}
    (closed : threads.opening = none)
    (isIdent : threads.shared.ident = some address) :
    threads.release opening = { threads with
      shared := { threads.shared with
        heap := free threads.shared.heap address, ident := none }
      opening := some opening } := by
  simp [Threads.release, closed, State.releaseIdent, isIdent]

omit [DecidableEq τ] in
theorem release_opened {opening earlier : Opening}
    (opened : threads.opening = some earlier) :
    threads.release opening = threads := by
  simp [Threads.release, opened]

omit [DecidableEq τ] in
theorem Sound.guarded_release {opening : Opening}
    (sound : (threads.release opening).Sound) :
    threads.Guarded (.release opening) := by
  intro closed address isIdent thread
  rw [release_some closed isIdent] at sound
  constructor
  · intro isHeld
    have alive := sound.held thread address isHeld
    simp only [free_self] at alive
    cases alive
  · intro tagged
    rw [Bool.eq_false_iff]
    intro isEntered
    have alive := sound.entered thread isEntered address tagged
    simp only [free_self] at alive
    cases alive

omit [DecidableEq τ] in
/-- Only what held the copy that is freed loses by it. -/
theorem Kept.release (kept : threads.Kept) {opening : Opening}
    (guarded : threads.Guarded (.release opening)) :
    (threads.release opening).Kept := by
  cases opened : threads.opening with
  | some earlier => rwa [release_opened opened]
  | none =>
      have owned := kept.owned opened
      cases isIdent : threads.shared.ident with
      | none =>
          rw [release_none opened isIdent]
          refine ⟨⟨kept.held, kept.entered, fun closed => (by cases closed)⟩,
            fun closed => (by cases closed),
            fun _ _ => ⟨isIdent, fun address tagged => ?_⟩, kept.ident,
            kept.copy⟩
          cases isIdent.symm.trans (owned address tagged).1
      | some address =>
          rw [release_some opened isIdent]
          refine ⟨⟨fun thread other isHeld => ?_,
            fun thread isEntered other tagged => ?_,
            fun closed => (by cases closed)⟩, fun closed => (by cases closed),
            fun _ _ => ⟨rfl, fun other tagged => ?_⟩,
            fun _ isIdent => (by cases isIdent),
            fun thread str hasCopy => ?_⟩
          · refine free_alive (kept.held thread other isHeld) ?_
            rintro rfl
            exact (guarded opened other isIdent thread).1 isHeld
          · have isTag := (owned other tagged).1
            cases isIdent.symm.trans isTag
            have passed := (guarded opened address isIdent thread).2 tagged
            cases passed.symm.trans isEntered
          · have isTag := (owned other tagged).1
            cases isIdent.symm.trans isTag
            exact free_self threads.shared.heap address
          · obtain ⟨alive, notIdent, others⟩ := kept.copy thread str hasCopy
            have distinct : str ≠ address :=
              fun same => notIdent (same ▸ isIdent)
            exact ⟨free_alive alive distinct, by simp, others⟩

omit [DecidableEq τ] in
/-- Without an identifier, or the memory for it, libc keeps its tag. -/
theorem Kept.openlog_same (kept : threads.Kept) {opening : Opening}
    (opened : threads.opening = some opening) {allocator : Allocator}
    (refused : ¬(opening.ident.isSome = true ∧
      (allocator.choose threads.shared.heap).isSome = true)) :
    threads.openlog allocator = { threads with opening := none } := by
  have noIdent := (kept.released opening opened).1
  have same : (⟨threads.shared.heap, none, threads.shared.tag⟩ : State) =
      threads.shared := by
    rw [← noIdent]
  unfold Threads.openlog
  simp only [opened]
  cases isIdent : opening.ident with
  | none => simp [State.copyIdent, State.libcOpenlog, noIdent, same]
  | some str =>
      have full : allocator.choose threads.shared.heap = none := by
        simpa [isIdent] using refused
      simp [State.copyIdent, Allocator.strdup, full]

omit [DecidableEq τ] in
theorem openlog_replaced {opening : Opening} {allocator : Allocator}
    {str : List UInt8} {address : Address}
    (opened : threads.opening = some opening)
    (isIdent : opening.ident = some str)
    (chosen : allocator.choose threads.shared.heap = some address) :
    threads.openlog allocator = { threads with
      shared := ⟨Function.update threads.shared.heap address
        (some (statStrdup str)), some address, some address⟩
      opening := none } := by
  simp [Threads.openlog, opened, isIdent, State.copyIdent, Allocator.strdup,
    chosen, State.libcOpenlog]

omit [DecidableEq τ] in
theorem Kept.guarded_openlog (kept : threads.Kept) {allocator : Allocator}
    (sound : (threads.openlog allocator).Sound) :
    threads.Guarded (.openlog allocator) := by
  intro opening opened tagged
  by_contra refused
  rw [kept.openlog_same opened refused] at sound
  obtain ⟨address, isTag⟩ := Option.isSome_iff_exists.mp tagged
  have alive := sound.closed rfl address isTag
  rw [(kept.released opening opened).2 address isTag] at alive
  cases alive

omit [DecidableEq τ] in
theorem Kept.openlog (kept : threads.Kept) {allocator : Allocator}
    (guarded : threads.Guarded (.openlog allocator)) :
    (threads.openlog allocator).Kept := by
  cases opened : threads.opening with
  | none =>
      have same : threads.openlog allocator = threads := by
        simp [Threads.openlog, opened]
      rwa [same]
  | some opening =>
      by_cases copied : opening.ident.isSome = true ∧
          (allocator.choose threads.shared.heap).isSome = true
      · obtain ⟨str, isIdent⟩ := Option.isSome_iff_exists.mp copied.1
        obtain ⟨address, chosen⟩ := Option.isSome_iff_exists.mp copied.2
        have isFree := allocator.fresh chosen
        rw [openlog_replaced opened isIdent chosen]
        have owned : State.Owned ⟨Function.update threads.shared.heap address
            (some (statStrdup str)), some address, some address⟩ := by
          rintro _ ⟨⟩
          exact ⟨rfl, by simp⟩
        refine ⟨⟨fun thread other isHeld => ?_, fun _ _ => owned.live,
          fun _ => owned.live⟩, fun _ => owned, fun _ opened => (by cases opened), ?_,
          fun thread copy hasCopy => ?_⟩
        · exact malloc_alive (statStrdup str) (kept.held thread other isHeld)
        · rintro _ ⟨⟩
          exact (owned address rfl).2
        · obtain ⟨alive, -, others⟩ := kept.copy thread copy hasCopy
          refine ⟨malloc_alive (statStrdup str) alive, ?_, others⟩
          rintro ⟨⟩
          exact malloc_apart isFree alive rfl
      · have untagged : threads.shared.tag = none := by
          rw [← Option.not_isSome_iff_eq_none]
          exact fun tagged => copied (guarded opening opened tagged)
        have owned : threads.shared.Owned := owned_of_untagged untagged
        rw [kept.openlog_same opened copied]
        exact ⟨⟨kept.held, kept.entered, fun _ => owned.live⟩, fun _ => owned,
          fun _ opened => (by cases opened), kept.ident, kept.copy⟩

theorem Kept.safe_iff (kept : threads.Kept) (action : Action τ) :
    (threads.Safe action ↔ threads.Guarded action) ∧
      (threads.Guarded action → (threads.step action).1.Kept) := by
  have always {next : Threads τ} {found : Option Label} (nextKept : next.Kept)
      (readable : found ≠ some .dangling) :
      (next.Sound ∧ found ≠ some .dangling ↔ True) ∧ (True → next.Kept) :=
    ⟨iff_of_true ⟨nextKept.toSound, readable⟩ trivial, fun _ => nextKept⟩
  cases action with
  | enter thread allocator message =>
      exact always (kept.enter thread allocator message) (by simp)
  | look thread => exact always (kept.look thread) (by simp)
  | write thread => exact always (kept.write thread).1 (kept.write thread).2
  | leave thread => exact always (kept.leave thread) (by simp)
  | closelog => exact always kept.closelog (by simp)
  | release opening =>
      exact ⟨⟨fun safe => safe.1.guarded_release,
        fun guarded => ⟨(kept.release guarded).toSound, by simp⟩⟩, kept.release⟩
  | openlog allocator =>
      exact ⟨⟨fun safe => kept.guarded_openlog safe.1,
        fun guarded => ⟨(kept.openlog guarded).toSound, by simp⟩⟩, kept.openlog⟩

def start (heap : Heap) : Threads τ :=
  ⟨Syslog.start heap, none, fun _ => .outside⟩

omit [DecidableEq τ] in
theorem start_kept (heap : Heap) : (start heap : Threads τ).Kept :=
  ⟨⟨fun _ _ held => (by cases held), fun _ isEntered => (by cases isEntered),
      fun _ => (owned_start heap).live⟩,
    fun _ => owned_start heap, fun _ opened => (by cases opened),
    fun _ isIdent => (by cases isIdent), fun _ _ isCopy => (by cases isCopy)⟩

/-- However the threads take turns, the tag that `syslog(3)` reads or has read is
never freed along exactly the runs in which no `openlog` frees a copy that a
thread in `syslog(3)` has still to read, or leaves it with libc. -/
theorem threads_safe_iff (heap : Heap) (actions : List (Action τ)) :
    Along step Safe (start heap : Threads τ) actions ↔
      Along step Guarded (start heap : Threads τ) actions :=
  along_congr Kept (fun _ action kept => (kept.safe_iff action).1)
    (fun _ action kept => (kept.safe_iff action).2) (start_kept heap) actions

end Threads

end Steps

end ExtUnix.Process.Syslog
