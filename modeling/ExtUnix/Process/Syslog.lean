import ExtUnix.Data.Machine
import ExtUnix.Runtime.Stub
import Mathlib.Logic.Function.Basic

namespace ExtUnix.Process.Syslog

open ExtUnix.Data
open ExtUnix.Runtime

/-! `Syslog` and `syslog.c`, over the heap of the C program and what libc
remembers between two calls. -/

inductive Options where
  | LOG_PID
  | LOG_CONS
  | LOG_NDELAY
  | LOG_ODELAY
  | LOG_NOWAIT
  deriving DecidableEq

inductive Facility where
  | LOG_KERN
  | LOG_USER
  | LOG_MAIL
  | LOG_NEWS
  | LOG_UUCP
  | LOG_DAEMON
  | LOG_AUTH
  | LOG_CRON
  | LOG_LPR
  | LOG_LOCAL0
  | LOG_LOCAL1
  | LOG_LOCAL2
  | LOG_LOCAL3
  | LOG_LOCAL4
  | LOG_LOCAL5
  | LOG_LOCAL6
  | LOG_LOCAL7
  deriving DecidableEq

inductive Level where
  | LOG_EMERG
  | LOG_ALERT
  | LOG_CRIT
  | LOG_ERR
  | LOG_WARNING
  | LOG_NOTICE
  | LOG_INFO
  | LOG_DEBUG
  deriving DecidableEq

structure Constants where
  option : Options → BitVec 32
  facility : Facility → BitVec 32
  level : Level → BitVec 32

def optionTable (constants : Constants) : List (BitVec 32) :=
  [.LOG_PID, .LOG_CONS, .LOG_NDELAY, .LOG_ODELAY, .LOG_NOWAIT].map
    constants.option

def facilityTable (constants : Constants) : List (BitVec 32) :=
  [.LOG_KERN, .LOG_USER, .LOG_MAIL, .LOG_NEWS, .LOG_UUCP, .LOG_DAEMON,
    .LOG_AUTH, .LOG_CRON, .LOG_LPR, .LOG_LOCAL0, .LOG_LOCAL1, .LOG_LOCAL2,
    .LOG_LOCAL3, .LOG_LOCAL4, .LOG_LOCAL5, .LOG_LOCAL6, .LOG_LOCAL7].map
      constants.facility

def levelTable (constants : Constants) : List (BitVec 32) :=
  [.LOG_EMERG, .LOG_ALERT, .LOG_CRIT, .LOG_ERR, .LOG_WARNING, .LOG_NOTICE,
    .LOG_INFO, .LOG_DEBUG].map constants.level

def Options.tag : Options → Nat
  | .LOG_PID => 0
  | .LOG_CONS => 1
  | .LOG_NDELAY => 2
  | .LOG_ODELAY => 3
  | .LOG_NOWAIT => 4

def Facility.tag : Facility → Nat
  | .LOG_KERN => 0
  | .LOG_USER => 1
  | .LOG_MAIL => 2
  | .LOG_NEWS => 3
  | .LOG_UUCP => 4
  | .LOG_DAEMON => 5
  | .LOG_AUTH => 6
  | .LOG_CRON => 7
  | .LOG_LPR => 8
  | .LOG_LOCAL0 => 9
  | .LOG_LOCAL1 => 10
  | .LOG_LOCAL2 => 11
  | .LOG_LOCAL3 => 12
  | .LOG_LOCAL4 => 13
  | .LOG_LOCAL5 => 14
  | .LOG_LOCAL6 => 15
  | .LOG_LOCAL7 => 16

def Level.tag : Level → Nat
  | .LOG_EMERG => 0
  | .LOG_ALERT => 1
  | .LOG_CRIT => 2
  | .LOG_ERR => 3
  | .LOG_WARNING => 4
  | .LOG_NOTICE => 5
  | .LOG_INFO => 6
  | .LOG_DEBUG => 7

theorem optionTable_tag (constants : Constants) (option : Options) :
    (optionTable constants)[option.tag]? = some (constants.option option) := by
  cases option <;> rfl

theorem facilityTable_tag (constants : Constants) (facility : Facility) :
    (facilityTable constants)[facility.tag]? =
      some (constants.facility facility) := by
  cases facility <;> rfl

theorem levelTable_tag (constants : Constants) (level : Level) :
    (levelTable constants)[level.tag]? = some (constants.level level) := by
  cases level <;> rfl

abbrev Address := Nat

abbrev Heap := Address → Option (List UInt8)

/-- What `malloc` returns in a heap: a free address, or `NULL`. -/
structure Allocator where
  choose : Heap → Option Address
  fresh : ∀ {heap address}, choose heap = some address → heap address = none

/-- `caml_stat_strdup`; `none` raises `Out_of_memory`. -/
def Allocator.strdup (allocator : Allocator) (heap : Heap) (str : List UInt8) :
    Option (Heap × Address) :=
  (allocator.choose heap).map fun address =>
    (Function.update heap address (some (statStrdup str)), address)

def free (heap : Heap) (address : Address) : Heap :=
  Function.update heap address none

/-- The heap, the static `ident` of `caml_extunix_openlog`, and the tag libc
keeps. -/
structure State where
  heap : Heap
  ident : Option Address
  tag : Option Address

/-- What libc's `syslog` finds when it dereferences its tag.  Without a tag it
uses the name of the program. -/
inductive Label where
  | program
  | text (bytes : List UInt8)
  | dangling
  deriving DecidableEq

def State.label (state : State) : Label :=
  match state.tag with
  | none => .program
  | some address =>
      match state.heap address with
      | some bytes => .text bytes
      | none => .dangling

inductive LibcCall where
  | openlog (ident : Option Address) (option facility : BitVec 32)
  | closelog
  | syslog (found : Label) (priority : BitVec 32) (message : List UInt8)
  deriving DecidableEq

inductive Ending where
  | returned
  | outOfMemory
  | assertionFailed
  deriving DecidableEq

abbrev Answer := List LibcCall × Ending

/-- `openlog(3)`: a null `ident` keeps the tag there is. -/
def State.libcOpenlog (state : State) (ident : Option Address) : State :=
  { state with tag := ident <|> state.tag }

section Stubs

variable (constants : Constants) (allocator : Allocator)

def State.releaseIdent (state : State) : State :=
  match state.ident with
  | none => state
  | some address => { state with heap := free state.heap address, ident := none }

def State.copyIdent (state : State) : Option (List UInt8) → Option State
  | none => some { state with ident := none }
  | some str =>
      (allocator.strdup state.heap str).map fun (heap, address) =>
        { state with heap, ident := some address }

def openlog (state : State) (vIdent : Option (List UInt8))
    (vOption : List Options) (vFacility : Facility) : State × Answer :=
  let released := state.releaseIdent
  match released.copyIdent allocator vIdent with
  | none => (released, [], .outOfMemory)
  | some copied =>
      match convertFlagList (optionTable constants) (vOption.map Options.tag),
          (facilityTable constants)[vFacility.tag]? with
      | some option, some facility =>
          (copied.libcOpenlog copied.ident,
            [.openlog copied.ident option facility], .returned)
      | _, _ => (copied, [], .assertionFailed)

def closelog (state : State) : State × Answer :=
  ({ state with tag := none }, [.closelog], .returned)

/-- The facility of a message; `none` is a failed assertion. -/
def messageFacility : Option Facility → Option (BitVec 32)
  | none => some 0
  | some vFacility => (facilityTable constants)[vFacility.tag]?

def syslog (state : State) (vFacility : Option Facility) (vLevel : Level)
    (vString : List UInt8) : State × Answer :=
  match messageFacility constants vFacility,
      (levelTable constants)[vLevel.tag]? with
  | some facility, some level =>
      match allocator.strdup state.heap vString with
      | none => (state, [], .outOfMemory)
      | some (heap, str) =>
          let logging := { state with heap }
          ({ state with heap := free heap str },
            [.syslog logging.label (level ||| facility) (statStrdup vString)],
            .returned)
  | _, _ => (state, [], .assertionFailed)

end Stubs

inductive Call where
  | openlog (ident : Option (List UInt8)) (options : List Options)
      (facility : Facility)
  | closelog
  | syslog (facility : Option Facility) (level : Level) (message : List UInt8)

structure Invocation where
  call : Call
  allocator : Allocator

def step (constants : Constants) (state : State) (invocation : Invocation) :
    State × Answer :=
  match invocation.call with
  | .openlog ident options facility =>
      openlog constants invocation.allocator state ident options facility
  | .closelog => closelog state
  | .syslog facility level message =>
      syslog constants invocation.allocator state facility level message

def start (heap : Heap) : State := ⟨heap, none, none⟩

def State.Live (state : State) : Prop :=
  ∀ address, state.tag = some address → (state.heap address).isSome = true

/-- After the call the tag is null or live, and the call did not read a freed
one. -/
def Safe (constants : Constants) (state : State) (invocation : Invocation) :
    Prop :=
  let (next, answer) := step constants state invocation
  next.Live ∧ ∀ priority message,
    LibcCall.syslog .dangling priority message ∉ answer.1

/-- An `openlog` made while libc has a tag is given an identifier, and there is
memory to copy it. -/
def Replaces (state : State) (invocation : Invocation) : Prop :=
  match invocation.call with
  | .openlog ident _ _ =>
      state.tag.isSome = true → ident.isSome = true ∧
        (invocation.allocator.choose state.releaseIdent.heap).isSome = true
  | _ => True

def State.Owned (state : State) : Prop :=
  ∀ address, state.tag = some address →
    state.ident = some address ∧ (state.heap address).isSome = true

theorem State.Owned.live {state : State} (owned : state.Owned) : state.Live :=
  fun address tagged => (owned address tagged).2

theorem owned_start (heap : Heap) : (start heap).Owned := by
  intro address tagged
  cases tagged

theorem State.releaseIdent_tag (state : State) :
    state.releaseIdent.tag = state.tag := by
  rw [releaseIdent]
  split <;> rfl

theorem State.Owned.released {state : State} (owned : state.Owned)
    {address : Address} (tagged : state.tag = some address) :
    state.releaseIdent.heap address = none := by
  rw [releaseIdent, (owned address tagged).1]
  exact Function.update_self address none state.heap

theorem openlog_eq (constants : Constants) (allocator : Allocator)
    (state : State) (vIdent : Option (List UInt8)) (vOption : List Options)
    (vFacility : Facility) :
    openlog constants allocator state vIdent vOption vFacility =
      match state.releaseIdent.copyIdent allocator vIdent with
      | none => (state.releaseIdent, [], .outOfMemory)
      | some copied =>
          (copied.libcOpenlog copied.ident,
            [.openlog copied.ident (union (vOption.map constants.option))
              (constants.facility vFacility)], .returned) := by
  rw [openlog, convertFlagList_map (optionTable_tag constants),
    facilityTable_tag]

theorem messageFacility_eq (constants : Constants)
    (vFacility : Option Facility) :
    messageFacility constants vFacility =
      some ((vFacility.map constants.facility).getD 0) := by
  cases vFacility with
  | none => rfl
  | some facility => exact facilityTable_tag constants facility

theorem syslog_eq (constants : Constants) (allocator : Allocator)
    (state : State) (vFacility : Option Facility) (vLevel : Level)
    (vString : List UInt8) :
    syslog constants allocator state vFacility vLevel vString =
      match allocator.strdup state.heap vString with
      | none => (state, [], .outOfMemory)
      | some (heap, str) =>
          ({ state with heap := free heap str },
            [.syslog { state with heap }.label
              (constants.level vLevel |||
                (vFacility.map constants.facility).getD 0)
              (statStrdup vString)], .returned) := by
  rw [syslog, messageFacility_eq, levelTable_tag]

theorem State.Owned.live_iff_untagged {state next : State} (owned : state.Owned)
    (sameTag : next.tag = state.tag)
    (released : next.heap = state.releaseIdent.heap) :
    next.Live ↔ state.tag = none := by
  rw [Live, sameTag, released]
  constructor
  · intro live
    by_contra tagged
    obtain ⟨address, tagged⟩ := Option.ne_none_iff_exists'.mp tagged
    have alive := live address tagged
    rw [owned.released tagged] at alive
    cases alive
  · intro untagged address tagged
    rw [untagged] at tagged
    cases tagged

theorem openlog_copied {allocator : Allocator} {state : State}
    {address : Address}
    (chosen : allocator.choose state.releaseIdent.heap = some address)
    (constants : Constants) (str : List UInt8) (vOption : List Options)
    (vFacility : Facility) :
    (openlog constants allocator state (some str) vOption
      vFacility).1.Owned := by
  rw [openlog_eq]
  simp only [State.copyIdent, Allocator.strdup, chosen, Option.map_some]
  intro tag tagged
  cases tagged
  exact ⟨rfl, by simp [State.libcOpenlog]⟩

theorem openlog_kept {allocator : Allocator} {state : State}
    {vIdent : Option (List UInt8)}
    (kept : ¬(vIdent.isSome = true ∧
      (allocator.choose state.releaseIdent.heap).isSome = true))
    (constants : Constants) (vOption : List Options) (vFacility : Facility) :
    let next := (openlog constants allocator state vIdent vOption vFacility).1
    next.tag = state.tag ∧ next.heap = state.releaseIdent.heap := by
  rw [openlog_eq]
  cases vIdent with
  | none =>
      exact ⟨state.releaseIdent_tag, rfl⟩
  | some str =>
      have refused : allocator.choose state.releaseIdent.heap = none := by
        simpa using kept
      simp only [State.copyIdent, Allocator.strdup, refused, Option.map_none]
      exact ⟨state.releaseIdent_tag, trivial⟩

theorem openlog_cases {state : State} (owned : state.Owned)
    (constants : Constants) (allocator : Allocator)
    (vIdent : Option (List UInt8)) (vOption : List Options)
    (vFacility : Facility) :
    let next := (openlog constants allocator state vIdent vOption vFacility).1
    let copied := vIdent.isSome = true ∧
      (allocator.choose state.releaseIdent.heap).isSome = true
    (copied ∧ next.Owned) ∨ (¬copied ∧ state.tag = none ∧ next.Owned) ∨
      (¬copied ∧ state.tag.isSome = true ∧ ¬next.Live) := by
  intro next copied
  by_cases isCopied : copied
  · obtain ⟨str, rfl⟩ := Option.isSome_iff_exists.mp isCopied.1
    obtain ⟨address, chosen⟩ := Option.isSome_iff_exists.mp isCopied.2
    exact .inl ⟨isCopied, openlog_copied chosen constants str vOption vFacility⟩
  · obtain ⟨sameTag, released⟩ :=
      openlog_kept isCopied constants vOption vFacility
    have live_iff := owned.live_iff_untagged sameTag released
    by_cases untagged : state.tag = none
    · refine .inr (.inl ⟨isCopied, untagged, ?_⟩)
      intro address tagged
      rw [sameTag, untagged] at tagged
      cases tagged
    · exact .inr (.inr ⟨isCopied, Option.isSome_iff_ne_none.mpr untagged,
        fun live => untagged (live_iff.mp live)⟩)

/-- A message is copied to a free address and freed again, which leaves the tag
of a live state alone and lets libc read it. -/
theorem syslog_live {state : State} (live : state.Live) (constants : Constants)
    (allocator : Allocator) (vFacility : Option Facility) (vLevel : Level)
    (vString : List UInt8) :
    let ended := syslog constants allocator state vFacility vLevel vString
    ended.1 = state ∧ ∀ priority message,
      LibcCall.syslog .dangling priority message ∉ ended.2.1 := by
  rw [syslog_eq]
  cases chosen : allocator.choose state.heap with
  | none => simp [Allocator.strdup, chosen]
  | some address =>
      have wasFree := allocator.fresh chosen
      let copied := Function.update state.heap address
        (some (statStrdup vString))
      have restored : free copied address = state.heap := by
        rw [free, Function.update_idem, ← wasFree, Function.update_eq_self]
      have readable : { state with heap := copied }.label ≠ .dangling := by
        cases tagged : state.tag with
        | none => simp [State.label]
        | some tag =>
            obtain ⟨bytes, found⟩ :=
              Option.isSome_iff_exists.mp (live tag tagged)
            have other : tag ≠ address := by
              rintro rfl
              rw [wasFree] at found
              cases found
            simp [State.label, copied, Function.update_of_ne other, found]
      simp only [Allocator.strdup, chosen, Option.map_some]
      refine ⟨by rw [restored], fun priority message listed => readable ?_⟩
      have same := List.mem_singleton.mp listed
      injection same with found
      exact found.symm

theorem openlog_quiet (constants : Constants) (allocator : Allocator)
    (state : State) (vIdent : Option (List UInt8)) (vOption : List Options)
    (vFacility : Facility) (priority : BitVec 32) (message : List UInt8) :
    LibcCall.syslog .dangling priority message ∉
      (openlog constants allocator state vIdent vOption vFacility).2.1 := by
  rw [openlog_eq]
  split <;> simp

theorem safe_iff_replaces {state : State} (owned : state.Owned)
    (constants : Constants) (invocation : Invocation) :
    (Safe constants state invocation ↔ Replaces state invocation) ∧
      (Replaces state invocation →
        (step constants state invocation).1.Owned) := by
  obtain ⟨call, allocator⟩ := invocation
  cases call with
  | openlog ident options facility =>
      have safe_iff : Safe constants state
          ⟨.openlog ident options facility, allocator⟩ ↔
            (openlog constants allocator state ident options facility).1.Live :=
        and_iff_left
          (openlog_quiet constants allocator state ident options facility)
      rw [safe_iff]
      simp only [Replaces, step]
      obtain ⟨copied, next⟩ | ⟨-, untagged, next⟩ | ⟨kept, tagged, dead⟩ :=
        openlog_cases owned constants allocator ident options facility
      · exact ⟨⟨fun _ _ => copied, fun _ => next.live⟩, fun _ => next⟩
      · refine ⟨⟨fun _ tagged => ?_, fun _ => next.live⟩, fun _ => next⟩
        rw [untagged] at tagged
        cases tagged
      · have unguarded : ¬(state.tag.isSome = true → ident.isSome = true ∧
            (allocator.choose state.releaseIdent.heap).isSome = true) :=
          fun replaces => kept (replaces tagged)
        exact ⟨⟨fun live => absurd live dead,
          fun replaces => absurd replaces unguarded⟩,
          fun replaces => absurd replaces unguarded⟩
  | closelog =>
      have next : (closelog state).1.Owned := by
        intro address tagged
        cases tagged
      refine ⟨⟨fun _ => trivial, fun _ => ⟨next.live, ?_⟩⟩, fun _ => next⟩
      simp
  | syslog facility level message =>
      obtain ⟨same, quiet⟩ :=
        syslog_live owned.live constants allocator facility level message
      have next : (syslog constants allocator state facility level
          message).1.Owned := by
        rw [same]
        exact owned
      exact ⟨⟨fun _ => trivial, fun _ => ⟨next.live, quiet⟩⟩, fun _ => next⟩

/-- The tag stays null or live, and no message reads a freed one, along exactly
the runs in which every `openlog` that finds a tag replaces it. -/
theorem tag_live_iff (constants : Constants) (heap : Heap)
    (invocations : List Invocation) :
    Along (step constants) (Safe constants) (start heap) invocations ↔
      Along (step constants) Replaces (start heap) invocations :=
  along_congr State.Owned
    (fun _ invocation owned => (safe_iff_replaces owned constants invocation).1)
    (fun _ invocation owned => (safe_iff_replaces owned constants invocation).2)
    (owned_start heap) invocations

def Allocator.at (address : Address) : Allocator where
  choose heap := if heap address = none then some address else none
  fresh := by
    intro heap chosen isChosen
    split_ifs at isChosen with isFree
    cases isChosen
    exact isFree

/-- A second `openlog`, without an identifier, frees the copy libc still has, and
the next message reads it. -/
theorem openlog_twice_dangles :
    let constants : Constants := ⟨fun _ => 1, fun _ => 8, fun _ => 6⟩
    let invocations : List Invocation := [
      ⟨.openlog (some [97]) [.LOG_PID] .LOG_USER, .at 0⟩,
      ⟨.openlog none [] .LOG_USER, .at 0⟩,
      ⟨.syslog none .LOG_INFO [120], .at 1⟩]
    (run (step constants) (start fun _ => none) invocations).2 = [
      ([.openlog (some 0) 1 8], .returned),
      ([.openlog none 0 8], .returned),
      ([.syslog .dangling 6 [120]], .returned)] ∧
    ¬Along (step constants) (Safe constants) (start fun _ => none)
      invocations := by
  refine ⟨by decide, ?_⟩
  rintro ⟨-, ⟨live, -⟩, -⟩
  exact absurd (live 0 (by decide)) (by decide)

end ExtUnix.Process.Syslog
