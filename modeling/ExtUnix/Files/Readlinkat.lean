import ExtUnix.Data.Ledger
import ExtUnix.Runtime.Stub

namespace ExtUnix.Files

open ExtUnix.Data
open ExtUnix.Runtime

/-! `readlinkat` of `atfile.c`, which doubles a buffer until the target of the
link is shorter.  The link may be another one at every turn of the loop. -/

/-- What a turn of the loop finds: memory for the buffer, and the target. -/
structure Attempt where
  resized : Except Errno Unit
  target : Except Errno (List UInt8)

inductive LinkEvent where
  | strdup (name : List UInt8)
  | resize (size : Nat) (succeeded : Bool)
  | readlinkat (dirfd : BitVec 32) (name : List UInt8) (size : Nat)
  | freeBuffer
  | freeName
  deriving DecidableEq

/-- How `readlinkat_malloc` ends.  An `int` that overflows is undefined. -/
inductive LinkResult where
  | buffer (bytes : List UInt8)
  | null (errno : Errno)
  | overflowed
  deriving DecidableEq

def linkSize (turn : Nat) : Nat := 100 * 2 ^ turn

theorem turn_lt_of_linkSize {turn : Nat} (bound : linkSize turn < 2 ^ 31) :
    turn < 31 := by
  by_contra large
  have grows : 2 ^ 31 ≤ 2 ^ turn := Nat.pow_le_pow_right (by decide) (by omega)
  rw [linkSize] at bound
  omega

def readlinkatMalloc (dirfd : BitVec 32) (filename : List UInt8)
    (attempts : Nat → Attempt) (turn : Nat) : List LinkEvent × LinkResult :=
  let size := linkSize turn
  match (attempts turn).resized with
  | .error errno => ([.resize size false, .freeBuffer], .null errno)
  | .ok () =>
      match (attempts turn).target with
      | .error errno =>
          ([.resize size true, .readlinkat dirfd filename size, .freeBuffer],
            .null errno)
      | .ok target =>
          let stored := target.take size
          if stored.length < size then
            ([.resize size true, .readlinkat dirfd filename size],
              .buffer stored)
          else if _doubles : linkSize (turn + 1) < 2 ^ 31 then
            let (events, result) :=
              readlinkatMalloc dirfd filename attempts (turn + 1)
            (.resize size true :: .readlinkat dirfd filename size :: events,
              result)
          else
            ([.resize size true, .readlinkat dirfd filename size], .overflowed)
termination_by 31 - turn
decreasing_by
  have := turn_lt_of_linkSize _doubles
  omega

def readlinkat (attempts : Nat → Attempt) (vDirfd : CamlInt)
    (vName : List UInt8) : List LinkEvent × Outcome (List UInt8) :=
  let name := statStrdup vName
  let (events, result) := readlinkatMalloc (intVal vDirfd) name attempts 0
  match result with
  | .overflowed => (.strdup name :: events, .crashed)
  | .null errno =>
      (.strdup name :: events ++ [.freeName],
        .unixError errno "readlinkat" vName)
  | .buffer res =>
      (.strdup name :: events ++ [.freeName, .freeBuffer],
        .returned (stringVal res))

def linkNames (events : List LinkEvent) : List (List UInt8) :=
  events.filterMap fun
    | .readlinkat _ name _ => some name
    | _ => none

theorem linkNames_readlinkatMalloc (dirfd : BitVec 32) (filename : List UInt8)
    (attempts : Nat → Attempt) (turn : Nat) :
    ∀ name ∈ linkNames (readlinkatMalloc dirfd filename attempts turn).1,
      name = filename := by
  fun_induction readlinkatMalloc dirfd filename attempts turn with
  | case4 turn size resized target found stored full doubles events result next
      induction =>
      rw [next] at induction
      simpa [linkNames] using induction
  | _ => simp [linkNames]

theorem readlinkatMalloc_resized {attempts : Nat → Attempt} {turn : Nat}
    (resized : (attempts turn).resized = .ok ()) (dirfd : BitVec 32)
    (filename : List UInt8) :
    linkNames (readlinkatMalloc dirfd filename attempts turn).1 ≠ [] := by
  rw [readlinkatMalloc, resized]
  dsimp only
  split
  · simp [linkNames]
  · split_ifs <;> simp [linkNames]

theorem filterMap_readlinkat {select : LinkEvent → Option α}
    (strdup : ∀ name, select (.strdup name) = none)
    (freeName : select .freeName = none)
    (freeBuffer : select .freeBuffer = none) (attempts : Nat → Attempt)
    (vDirfd : CamlInt) (vName : List UInt8) :
    (readlinkat attempts vDirfd vName).1.filterMap select =
      (readlinkatMalloc (intVal vDirfd) (statStrdup vName) attempts
        0).1.filterMap select := by
  rw [readlinkat]
  dsimp only
  split <;> simp [strdup, freeName, freeBuffer]

theorem linkNames_readlinkat (attempts : Nat → Attempt) (vDirfd : CamlInt)
    (vName : List UInt8) :
    linkNames (readlinkat attempts vDirfd vName).1 =
      linkNames (readlinkatMalloc (intVal vDirfd) (statStrdup vName) attempts
        0).1 :=
  filterMap_readlinkat (fun _ => rfl) rfl rfl attempts vDirfd vName

theorem readlinkat_refused {attempts : Nat → Attempt} {errno : Errno}
    (refused : (attempts 0).resized = .error errno) (vDirfd : CamlInt)
    (vName : List UInt8) :
    linkNames (readlinkat attempts vDirfd vName).1 = [] ∧
      (readlinkat attempts vDirfd vName).2 =
        .unixError errno "readlinkat" vName := by
  rw [readlinkat, readlinkatMalloc, refused]
  exact ⟨rfl, rfl⟩

def Attempt.Fills (attempt : Attempt) (size : Nat) : Prop :=
  attempt.resized = .ok () ∧
    ∃ target, attempt.target = .ok target ∧ size ≤ target.length

inductive Attempt.Ends (attempt : Attempt) (size : Nat) : LinkResult → Prop
  | refused {errno : Errno} (resized : attempt.resized = .error errno) :
      Ends attempt size (.null errno)
  | failed {errno : Errno} (resized : attempt.resized = .ok ())
      (target : attempt.target = .error errno) :
      Ends attempt size (.null errno)
  | complete {bytes : List UInt8} (resized : attempt.resized = .ok ())
      (target : attempt.target = .ok bytes) (shorter : bytes.length < size) :
      Ends attempt size (.buffer bytes)

def resizes (events : List LinkEvent) : List Nat :=
  events.filterMap fun
    | .resize size _ => some size
    | _ => none

theorem linkSize_lt {turn : Nat} (bound : turn ≤ 24) :
    linkSize turn < 2 ^ 31 := by
  have grows : 2 ^ turn ≤ 2 ^ 24 := Nat.pow_le_pow_right (by decide) bound
  rw [linkSize]
  omega

theorem readlinkatMalloc_ends {attempts : Nat → Attempt}
    (short : ∀ turn target, (attempts turn).target = .ok target →
      target.length < 100 * 2 ^ 24)
    (dirfd : BitVec 32) (filename : List UInt8) {turn : Nat}
    (bound : turn ≤ 24) :
    let answer := readlinkatMalloc dirfd filename attempts turn
    ∃ count, turn + count ≤ 24 ∧
      (∀ index < count,
        (attempts (turn + index)).Fills (linkSize (turn + index))) ∧
      (attempts (turn + count)).Ends (linkSize (turn + count)) answer.2 ∧
      resizes answer.1 = (List.range' turn (count + 1)).map linkSize := by
  fun_induction readlinkatMalloc dirfd filename attempts turn with
  | case1 turn size errno resized =>
      exact ⟨0, bound, by simp, .refused resized, rfl⟩
  | case2 turn size resized errno target =>
      exact ⟨0, bound, by simp, .failed resized target, rfl⟩
  | case3 turn size resized target found stored shorter =>
      have length : stored.length = min size target.length := List.length_take
      have whole : target.length < size := by omega
      have all : stored = target := List.take_of_length_le (by omega)
      rw [all]
      exact ⟨0, bound, by simp, .complete resized found whole, rfl⟩
  | case4 turn size resized target found stored full doubles events result next
      induction =>
      have length : stored.length = min size target.length := List.length_take
      have filled : size ≤ target.length := by omega
      have later : turn + 1 ≤ 24 := by
        have := short turn target found
        by_contra last
        have reached : turn = 24 := by omega
        subst reached
        simp only [size, linkSize] at filled
        omega
      rw [next] at induction
      obtain ⟨count, within, before, ends, sizes⟩ := induction later
      refine ⟨count + 1, by omega, ?_, ?_, ?_⟩
      · intro index bounded
        cases index with
        | zero => exact ⟨resized, target, found, filled⟩
        | succ index =>
            have fills := before index (by omega)
            rwa [Nat.add_right_comm] at fills
      · rwa [Nat.add_right_comm] at ends
      · rw [List.range'_succ, List.map_cons, ← sizes]
        rfl
  | case5 turn size resized target found stored full overflows =>
      have length : stored.length = min size target.length := List.length_take
      have filled : size ≤ target.length := by omega
      have := short turn target found
      have reached : turn = 24 := by
        by_contra before
        exact overflows (linkSize_lt (by omega))
      subst reached
      simp only [size, linkSize] at filled
      omega

/-! Who holds the copy of the name and the buffers, which are numbered in the
order of their allocation. -/

inductive LinkBlock where
  | name
  | buffer (index : Nat)
  deriving DecidableEq

/-- The blocks that the events acquire, access and release, given the buffer
that `buffer` points to and the number of the next one. -/
def linkEntries : Option Nat → Nat → List LinkEvent → List (Entry LinkBlock)
  | _, _, [] => []
  | held, next, .strdup _ :: rest =>
      .acquire .name :: linkEntries held next rest
  -- "if failed, dealloc is not performed"
  | held, next, .resize _ false :: rest => linkEntries held next rest
  | none, next, .resize _ true :: rest =>
      .acquire (.buffer next) :: linkEntries (some next) (next + 1) rest
  | some index, next, .resize _ true :: rest =>
      .acquire (.buffer next) :: .access (.buffer index) ::
        .release (.buffer index) :: linkEntries (some next) (next + 1) rest
  | held, next, .readlinkat _ _ _ :: rest =>
      .access .name :: .access (.buffer (held.getD next)) ::
        linkEntries held next rest
  -- `caml_stat_free(NULL)` does nothing
  | none, next, .freeBuffer :: rest => linkEntries none next rest
  | some index, next, .freeBuffer :: rest =>
      .release (.buffer index) :: linkEntries (some index) next rest
  | held, next, .freeName :: rest =>
      .release .name :: linkEntries held next rest

/-- The name and at most one buffer are held, and later buffers are new. -/
structure Owns (ledger : Ledger LinkBlock) (held : Option Nat) (next : Nat) :
    Prop where
  live : ledger.live = (held.map LinkBlock.buffer).toList ++ [.name]
  held_lt : ∀ index, held = some index → index < next
  unspent : ∀ index, next ≤ index → .buffer index ∉ ledger.spent

theorem Owns.round {ledger : Ledger LinkBlock} {held : Option Nat} {next : Nat}
    (owns : Owns ledger held next) (dirfd : BitVec 32) (name : List UInt8)
    (size : Nat) :
    ∃ after : Ledger LinkBlock, Owns after (some next) (next + 1) ∧
      ∀ rest, ledger.audit (linkEntries held next
          (.resize size true :: .readlinkat dirfd name size :: rest)) =
        after.audit (linkEntries (some next) (next + 1) rest) := by
  have unspent := owns.unspent next (Nat.le_refl _)
  cases held with
  | none =>
      have live : ledger.live = [.name] := owns.live
      refine ⟨⟨[.buffer next, .name], ledger.spent⟩,
        ⟨rfl, by simp, fun index later => owns.unspent index (by omega)⟩, ?_⟩
      intro rest
      simp only [linkEntries]
      rw [Ledger.audit_acquire (by simp [live]) unspent, live,
        Ledger.audit_access (by simp), Ledger.audit_access (by simp)]
  | some index =>
      have live : ledger.live = [.buffer index, .name] := owns.live
      have earlier := owns.held_lt index rfl
      refine ⟨⟨[.buffer next, .name], .buffer index :: ledger.spent⟩,
        ⟨rfl, by simp, ?_⟩, ?_⟩
      · intro other later
        have other_unspent := owns.unspent other (by omega)
        simp only [List.mem_cons, LinkBlock.buffer.injEq, not_or]
        exact ⟨by omega, other_unspent⟩
      · intro rest
        have new : next ≠ index := by omega
        simp only [linkEntries]
        rw [Ledger.audit_acquire (by simp [live, new]) unspent, live,
          Ledger.audit_access (by simp), Ledger.audit_release (by simp)]
        have erased : [LinkBlock.buffer next, .buffer index, .name].erase
            (.buffer index) = [.buffer next, .name] := by
          simp [new]
        dsimp only
        rw [erased, Ledger.audit_access (by simp), Ledger.audit_access (by simp)]

theorem Owns.freeBuffer {ledger : Ledger LinkBlock} {held : Option Nat}
    {next : Nat} (owns : Owns ledger held next) :
    ∃ spent, ∀ rest,
      ledger.audit (linkEntries held next (.freeBuffer :: rest)) =
        Ledger.audit ⟨[.name], spent⟩ (linkEntries held next rest) := by
  cases held with
  | none =>
      have live : ledger.live = [.name] := owns.live
      refine ⟨ledger.spent, fun rest => ?_⟩
      simp only [linkEntries]
      rw [← live]
  | some index =>
      have live : ledger.live = [.buffer index, .name] := owns.live
      refine ⟨.buffer index :: ledger.spent, fun rest => ?_⟩
      simp only [linkEntries]
      rw [Ledger.audit_release (by simp [live]), live]
      simp

def LinkResult.Leaves (ledger : Ledger LinkBlock) (held : Option Nat)
    (next : Nat) (events : List LinkEvent) : LinkResult → Prop
  | .null _ => ∃ spent last count, ∀ rest,
      ledger.audit (linkEntries held next (events ++ rest)) =
        Ledger.audit ⟨[.name], spent⟩ (linkEntries last count rest)
  | .buffer _ => ∃ after index count, Owns after (some index) count ∧
      ∀ rest, ledger.audit (linkEntries held next (events ++ rest)) =
        after.audit (linkEntries (some index) count rest)
  | .overflowed => True

theorem readlinkatMalloc_leaves (dirfd : BitVec 32) (filename : List UInt8)
    (attempts : Nat → Attempt) (turn : Nat) :
    let answer := readlinkatMalloc dirfd filename attempts turn
    ∀ (ledger : Ledger LinkBlock) (held : Option Nat), Owns ledger held turn →
      answer.2.Leaves ledger held turn answer.1 := by
  fun_induction readlinkatMalloc dirfd filename attempts turn with
  | case1 turn size errno resized =>
      intro answer ledger held owns
      obtain ⟨spent, freed⟩ := owns.freeBuffer
      refine ⟨spent, held, turn, fun rest => ?_⟩
      rw [← freed]
      rfl
  | case2 turn size resized errno target =>
      intro answer ledger held owns
      obtain ⟨after, owned, passed⟩ := owns.round dirfd filename size
      obtain ⟨spent, freed⟩ := owned.freeBuffer
      refine ⟨spent, some turn, turn + 1, fun rest => ?_⟩
      rw [← freed, ← passed]
      rfl
  | case3 turn size resized target found stored shorter =>
      intro answer ledger held owns
      obtain ⟨after, owned, passed⟩ := owns.round dirfd filename size
      exact ⟨after, turn, turn + 1, owned, passed⟩
  | case4 turn size resized target found stored full doubles events result next
      induction =>
      intro answer ledger held owns
      obtain ⟨after, owned, passed⟩ := owns.round dirfd filename size
      have leaves := induction after (some turn) owned
      rw [next] at leaves
      cases result with
      | null errno =>
          obtain ⟨spent, last, count, audited⟩ := leaves
          refine ⟨spent, last, count, fun rest => ?_⟩
          rw [← audited]
          exact passed (events ++ rest)
      | buffer bytes =>
          obtain ⟨final, index, count, owning, audited⟩ := leaves
          refine ⟨final, index, count, owning, fun rest => ?_⟩
          rw [← audited]
          exact passed (events ++ rest)
      | overflowed => trivial
  | case5 => intros; trivial

theorem readlinkat_settles {attempts : Nat → Attempt} {vDirfd : CamlInt}
    {vName : List UInt8}
    (fits : (readlinkat attempts vDirfd vName).2 ≠ .crashed) :
    Ledger.Settles (linkEntries none 0
      (readlinkat attempts vDirfd vName).1) := by
  have owns : Owns ⟨[.name], []⟩ none 0 := ⟨rfl, by simp, by simp⟩
  have leaves := readlinkatMalloc_leaves (intVal vDirfd) (statStrdup vName)
    attempts 0 _ _ owns
  have copied (rest : List LinkEvent) :
      Ledger.audit ⟨[], []⟩ (linkEntries none 0 (.strdup (statStrdup vName) ::
        rest)) = Ledger.audit ⟨[.name], []⟩ (linkEntries none 0 rest) := by
    simp only [linkEntries]
    exact Ledger.audit_acquire (by simp) (by simp) _
  rw [readlinkat] at fits ⊢
  generalize readlinkatMalloc (intVal vDirfd) (statStrdup vName) attempts 0 =
    answer at leaves fits ⊢
  obtain ⟨events, result⟩ := answer
  cases result with
  | null errno =>
      obtain ⟨spent, last, count, audited⟩ := leaves
      refine ⟨.name :: spent, ?_⟩
      refine (copied (events ++ [.freeName])).trans ?_
      rw [audited]
      rfl
  | buffer bytes =>
      obtain ⟨after, index, count, owned, audited⟩ := leaves
      have live : after.live = [.buffer index, .name] := owned.live
      refine ⟨.buffer index :: .name :: after.spent, ?_⟩
      refine (copied (events ++ [.freeName, .freeBuffer])).trans ?_
      rw [audited]
      simp only [linkEntries]
      have erased : [LinkBlock.buffer index, .name].erase .name =
          [.buffer index] := by
        simp
      rw [Ledger.audit_release (by simp [live]), live, erased,
        Ledger.audit_release (by simp), List.erase_cons_head]
      rfl
  | overflowed => exact absurd rfl fits

theorem resizes_readlinkat (attempts : Nat → Attempt) (vDirfd : CamlInt)
    (vName : List UInt8) :
    resizes (readlinkat attempts vDirfd vName).1 =
      resizes (readlinkatMalloc (intVal vDirfd) (statStrdup vName) attempts
        0).1 :=
  filterMap_readlinkat (fun _ => rfl) rfl rfl attempts vDirfd vName

theorem outcome_of_ends (attempts : Nat → Attempt) (vDirfd : CamlInt)
    (vName : List UInt8) {last : Nat}
    (ends : (attempts last).Ends (linkSize last)
      (readlinkatMalloc (intVal vDirfd) (statStrdup vName) attempts 0).2)
    (clean : ∀ target, (attempts last).target = .ok target → 0 ∉ target) :
    (∃ errno, (attempts last).resized = .error errno ∧
        (readlinkat attempts vDirfd vName).2 =
          .unixError errno "readlinkat" vName) ∨
      (∃ errno, (attempts last).resized = .ok () ∧
        (attempts last).target = .error errno ∧
        (readlinkat attempts vDirfd vName).2 =
          .unixError errno "readlinkat" vName) ∨
      ∃ target, (attempts last).resized = .ok () ∧
        (attempts last).target = .ok target ∧
        target.length + 1 ≤ linkSize last ∧
        (readlinkat attempts vDirfd vName).2 = .returned target := by
  rw [readlinkat]
  generalize readlinkatMalloc (intVal vDirfd) (statStrdup vName) attempts 0 =
    answer at ends ⊢
  obtain ⟨events, result⟩ := answer
  cases ends with
  | @refused errno resized => exact .inl ⟨errno, resized, rfl⟩
  | @failed errno resized target => exact .inr (.inl ⟨errno, resized, target, rfl⟩)
  | @complete bytes resized target shorter =>
      have whole := (statStrdup_eq_self_iff bytes).mpr (clean bytes target)
      exact .inr (.inr ⟨bytes, resized, target, shorter,
        congrArg Outcome.returned whole⟩)

/-- The loop ends at the first turn that fails or whose target is shorter than
the buffer, at the 25th at the latest.  What is returned is that target, which
leaves room for the null byte in the last buffer, and no block is lost. -/
theorem readlinkat_complete (attempts : Nat → Attempt) (vDirfd : CamlInt)
    (vName : List UInt8)
    (short : ∀ turn target, (attempts turn).target = .ok target →
      target.length < 100 * 2 ^ 24 ∧ 0 ∉ target) :
    let answer := readlinkat attempts vDirfd vName
    let entries := linkEntries none 0 answer.1
    ∃ last ≤ 24,
      (∀ turn < last, (attempts turn).Fills (linkSize turn)) ∧
      ((∃ errno, (attempts last).resized = .error errno ∧
          answer.2 = .unixError errno "readlinkat" vName) ∨
        (∃ errno, (attempts last).resized = .ok () ∧
          (attempts last).target = .error errno ∧
          answer.2 = .unixError errno "readlinkat" vName) ∨
        ∃ target, (attempts last).resized = .ok () ∧
          (attempts last).target = .ok target ∧
          target.length + 1 ≤ linkSize last ∧ answer.2 = .returned target) ∧
      resizes answer.1 = (List.range (last + 1)).map linkSize ∧
      (∀ size ∈ resizes answer.1, size < 2 ^ 31) ∧
      Ledger.Settles entries ∧
      ∀ block, .acquire block ∈ entries →
        entries.count (.acquire block) = 1 ∧
          entries.count (.release block) = 1 := by
  intro answer entries
  obtain ⟨last, bound, before, ends, sizes⟩ := readlinkatMalloc_ends
    (fun turn target found => (short turn target found).1) (intVal vDirfd)
    (statStrdup vName) (Nat.zero_le 24)
  simp only [Nat.zero_add] at bound before ends
  have outcome := outcome_of_ends attempts vDirfd vName ends
    fun target found => (short last target found).2
  have resized : resizes answer.1 = (List.range (last + 1)).map linkSize := by
    rw [resizes_readlinkat, sizes, List.range_eq_range']
  have settles : Ledger.Settles entries := by
    apply readlinkat_settles
    obtain ⟨_, _, raised⟩ | ⟨_, _, _, raised⟩ | ⟨_, _, _, _, returned⟩ := outcome
    · rw [raised]
      exact nofun
    · rw [raised]
      exact nofun
    · rw [returned]
      exact nofun
  refine ⟨last, bound, before, outcome, resized, ?_, settles, ?_⟩
  · rw [resized]
    intro size member
    obtain ⟨turn, within, rfl⟩ := List.mem_map.mp member
    have := List.mem_range.mp within
    exact linkSize_lt (by omega)
  · intro block acquired
    exact settles.released_once acquired

/-- A link of 150 bytes that is replaced by one of two after the first turn. -/
def replacedLink (turn : Nat) : Attempt :=
  ⟨.ok (), .ok (if turn = 0 then List.replicate 150 97 else [98, 99])⟩

theorem readlinkat_complete_replaced :
    (readlinkat replacedLink 3 [108]).2 = .returned [98, 99] ∧
      resizes (readlinkat replacedLink 3 [108]).1 = [100, 200] := by
  have short (turn : Nat) (target : List UInt8)
      (found : (replacedLink turn).target = .ok target) :
      target.length < 100 * 2 ^ 24 ∧ 0 ∉ target := by
    have same : (if turn = 0 then List.replicate 150 97 else [98, 99]) =
        target := Except.ok.inj found
    subst same
    split_ifs <;> simp
  obtain ⟨last, -, before, outcome, sizes, -⟩ :=
    readlinkat_complete replacedLink 3 [108] short
  have early : last < 2 := by
    by_contra late
    obtain ⟨-, target, found, filled⟩ := before 1 (by omega)
    cases Except.ok.inj found
    exact absurd filled (by decide)
  obtain ⟨_, failed, -⟩ | ⟨_, -, failed, -⟩ |
    ⟨target, -, found, room, returned⟩ := outcome
  · exact nomatch failed
  · exact nomatch failed
  · have second : last = 1 := by
      by_contra first
      have zero : last = 0 := by omega
      subst zero
      cases Except.ok.inj found
      simp [linkSize] at room
    subst second
    cases Except.ok.inj found
    exact ⟨returned, sizes⟩

end ExtUnix.Files
