import ExtUnix.Data.Machine
import ExtUnix.Process.Syslog

namespace ExtUnix.Process.Syslog

open ExtUnix.Data
open ExtUnix.Runtime

/-! `setlogmask` of `syslog.c` and `log_upto`, over the mask libc keeps. -/

structure Priorities where
  value : Level → Nat
  value_lt : ∀ level, value level < 32
  value_inj : Function.Injective value

def logMask (pri : Nat) : BitVec 32 := 1#32 <<< pri

def ascending : List Level := [
  .LOG_EMERG, .LOG_ALERT, .LOG_CRIT, .LOG_ERR, .LOG_WARNING, .LOG_NOTICE,
  .LOG_INFO, .LOG_DEBUG]

def maskTable (priorities : Priorities) : List (BitVec 32) :=
  ascending.map fun level => logMask (priorities.value level)

/-- `setlogmask(3)`: the mask from now on, and the one before. -/
def libcSetlogmask (current mask : BitVec 32) : BitVec 32 × BitVec 32 :=
  (if mask = 0 then current else mask, current)

/-- The list of the positions in the table whose mask is set, the last one
first. -/
def decodeMask (table : List (BitVec 32)) (nmask : BitVec 32) : List Nat :=
  (List.range table.length).foldl (fun cli i =>
    if table[i]?.any (fun mask => mask &&& nmask == mask) then i :: cli
    else cli) []

/-- `caml_extunix_setlogmask`; `none` is a read outside the table. -/
def setlogmask (priorities : Priorities) (current : BitVec 32)
    (vLevel : List Level) : BitVec 32 × Option (List Nat) :=
  match convertFlagList (maskTable priorities) (vLevel.map Level.tag) with
  | none => (current, none)
  | some mask =>
      let (next, nmask) := libcSetlogmask current mask
      (next, some (decodeMask (maskTable priorities) nmask))

/-- The local function of `log_upto`; `none` is a failed assertion. -/
def logUptoFrom (lvl : Level) : List Level → Option (List Level)
  | [] => none
  | x :: xs => if x = lvl then some (x :: xs) else logUptoFrom lvl xs

def logUpto (lvl : Level) : Option (List Level) :=
  logUptoFrom lvl [
    .LOG_DEBUG, .LOG_INFO, .LOG_NOTICE, .LOG_WARNING, .LOG_ERR, .LOG_CRIT,
    .LOG_ALERT, .LOG_EMERG]

section Call

variable (priorities : Priorities)

theorem maskTable_tag (level : Level) :
    (maskTable priorities)[level.tag]? =
      some (logMask (priorities.value level)) := by
  cases level <;> rfl

theorem getLsbD_logMask (first second : Level) :
    (logMask (priorities.value first)).getLsbD (priorities.value second) =
      decide (first = second) := by
  have bound := priorities.value_lt first
  rw [logMask, ← BitVec.twoPow_eq, BitVec.getLsbD_twoPow,
    decide_eq_true bound, Bool.true_and]
  exact decide_eq_decide.mpr priorities.value_inj.eq_iff

theorem logMask_and_iff (level : Level) (mask : BitVec 32) :
    logMask (priorities.value level) &&& mask =
        logMask (priorities.value level) ↔
      mask.getLsbD (priorities.value level) = true := by
  rw [logMask, ← BitVec.twoPow_eq]
  exact twoPow_and_eq_self_iff (priorities.value_lt level) mask

def Shows (mask : BitVec 32) (enabled : Level → Bool) : Prop :=
  ∀ level, mask.getLsbD (priorities.value level) = enabled level

def descending : List Level := ascending.reverse

theorem decodeMask_eq {mask : BitVec 32} {enabled : Level → Bool}
    (shows : Shows priorities mask enabled) :
    decodeMask (maskTable priorities) mask =
      (descending.filter enabled).map Level.tag := by
  have set (level : Level) : (maskTable priorities)[level.tag]?.any
      (fun entry => entry &&& mask == entry) = enabled level := by
    rw [maskTable_tag, Option.any_some, ← shows level, Bool.eq_iff_iff,
      beq_iff_eq, logMask_and_iff]
  have positions : List.range (maskTable priorities).length =
      ascending.map Level.tag := rfl
  rw [decodeMask, ← List.foldl_filter, positions, List.filter_map,
    List.foldl_flip_cons_eq_append', List.append_nil, descending,
    List.filter_reverse, List.map_reverse]
  exact congrArg _ (congrArg _ (List.filter_congr fun level _ => set level))

theorem shows_union (levels : List Level) :
    Shows priorities
      (union (levels.map fun level => logMask (priorities.value level)))
      (fun level => decide (level ∈ levels)) := by
  intro level
  rw [getLsbD_union, Bool.eq_iff_iff, List.any_eq_true, decide_eq_true_iff]
  constructor
  · rintro ⟨_, listed, bit⟩
    obtain ⟨other, member, rfl⟩ := List.mem_map.mp listed
    rw [getLsbD_logMask, decide_eq_true_iff] at bit
    exact bit ▸ member
  · intro member
    refine ⟨_, List.mem_map_of_mem member, ?_⟩
    rw [getLsbD_logMask, decide_eq_true_iff]

theorem union_levels_eq_zero_iff (levels : List Level) :
    union (levels.map fun level => logMask (priorities.value level)) = 0 ↔
      levels = [] := by
  cases levels with
  | nil => simp
  | cons level rest =>
      simp only [reduceCtorEq, iff_false]
      intro zero
      have bit := shows_union priorities (level :: rest) level
      rw [zero] at bit
      simp at bit

theorem setlogmask_eq (current : BitVec 32) (vLevel : List Level) :
    setlogmask priorities current vLevel =
      let mask :=
        union (vLevel.map fun level => logMask (priorities.value level))
      (if mask = 0 then current else mask,
        some (decodeMask (maskTable priorities) current)) := by
  rw [setlogmask, convertFlagList_map (maskTable_tag priorities)]
  rfl

end Call

/-! Runs, beside those of a machine that keeps the set of enabled levels. -/

def setlogmaskSpec (enabled : Level → Bool) (levels : List Level) :
    (Level → Bool) × Option (List Nat) :=
  (if levels = [] then enabled else fun level => decide (level ∈ levels),
    some ((descending.filter enabled).map Level.tag))

theorem setlogmask_simulates (priorities : Priorities) {mask : BitVec 32}
    {enabled : Level → Bool} (shows : Shows priorities mask enabled)
    (levels : List Level) :
    Shows priorities (setlogmask priorities mask levels).1
        (setlogmaskSpec enabled levels).1 ∧
      (setlogmask priorities mask levels).2 =
        (setlogmaskSpec enabled levels).2 := by
  rw [setlogmask_eq]
  refine ⟨?_, congrArg some (decodeMask_eq priorities shows)⟩
  simp only [setlogmaskSpec, union_levels_eq_zero_iff]
  split_ifs with empty
  · exact shows
  · exact shows_union priorities levels

def lastNonEmpty (lists : List (List Level)) : Option (List Level) :=
  (lists.filter (· ≠ [])).getLast?

def enabledAfter (lists : List (List Level)) : List Level :=
  match lastNonEmpty lists with
  | none => descending
  | some levels => descending.filter fun level => decide (level ∈ levels)

theorem lastNonEmpty_cons (levels : List Level) (rest : List (List Level)) :
    lastNonEmpty (levels :: rest) =
      match lastNonEmpty rest with
      | some later => some later
      | none => if levels = [] then none else some levels := by
  rw [lastNonEmpty, List.filter_cons]
  by_cases empty : levels = []
  · rw [if_neg (by simp [empty]), if_pos empty, ← lastNonEmpty]
    cases lastNonEmpty rest <;> rfl
  · rw [if_pos (by simp [empty]), if_neg empty, List.getLast?_cons,
      ← lastNonEmpty]
    cases lastNonEmpty rest <;> rfl

theorem run_setlogmaskSpec (enabled : Level → Bool)
    (lists : List (List Level)) :
    (run setlogmaskSpec enabled lists).1 =
      match lastNonEmpty lists with
      | none => enabled
      | some levels => fun level => decide (level ∈ levels) := by
  induction lists generalizing enabled with
  | nil => rfl
  | cons levels rest induction =>
      rw [run_cons, lastNonEmpty_cons]
      dsimp only
      rw [induction, setlogmaskSpec]
      cases lastNonEmpty rest with
      | some later => rfl
      | none => split_ifs <;> rfl

theorem enabledAfter_eq (lists : List (List Level)) :
    descending.filter (run setlogmaskSpec (fun _ => true) lists).1 =
      enabledAfter lists := by
  rw [run_setlogmaskSpec, enabledAfter]
  cases lastNonEmpty lists with
  | none => exact List.filter_true descending
  | some levels => rfl

theorem filter_logUpto {lvl : Level} {upto : List Level}
    (called : logUpto lvl = some upto) :
    descending.filter (fun level => decide (level ∈ upto)) = upto := by
  cases lvl <;> cases called <;> decide

/-- Every call returns, from `LOG_DEBUG` to `LOG_EMERG`, the levels of the last
list before it that is not empty; `log_upto` gives its lists in that order. -/
theorem setlogmask_decodes (priorities : Priorities) {initial : BitVec 32}
    (allEnabled : ∀ level,
      initial.getLsbD (priorities.value level) = true)
    (lists : List (List Level)) :
    let answers := (run (setlogmask priorities) initial lists).2
    (∀ k < lists.length, answers[k]? =
      some (some ((enabledAfter (lists.take k)).map Level.tag))) ∧
    ∀ lvl, ∃ upto, logUpto lvl = some upto ∧
      ∀ k, lists[k]? = some upto → k + 1 < lists.length →
        answers[k + 1]? = some (some (upto.map Level.tag)) := by
  obtain ⟨-, same⟩ := run_simulates (Shows priorities)
    (fun _ _ levels shows => setlogmask_simulates priorities shows levels)
    (fun level => allEnabled level) lists
  rw [same]
  have answered (k : Nat) (inside : k < lists.length) :
      (run setlogmaskSpec (fun _ => true) lists).2[k]? =
        some (some ((enabledAfter (lists.take k)).map Level.tag)) := by
    rw [getElem?_run, List.getElem?_eq_getElem inside, Option.map_some,
      setlogmaskSpec, enabledAfter_eq]
  refine ⟨answered, fun lvl => ?_⟩
  obtain ⟨upto, called⟩ : ∃ upto, logUpto lvl = some upto := by
    cases lvl <;> exact ⟨_, rfl⟩
  refine ⟨upto, called, fun k made inside => ?_⟩
  have nonEmpty : upto ≠ [] := by
    rintro rfl
    cases lvl <;> cases called
  have last : lastNonEmpty (lists.take (k + 1)) = some upto := by
    rw [lastNonEmpty, List.take_add_one, made, List.filter_append]
    simp [nonEmpty]
  rw [answered (k + 1) inside, enabledAfter, last]
  dsimp only
  rw [filter_logUpto called]

def syslogH : Priorities where
  value := Level.tag
  value_lt level := by cases level <;> decide
  value_inj first second same := by
    cases first <;> cases second <;> first | rfl | cases same

theorem setlogmask_decodes_err :
    let answers := (run (setlogmask syslogH) 0xff
      [[.LOG_ERR, .LOG_EMERG, .LOG_ERR], [], [.LOG_INFO]]).2
    answers[0]? = some (some [7, 6, 5, 4, 3, 2, 1, 0]) ∧
      answers[2]? = some (some [3, 0]) := by
  have enabled (level : Level) :
      (0xff : BitVec 32).getLsbD (syslogH.value level) = true := by
    cases level <;> decide
  obtain ⟨answered, -⟩ := setlogmask_decodes syslogH enabled
    [[.LOG_ERR, .LOG_EMERG, .LOG_ERR], [], [.LOG_INFO]]
  exact ⟨answered 0 (by decide), answered 2 (by decide)⟩

end ExtUnix.Process.Syslog
