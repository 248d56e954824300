import Mathlib.Data.List.Count

namespace ExtUnix.Data

/-! Blocks of memory that are acquired, accessed and released, and the audit of
such a history. -/

inductive Entry (β : Type) where
  | acquire (block : β)
  | access (block : β)
  | release (block : β)
  deriving DecidableEq

structure Ledger (β : Type) where
  live : List β
  spent : List β

namespace Ledger

variable {β : Type} [DecidableEq β]

/-- A block is acquired once, and accessed and released only while held. -/
def enter (ledger : Ledger β) : Entry β → Option (Ledger β)
  | .acquire block =>
      if block ∈ ledger.live ∨ block ∈ ledger.spent then none
      else some ⟨block :: ledger.live, ledger.spent⟩
  | .access block => if block ∈ ledger.live then some ledger else none
  | .release block =>
      if block ∈ ledger.live then
        some ⟨ledger.live.erase block, block :: ledger.spent⟩
      else none

def audit : Ledger β → List (Entry β) → Option (Ledger β)
  | ledger, [] => some ledger
  | ledger, entry :: rest => (ledger.enter entry).bind (audit · rest)

def Settles (entries : List (Entry β)) : Prop :=
  ∃ spent, audit ⟨[], []⟩ entries = some ⟨[], spent⟩

section Steps

variable {ledger : Ledger β} {block : β}

theorem audit_acquire (new : block ∉ ledger.live) (unspent : block ∉ ledger.spent)
    (rest : List (Entry β)) :
    ledger.audit (.acquire block :: rest) =
      audit ⟨block :: ledger.live, ledger.spent⟩ rest := by
  rw [audit, enter, if_neg (not_or.mpr ⟨new, unspent⟩), Option.bind_some]

theorem audit_access (held : block ∈ ledger.live) (rest : List (Entry β)) :
    ledger.audit (.access block :: rest) = ledger.audit rest := by
  rw [audit, enter, if_pos held, Option.bind_some]

theorem audit_release (held : block ∈ ledger.live) (rest : List (Entry β)) :
    ledger.audit (.release block :: rest) =
      audit ⟨ledger.live.erase block, block :: ledger.spent⟩ rest := by
  rw [audit, enter, if_pos held, Option.bind_some]

end Steps

structure Agrees (ledger : Ledger β) (acquired released : β → Nat) : Prop where
  acquired_eq : ∀ block,
    acquired block = ledger.live.count block + ledger.spent.count block
  released_eq : ∀ block, released block = ledger.spent.count block
  once : ∀ block, ledger.live.count block + ledger.spent.count block ≤ 1

theorem Agrees.enter {ledger after : Ledger β} {acquired released : β → Nat}
    (agrees : ledger.Agrees acquired released) {entry : Entry β}
    (entered : ledger.enter entry = some after) :
    after.Agrees
      (fun block => acquired block + if entry = .acquire block then 1 else 0)
      (fun block => released block + if entry = .release block then 1 else 0) := by
  cases entry with
  | acquire block =>
      rw [Ledger.enter] at entered
      split_ifs at entered with known
      cases entered
      have new := List.count_eq_zero_of_not_mem (not_or.mp known).1
      have unspent := List.count_eq_zero_of_not_mem (not_or.mp known).2
      constructor <;> intro other
      · rw [agrees.acquired_eq, List.count_cons]
        simp only [Entry.acquire.injEq, beq_iff_eq]
        omega
      · rw [agrees.released_eq]
        simp
      · have before := agrees.once other
        rw [List.count_cons]
        by_cases same : block = other
        · subst same
          simp only [beq_self_eq_true, if_true]
          omega
        · simp only [beq_iff_eq, same, if_false]
          omega
  | access block =>
      rw [Ledger.enter] at entered
      split_ifs at entered
      cases entered
      simpa using agrees
  | release block =>
      rw [Ledger.enter] at entered
      split_ifs at entered with held
      cases entered
      have positive := List.count_pos_iff.mpr held
      constructor <;> intro other
      all_goals
        have counts := agrees.acquired_eq other
        have spent := agrees.released_eq other
        have before := agrees.once other
        simp only [List.count_erase, List.count_cons, Entry.release.injEq,
          beq_iff_eq, reduceCtorEq, if_false]
        by_cases same : block = other
        · subst same
          simp only [if_true]
          omega
        · simp only [same, if_false]
          omega

theorem Agrees.audit {ledger after : Ledger β} {acquired released : β → Nat}
    (agrees : ledger.Agrees acquired released) {entries : List (Entry β)}
    (audited : ledger.audit entries = some after) :
    after.Agrees (fun block => acquired block + entries.count (.acquire block))
      (fun block => released block + entries.count (.release block)) := by
  induction entries generalizing ledger acquired released with
  | nil =>
      cases audited
      simpa using agrees
  | cons entry rest induction =>
      rw [Ledger.audit] at audited
      obtain ⟨next, entered, continued⟩ := Option.bind_eq_some_iff.mp audited
      have later := induction (agrees.enter entered) continued
      simpa [List.count_cons, Nat.add_assoc, Nat.add_comm] using later

/-- In a settled history every block acquired is released exactly once. -/
theorem Settles.released_once {entries : List (Entry β)}
    (settles : Settles entries) {block : β} (acquired : .acquire block ∈ entries) :
    entries.count (.acquire block) = 1 ∧ entries.count (.release block) = 1 := by
  obtain ⟨spent, audited⟩ := settles
  have start : Ledger.Agrees (⟨[], []⟩ : Ledger β) (fun _ => 0) fun _ => 0 :=
    ⟨by simp, by simp, by simp⟩
  have closed := start.audit audited
  have total := closed.acquired_eq block
  have given := closed.released_eq block
  have bound := closed.once block
  have entered := List.count_pos_iff.mpr acquired
  simp only [List.count_nil, Nat.zero_add] at total given bound
  omega

end Ledger

end ExtUnix.Data
