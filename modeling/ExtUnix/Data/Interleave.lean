import Mathlib.Data.List.Basic
import Mathlib.Tactic.Common

namespace ExtUnix.Data

/-! Histories: the actions of several threads in the order they took effect. -/

section Histories

variable {τ α σ : Type}

def perform (step : σ → α → σ) (state : σ) (history : List (τ × α)) : σ :=
  history.foldl (fun state event => step state event.2) state

@[simp] theorem perform_nil (step : σ → α → σ) (state : σ) :
    perform step state ([] : List (τ × α)) = state := rfl

@[simp] theorem perform_cons (step : σ → α → σ) (state : σ) (event : τ × α)
    (rest : List (τ × α)) :
    perform step state (event :: rest) =
      perform step (step state event.2) rest := rfl

theorem perform_keeps {step : σ → α → σ} (kept : σ → Prop)
    {history : List (τ × α)}
    (keeps : ∀ event ∈ history, ∀ state, kept state →
      kept (step state event.2))
    {state : σ} (initial : kept state) :
    kept (perform step state history) := by
  induction history generalizing state with
  | nil => exact initial
  | cons event rest induction =>
      rw [perform_cons]
      exact induction (fun later member => keeps later (.tail _ member))
        (keeps event (List.mem_cons_self ..) state initial)

def Throughout (step : σ → α → σ) (holds : σ → α → Prop) :
    σ → List (τ × α) → Prop
  | _, [] => True
  | state, event :: rest =>
      holds state event.2 ∧ Throughout step holds (step state event.2) rest

instance decidableThroughout (step : σ → α → σ) (holds : σ → α → Prop)
    [∀ state action, Decidable (holds state action)] (state : σ) :
    (history : List (τ × α)) → Decidable (Throughout step holds state history)
  | [] => isTrue trivial
  | event :: rest =>
      have := decidableThroughout step holds (step state event.2) rest
      inferInstanceAs (Decidable (_ ∧ _))

theorem Throughout.of_append {step : σ → α → σ} {holds : σ → α → Prop}
    {state : σ} {before after : List (τ × α)} {event : τ × α}
    (throughout : Throughout step holds state (before ++ event :: after)) :
    holds (perform step state before) event.2 := by
  induction before generalizing state with
  | nil => exact throughout.1
  | cons first rest induction => exact induction throughout.2

/-- An action whose order relative to all of `others` does not matter. -/
def CommutesWith (step : σ → α → σ) (action : α) (others : List α) : Prop :=
  ∀ other ∈ others, ∀ state,
    step (step state action) other = step (step state other) action

theorem CommutesWith.foldl {step : σ → α → σ} {action : α} {others : List α}
    (commutes : CommutesWith step action others) (state : σ) :
    others.foldl step (step state action) =
      step (others.foldl step state) action := by
  induction others generalizing state with
  | nil => rfl
  | cons other rest induction =>
      have head := commutes other (by simp) state
      have tail : CommutesWith step action rest :=
        fun later member => commutes later (by simp [member])
      rw [List.foldl_cons, List.foldl_cons, head, induction tail]

def serial (step : σ → α → σ) (threads : τ → List α) (state : σ)
    (order : List τ) : σ :=
  order.foldl (fun state thread => (threads thread).foldl step state) state

theorem serial_congr {step : σ → α → σ} {first second : τ → List α}
    {order : List τ} (same : ∀ thread ∈ order, first thread = second thread)
    (state : σ) :
    serial step first state order = serial step second state order := by
  induction order generalizing state with
  | nil => rfl
  | cons thread rest induction =>
      simp only [serial, List.foldl_cons] at induction ⊢
      rw [same thread (by simp)]
      exact induction (fun later member => same later (by simp [member])) _

theorem serial_commute {step : σ → α → σ} {threads : τ → List α}
    {action : α} {order : List τ}
    (commutes : ∀ thread ∈ order, CommutesWith step action (threads thread))
    (state : σ) :
    serial step threads (step state action) order =
      step (serial step threads state order) action := by
  induction order generalizing state with
  | nil => rfl
  | cons thread rest induction =>
      simp only [serial, List.foldl_cons] at induction ⊢
      rw [(commutes thread (by simp)).foldl]
      exact induction (fun later member => commutes later (by simp [member])) _

variable [DecidableEq τ]

def actions (thread : τ) (history : List (τ × α)) : List α :=
  (history.filter fun event => event.1 = thread).map Prod.snd

@[simp] theorem actions_nil (thread : τ) :
    actions thread ([] : List (τ × α)) = [] := rfl

@[simp] theorem actions_cons_self (thread : τ) (action : α)
    (rest : List (τ × α)) :
    actions thread ((thread, action) :: rest) =
      action :: actions thread rest := by
  simp [actions]

theorem actions_cons_of_ne {thread other : τ} (distinct : other ≠ thread)
    (action : α) (rest : List (τ × α)) :
    actions thread ((other, action) :: rest) = actions thread rest := by
  simp [actions, distinct]

theorem actions_append (thread : τ) (first second : List (τ × α)) :
    actions thread (first ++ second) =
      actions thread first ++ actions thread second := by
  simp [actions]

@[simp] theorem actions_tag (thread other : τ) (items : List α) :
    actions thread (items.map (other, ·)) =
      if other = thread then items else [] := by
  induction items with
  | nil => simp
  | cons item rest induction =>
      rw [List.map_cons]
      by_cases same : other = thread
      · subst same
        rw [actions_cons_self, induction, if_pos rfl, if_pos rfl]
      · rw [actions_cons_of_ne same, induction, if_neg same, if_neg same]

theorem mem_actions {thread : τ} {action : α} {history : List (τ × α)} :
    action ∈ actions thread history ↔ (thread, action) ∈ history := by
  simp [actions]

def Interleaves (threads : τ → List α) (history : List (τ × α)) : Prop :=
  ∀ thread, actions thread history = threads thread

def Independent (step : σ → α → σ) (threads : τ → List α) : Prop :=
  ∀ first second, first ≠ second → ∀ action ∈ threads first,
    CommutesWith step action (threads second)

theorem Independent.tail {step : σ → α → σ} {thread : τ} {action : α}
    {rest : List (τ × α)}
    (independent : Independent step
      (actions · ((thread, action) :: rest))) :
    Independent step (actions · rest) := by
  have later : ∀ {other moved}, moved ∈ actions other rest →
      moved ∈ actions other ((thread, action) :: rest) :=
    fun member => mem_actions.mpr (.tail _ (mem_actions.mp member))
  intro first second distinct moved member other among
  exact independent first second distinct moved (later member) other
    (later among)

/-- Threads whose actions commute leave what they would leave if they ran one
after the other, in any order. -/
theorem perform_serial {step : σ → α → σ} {history : List (τ × α)}
    (independent : Independent step (actions · history)) {order : List τ}
    (nodup : order.Nodup) (complete : ∀ event ∈ history, event.1 ∈ order)
    (state : σ) :
    perform step state history =
      serial step (actions · history) state order := by
  induction history generalizing state with
  | nil =>
      have idle : serial step (fun _ => []) state order = state := by
        rw [serial]
        exact List.foldl_fixed' (fun _ => rfl) order
      exact idle.symm
  | cons event rest induction =>
      obtain ⟨thread, action⟩ := event
      obtain ⟨before, after, rfl⟩ :=
        List.append_of_mem (complete _ (List.mem_cons_self ..))
      have absent : thread ∉ before ∧ thread ∉ after := by
        rw [List.nodup_append, List.nodup_cons] at nodup
        exact ⟨fun member => nodup.2.2 thread member thread (by simp) rfl,
          nodup.2.1.1⟩
      have others : ∀ order : List τ, thread ∉ order → ∀ other ∈ order,
          actions other ((thread, action) :: rest) = actions other rest := by
        intro order missing other member
        refine actions_cons_of_ne ?_ action rest
        rintro rfl
        exact missing member
      have swap : serial step (actions · rest) (step state action) before =
          step (serial step (actions · rest) state before) action := by
        refine serial_commute (fun other member => ?_) state
        have distinct : thread ≠ other := fun same => absent.1 (same ▸ member)
        rw [← others before absent.1 other member]
        exact independent thread other distinct action
          (mem_actions.mpr (List.mem_cons_self ..))
      have parts : ∀ (threads : τ → List α) state,
          serial step threads state (before ++ thread :: after) =
            serial step threads ((threads thread).foldl step
              (serial step threads state before)) after := by
        intro threads state
        rw [serial, List.foldl_append, List.foldl_cons]
        rfl
      rw [perform_cons,
        induction independent.tail
          (fun event member => complete event (.tail _ member)),
        parts, parts, swap, actions_cons_self, List.foldl_cons,
        serial_congr (others before absent.1), serial_congr (others after absent.2)]

end Histories

section Channels

variable {α : Type}

inductive Transit (α : Type) where
  | put (items : List α)
  | get (items : List α)
  deriving DecidableEq

def Transit.step [DecidableEq α] (queue : List α) : Transit α → Option (List α)
  | .put items => some (queue ++ items)
  | .get items =>
      if items <+: queue then some (queue.drop items.length) else none

def Transit.sent : Transit α → List α
  | .put items => items
  | .get _ => []

def Transit.received : Transit α → List α
  | .put _ => []
  | .get items => items

theorem transit_conserves [DecidableEq α] {transits : List (Transit α)}
    {queue left : List α}
    (legal : transits.foldlM Transit.step queue = some left) :
    queue ++ transits.flatMap Transit.sent =
      transits.flatMap Transit.received ++ left := by
  induction transits generalizing queue with
  | nil =>
      obtain rfl : queue = left := Option.some.inj legal
      simp
  | cons transit rest induction =>
      rw [List.foldlM_cons] at legal
      obtain ⟨next, stepped, continued⟩ := Option.bind_eq_some_iff.mp legal
      have later := induction continued
      cases transit with
      | put items =>
          obtain rfl : queue ++ items = next := Option.some.inj stepped
          simpa [Transit.sent, Transit.received] using later
      | get items =>
          rw [Transit.step] at stepped
          split_ifs at stepped with available
          obtain ⟨remaining, rfl⟩ := available
          obtain rfl : remaining = next := by simpa using stepped
          simpa [Transit.sent, Transit.received] using later

end Channels

end ExtUnix.Data
