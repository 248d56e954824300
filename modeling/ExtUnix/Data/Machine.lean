import Mathlib.Algebra.Ring.Nat
import Mathlib.Data.List.Basic
import Mathlib.Tactic.Common

namespace ExtUnix.Data

/-! Machines: a state that takes inputs one after another and answers each. -/

variable {σ τ ι ο β : Type}

def run (step : σ → ι → σ × ο) : σ → List ι → σ × List ο
  | state, [] => (state, [])
  | state, input :: rest =>
      let (next, answer) := step state input
      let (last, answers) := run step next rest
      (last, answer :: answers)

@[simp] theorem run_nil (step : σ → ι → σ × ο) (state : σ) :
    run step state [] = (state, []) := rfl

@[simp] theorem run_cons (step : σ → ι → σ × ο) (state : σ) (input : ι)
    (rest : List ι) :
    run step state (input :: rest) =
      ((run step (step state input).1 rest).1,
        (step state input).2 :: (run step (step state input).1 rest).2) := rfl

theorem getElem?_run (step : σ → ι → σ × ο) (state : σ) (inputs : List ι)
    (index : Nat) :
    (run step state inputs).2[index]? = inputs[index]?.map fun input =>
      (step (run step state (inputs.take index)).1 input).2 := by
  induction inputs generalizing state index with
  | nil => rfl
  | cons input rest induction =>
      cases index with
      | zero => rfl
      | succ index =>
          rw [run_cons, List.take_succ_cons, run_cons]
          exact induction (step state input).1 index

def account (step : σ → ι → σ × ο) (state : σ) (inputs : List ι) :
    List (ι × ο) :=
  inputs.zip (run step state inputs).2

@[simp] theorem account_nil (step : σ → ι → σ × ο) (state : σ) :
    account step state [] = [] := rfl

@[simp] theorem account_cons (step : σ → ι → σ × ο) (state : σ) (input : ι)
    (rest : List ι) :
    account step state (input :: rest) =
      (input, (step state input).2) :: account step (step state input).1 rest :=
  rfl

theorem take_account (step : σ → ι → σ × ο) (state : σ) (inputs : List ι)
    (index : Nat) :
    (account step state inputs).take index =
      account step state (inputs.take index) := by
  induction inputs generalizing state index with
  | nil => simp
  | cons input rest induction =>
      cases index with
      | zero => rfl
      | succ index =>
          rw [account_cons, List.take_succ_cons, List.take_succ_cons,
            account_cons, induction]

theorem getElem?_account (step : σ → ι → σ × ο) (state : σ) (inputs : List ι)
    (index : Nat) :
    (account step state inputs)[index]? = inputs[index]?.map fun input =>
      (input, (step (run step state (inputs.take index)).1 input).2) := by
  rw [account, List.zip, List.getElem?_zipWith, getElem?_run]
  cases inputs[index]? <;> rfl

theorem account_eq_some {step : σ → ι → σ × ο} {state : σ} {inputs : List ι}
    {index : Nat} {input : ι} {answer : ο} :
    (account step state inputs)[index]? = some (input, answer) ↔
      inputs[index]? = some input ∧
        (step (run step state (inputs.take index)).1 input).2 = answer := by
  rw [getElem?_account, Option.map_eq_some_iff]
  constructor
  · rintro ⟨found, at_, same⟩
    cases same
    exact ⟨at_, rfl⟩
  · rintro ⟨at_, rfl⟩
    exact ⟨input, at_, rfl⟩

theorem run_append (step : σ → ι → σ × ο) (state : σ) (first second : List ι) :
    (run step state (first ++ second)).1 =
      (run step (run step state first).1 second).1 := by
  induction first generalizing state with
  | nil => rfl
  | cons input rest induction => exact induction (step state input).1

theorem run_take_succ (step : σ → ι → σ × ο) (state : σ) {inputs : List ι}
    {index : Nat} {input : ι} (found : inputs[index]? = some input) :
    (run step state (inputs.take (index + 1))).1 =
      (step (run step state (inputs.take index)).1 input).1 := by
  rw [List.take_add_one, found, Option.toList_some, run_append]
  rfl

theorem run_keeps {step : σ → ι → σ × ο} {kept : σ → Prop} {inputs : List ι}
    (keeps : ∀ state, ∀ input ∈ inputs, kept state → kept (step state input).1)
    {state : σ} (initial : kept state) : kept (run step state inputs).1 := by
  induction inputs generalizing state with
  | nil => exact initial
  | cons input rest induction =>
      exact induction
        (fun state later member => keeps state later (List.mem_cons_of_mem _ member))
        (keeps state input List.mem_cons_self initial)

/-- What holds at one time and not at a later one is lost in a step between. -/
theorem exists_lost (step : σ → ι → σ × ο) (kept : σ → Prop) (loses : ι → Prop)
    (keeps : ∀ state input, ¬loses input → kept state →
      kept (step state input).1)
    {state : σ} {inputs : List ι} {first second : Nat} (order : first ≤ second)
    (held : kept (run step state (inputs.take first)).1)
    (lost : ¬kept (run step state (inputs.take second)).1) :
    ∃ between input, first ≤ between ∧ between < second ∧
      inputs[between]? = some input ∧ loses input := by
  by_contra never
  apply lost
  have split : inputs.take second =
      inputs.take first ++ (inputs.take second).drop first := by
    conv_lhs => rw [← List.take_append_drop first (inputs.take second)]
    rw [List.take_take, Nat.min_eq_left order]
  rw [split, run_append]
  refine run_keeps (fun state input member holds => ?_) held
  refine keeps state input (fun loses => never ?_) holds
  obtain ⟨offset, found⟩ := List.mem_iff_getElem?.mp member
  rw [List.getElem?_drop, List.getElem?_take] at found
  split_ifs at found with within
  exact ⟨first + offset, input, Nat.le_add_right .., within, found, loses⟩

/-- Where every step moves the level by what its input and answer account for,
a run moves it by the totals. -/
theorem run_balances {step : σ → ι → σ × ο} (level : σ → Nat)
    (gained lost : ι × ο → Nat)
    (balanced : ∀ state input,
      level (step state input).1 + lost (input, (step state input).2) =
        level state + gained (input, (step state input).2))
    (state : σ) (inputs : List ι) :
    level (run step state inputs).1 +
        ((account step state inputs).map lost).sum =
      level state + ((account step state inputs).map gained).sum := by
  induction inputs generalizing state with
  | nil => simp
  | cons input rest induction =>
      have now := balanced state input
      have later := induction (step state input).1
      simp only [run_cons, account_cons, List.map_cons, List.sum_cons]
        at later ⊢
      omega

/-- A component that each step replaces by what its input and answer give, or
else leaves alone, is what was given last. -/
theorem run_latest (step : σ → ι → σ × ο) (view : σ → β)
    (given : ι × ο → Option β)
    (replaces : ∀ state input, view (step state input).1 =
      (given (input, (step state input).2)).getD (view state))
    (state : σ) (inputs : List ι) :
    view (run step state inputs).1 =
      ((account step state inputs).filterMap given).getLast?.getD
        (view state) := by
  induction inputs generalizing state with
  | nil => rfl
  | cons input rest induction =>
      rw [run_cons, account_cons, List.filterMap_cons]
      have now := replaces state input
      have later := induction (step state input).1
      cases gift : given (input, (step state input).2) with
      | none =>
          rw [gift] at now
          exact later.trans (by rw [now]; rfl)
      | some value =>
          rw [gift] at now
          rw [later, now, Option.getD_some, List.getLast?_cons,
            Option.getD_some]

def Along (step : σ → ι → σ × ο) (holds : σ → ι → Prop) : σ → List ι → Prop
  | _, [] => True
  | state, input :: rest =>
      holds state input ∧ Along step holds (step state input).1 rest

@[simp] theorem along_nil (step : σ → ι → σ × ο) (holds : σ → ι → Prop)
    (state : σ) : Along step holds state [] := trivial

@[simp] theorem along_cons (step : σ → ι → σ × ο) (holds : σ → ι → Prop)
    (state : σ) (input : ι) (rest : List ι) :
    Along step holds state (input :: rest) ↔
      holds state input ∧ Along step holds (step state input).1 rest := Iff.rfl

/-- Two conditions that agree wherever an invariant holds, and that keep the
invariant, hold along the same runs. -/
theorem along_congr {step : σ → ι → σ × ο} {first second : σ → ι → Prop}
    (invariant : σ → Prop)
    (agree : ∀ state input, invariant state →
      (first state input ↔ second state input))
    (keeps : ∀ state input, invariant state → second state input →
      invariant (step state input).1)
    {state : σ} (initial : invariant state) (inputs : List ι) :
    Along step first state inputs ↔ Along step second state inputs := by
  induction inputs generalizing state with
  | nil => exact Iff.rfl
  | cons input rest induction =>
      rw [along_cons, along_cons, agree state input initial]
      refine and_congr_right fun holds => ?_
      exact induction (keeps state input initial holds)

theorem run_simulates {step : σ → ι → σ × ο} {step' : τ → ι → τ × ο}
    (related : σ → τ → Prop)
    (steps : ∀ state state' input, related state state' →
      related (step state input).1 (step' state' input).1 ∧
        (step state input).2 = (step' state' input).2)
    {state : σ} {state' : τ} (initial : related state state')
    (inputs : List ι) :
    related (run step state inputs).1 (run step' state' inputs).1 ∧
      (run step state inputs).2 = (run step' state' inputs).2 := by
  induction inputs generalizing state state' with
  | nil => exact ⟨initial, rfl⟩
  | cons input rest induction =>
      obtain ⟨next, answer⟩ := steps state state' input initial
      obtain ⟨last, answers⟩ := induction next
      exact ⟨last, congrArg₂ _ answer answers⟩

end ExtUnix.Data
