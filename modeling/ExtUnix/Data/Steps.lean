import Mathlib.Data.List.Basic
import Mathlib.Tactic.Common

namespace ExtUnix.Data

/-! Systems whose steps are not always possible: `none` is a step that is
blocked in that state. -/

section Systems

variable {σ ι : Type} {step : σ → ι → Option σ}

def follow (step : σ → ι → Option σ) (state : σ) (inputs : List ι) : Option σ :=
  inputs.foldlM step state

@[simp] theorem follow_nil (state : σ) : follow step state [] = some state := rfl

theorem follow_cons (state : σ) (input : ι) (rest : List ι) :
    follow step state (input :: rest) =
      (step state input).bind (follow step · rest) := by
  rw [follow, List.foldlM_cons]
  rfl

theorem follow_cons_eq_some {state last : σ} {input : ι} {rest : List ι} :
    follow step state (input :: rest) = some last ↔
      ∃ next, step state input = some next ∧
        follow step next rest = some last := by
  rw [follow_cons, Option.bind_eq_some_iff]

theorem follow_keeps_among {kept : σ → Prop} {among : ι → Prop}
    (keeps : ∀ {state input next}, kept state → among input →
      step state input = some next → kept next)
    {state last : σ} {inputs : List ι} (initial : kept state)
    (restricted : ∀ input ∈ inputs, among input)
    (followed : follow step state inputs = some last) : kept last := by
  induction inputs generalizing state with
  | nil =>
      obtain rfl : state = last := Option.some.inj followed
      exact initial
  | cons input rest induction =>
      obtain ⟨next, stepped, continued⟩ := follow_cons_eq_some.mp followed
      exact induction (keeps initial (restricted input (by simp)) stepped)
        (fun later member => restricted later (by simp [member])) continued

theorem follow_keeps {kept : σ → Prop}
    (keeps : ∀ {state input next}, kept state → step state input = some next →
      kept next)
    {state last : σ} {inputs : List ι} (initial : kept state)
    (followed : follow step state inputs = some last) : kept last :=
  follow_keeps_among (fun kept (_ : True) stepped => keeps kept stepped) initial
    (fun _ _ => trivial) followed

section Ranked

variable {kept : σ → Prop} (rank : σ → Nat)

theorem length_add_rank_le
    (keeps : ∀ {state input next}, kept state → step state input = some next →
      kept next)
    (falls : ∀ {state input next}, kept state → step state input = some next →
      rank next < rank state)
    {state last : σ} {inputs : List ι} (initial : kept state)
    (followed : follow step state inputs = some last) :
    inputs.length + rank last ≤ rank state := by
  induction inputs generalizing state with
  | nil =>
      obtain rfl : state = last := Option.some.inj followed
      simp
  | cons input rest induction =>
      obtain ⟨next, stepped, continued⟩ := follow_cons_eq_some.mp followed
      have lower := falls initial stepped
      have later := induction (keeps initial stepped) continued
      rw [List.length_cons]
      omega

/-- Where a step is possible until the system is finished, and every step lowers
a rank, every run can be continued to a finished one. -/
theorem exists_finished {finished : σ → Prop} {among : ι → Prop}
    (keeps : ∀ {state input next}, kept state → step state input = some next →
      kept next)
    (falls : ∀ {state input next}, kept state → step state input = some next →
      rank next < rank state)
    (progress : ∀ {state}, kept state → finished state ∨
      ∃ input next, among input ∧ step state input = some next)
    {state : σ} (initial : kept state) :
    ∃ inputs last, (∀ input ∈ inputs, among input) ∧
      follow step state inputs = some last ∧ finished last := by
  induction rank_eq : rank state using Nat.strongRecOn generalizing state with
  | ind height induction =>
      rcases progress initial with done | ⟨input, next, allowed, stepped⟩
      · exact ⟨[], state, by simp, rfl, done⟩
      · obtain ⟨rest, last, restricted, continued, done⟩ :=
          induction (rank next) (rank_eq ▸ falls initial stepped)
            (keeps initial stepped) rfl
        refine ⟨input :: rest, last, ?_,
          follow_cons_eq_some.mpr ⟨next, stepped, continued⟩, done⟩
        simpa using ⟨allowed, restricted⟩

end Ranked

end Systems

end ExtUnix.Data
