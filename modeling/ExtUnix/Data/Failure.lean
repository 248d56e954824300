import Mathlib.Tactic.Common

namespace ExtUnix.Data

/-! Actions of which it is known when they fail, and with what errors. -/

structure FailsWhen (known : ε → Prop) (condition : Prop)
    (action : Except ε α) : Prop where
  ok : ¬condition → ∃ value, action = .ok value
  error : condition → ∃ error, action = .error error ∧ known error

/-- An element with `last`, and only elements with `before` in front of it. -/
def Until (before last : α → Prop) (values : List α) : Prop :=
  ∃ earlier value rest, values = earlier ++ value :: rest ∧
    (∀ other ∈ earlier, before other) ∧ last value

theorem not_until_nil {before last : α → Prop} : ¬Until before last [] := by
  rintro ⟨earlier, value, rest, same, -⟩
  exact absurd same (by simp)

theorem until_cons {before last : α → Prop} {value : α} {rest : List α} :
    Until before last (value :: rest) ↔
      last value ∨ before value ∧ Until before last rest := by
  constructor
  · rintro ⟨earlier, other, after, same, held, found⟩
    cases earlier with
    | nil =>
        cases same
        exact .inl found
    | cons first earlier =>
        cases same
        exact .inr ⟨held _ (by simp), earlier, other, after, rfl,
          fun value member => held value (by simp [member]), found⟩
  · rintro (found | ⟨holds, earlier, other, after, rfl, held, found⟩)
    · exact ⟨[], value, rest, rfl, by simp, found⟩
    · refine ⟨value :: earlier, other, after, rfl, ?_, found⟩
      intro first member
      obtain rfl | member := List.mem_cons.mp member
      · exact holds
      · exact held first member

theorem allM_eq_false_iff {action : α → Except ε Bool} {values : List α} :
    values.allM action = .ok false ↔
      Until (action · = .ok true) (action · = .ok false) values := by
  induction values with
  | nil =>
      refine ⟨fun evaluated => ?_, fun found => absurd found not_until_nil⟩
      cases evaluated
  | cons value rest induction =>
      rw [List.allM, until_cons, ← induction]
      cases action value with
      | error error => simp [bind, Except.bind]
      | ok met =>
          cases met <;> simp [bind, Except.bind, pure, Except.pure]

namespace FailsWhen

variable {ε α β : Type} {known : ε → Prop} {condition later : Prop}
  {action : Except ε α}

theorem congr (fails : FailsWhen known condition action)
    (same : condition ↔ later) : FailsWhen known later action :=
  ⟨fun absent => fails.ok (absent ∘ same.mp), fun present =>
    fails.error (same.mpr present)⟩

theorem pure (value : α) :
    FailsWhen known False (Except.ok value : Except ε α) :=
  ⟨fun _ => ⟨value, rfl⟩, False.elim⟩

theorem accepted_iff (fails : FailsWhen known condition action) :
    (∃ value, action = .ok value) ↔ ¬condition := by
  constructor
  · rintro ⟨value, succeeded⟩ present
    obtain ⟨error, failed, -⟩ := fails.error present
    rw [succeeded] at failed
    cases failed
  · exact fails.ok

theorem rejected_iff (fails : FailsWhen known condition action) :
    (∃ error, action = .error error ∧ known error) ↔ condition := by
  constructor
  · rintro ⟨error, failed, -⟩
    by_contra absent
    obtain ⟨value, succeeded⟩ := fails.ok absent
    rw [failed] at succeeded
    cases succeeded
  · exact fails.error

theorem bind {next : α → Except ε β}
    (fails : FailsWhen known condition action) (after : α → Prop)
    (continues : ∀ value, action = .ok value →
      FailsWhen known (after value) (next value)) :
    FailsWhen known (condition ∨ ∃ value, action = .ok value ∧ after value)
      (action >>= next) := by
  by_cases present : condition
  · obtain ⟨error, failed, isKnown⟩ := fails.error present
    refine ⟨fun absent => absurd (.inl present) absent,
      fun _ => ⟨error, ?_, isKnown⟩⟩
    rw [failed]
    rfl
  · obtain ⟨value, succeeded⟩ := fails.ok present
    have same : (action >>= next) = next value := by
      rw [succeeded]
      rfl
    rw [same]
    refine (continues value succeeded).congr ⟨?_, ?_⟩
    · intro held
      exact .inr ⟨value, succeeded, held⟩
    · rintro (held | ⟨other, found, held⟩)
      · exact absurd held present
      · rw [succeeded] at found
        cases found
        exact held

theorem bind_const {next : α → Except ε β}
    (fails : FailsWhen known condition action) (later : Prop)
    (continues : ∀ value, action = .ok value →
      FailsWhen known later (next value)) :
    FailsWhen known (condition ∨ later) (action >>= next) := by
  refine (fails.bind _ continues).congr ⟨?_, ?_⟩
  · rintro (held | ⟨_, _, held⟩)
    · exact .inl held
    · exact .inr held
  · rintro (held | held)
    · exact .inl held
    · by_cases present : condition
      · exact .inl present
      · obtain ⟨value, succeeded⟩ := fails.ok present
        exact .inr ⟨value, succeeded, held⟩

theorem map (fails : FailsWhen known condition action) (change : α → β) :
    FailsWhen known condition (action >>= fun value => Except.ok (change value)) :=
  (fails.bind_const False fun value _ => pure (change value)).congr
    (or_iff_left not_false)

theorem mapM {action : α → Except ε β} {condition : α → Prop} (values : List α)
    (fails : ∀ value ∈ values, FailsWhen known (condition value) (action value)) :
    FailsWhen known (∃ value ∈ values, condition value)
      (values.mapM action) := by
  induction values with
  | nil => exact (pure []).congr (by simp)
  | cons value rest induction =>
      rw [List.mapM_cons]
      have tail := induction fun other member => fails other (by simp [member])
      refine ((fails value (by simp)).bind_const _ fun head _ =>
        tail.map (head :: ·)).congr ?_
      simp

section Scans

variable {action : α → Except ε Bool} {condition : α → Prop}

theorem allM (fails : ∀ value, FailsWhen known (condition value) (action value))
    (values : List α) :
    FailsWhen known (Until (action · = .ok true) condition values)
      (values.allM action) := by
  induction values with
  | nil => exact (pure true).congr (by simp [not_until_nil])
  | cons value rest induction =>
      rw [List.allM]
      refine ((fails value).bind (fun met => met = true ∧
        Until (action · = .ok true) condition rest) ?_).congr ?_
      · intro met _
        cases met with
        | true => exact induction.congr (by simp)
        | false => exact (pure false).congr (by simp)
      · rw [until_cons]
        simp

theorem anyM (fails : ∀ value, FailsWhen known (condition value) (action value))
    (values : List α) :
    FailsWhen known (Until (action · = .ok false) condition values)
      (values.anyM action) := by
  induction values with
  | nil => exact (pure false).congr (by simp [not_until_nil])
  | cons value rest induction =>
      rw [List.anyM]
      refine ((fails value).bind (fun met => met = false ∧
        Until (action · = .ok false) condition rest) ?_).congr ?_
      · intro met _
        cases met with
        | true => exact (pure true).congr (by simp)
        | false => exact induction.congr (by simp)
      · rw [until_cons]
        simp

end Scans

end FailsWhen

end ExtUnix.Data
