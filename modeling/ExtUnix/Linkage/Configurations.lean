import ExtUnix.Linkage.Agreement
import ExtUnix.Linkage.Availability
import ExtUnix.Ppx.Within

namespace ExtUnix.Linkage

open ExtUnix.Discover ExtUnix.Ppx
open Bindings (extUnix body)

/-! Two configurations of the same source. -/

section Configurations

variable {ccompType : String} {cTest cTest' : List String → String → Bool}
  {disabled disabled' : List String}

theorem outcomes_extend
    (compiles : ∀ flags code, cTest flags code = true →
      cTest' flags code = true)
    (enables : ∀ name ∈ disabled', name ∈ disabled) :
    Extends (showMl (features.map (outcome ccompType cTest disabled)))
      (showMl (features.map (outcome ccompType cTest' disabled'))) where
  registered := by
    intro name registered
    rw [showMl_isSome, outcomes_name] at registered ⊢
    exact registered
  available := by
    intro name available
    rw [showMl_detected] at available ⊢
    obtain ⟨enabled, feature, member, named, args, alternative, accepted⟩ :=
      available
    exact ⟨fun isDisabled => enabled (enables name isDisabled), feature, member,
      named, args, alternative, compiles _ _ accepted⟩

end Configurations

section Expansions

variable {feature feature' : String → Option Bool}

theorem extUnix_specific_within (extends_ : Extends feature feature')
    (registered : ∀ name ∈ features.map Prod.fst,
      (feature name).isSome = true) :
    ∃ specific after specific' after',
      expand feature false extUnix [] = .ok (specific, after) ∧
      expand feature' false extUnix [] = .ok (specific', after') ∧
      Within (forgets specific) (forgets specific') := by
  have admissible : Admissibles feature body :=
    admissibles_of_nameds registered body_named
  obtain ⟨output, after, expanded, same⟩ := expand_specific body [] admissible
  obtain ⟨output', after', expanded', same'⟩ :=
    expand_specific body [] (admissible.extend extends_)
  refine ⟨_, after, _, after', expand_money expanded, expand_money expanded',
    ?_⟩
  rw [forgets_append, forgets_append, same, same']
  exact (specifics_within extends_ body).forgets.append .nil

theorem extUnix_all_within (extends_ : Extends feature feature')
    (registered : ∀ name ∈ features.map Prod.fst,
      (feature name).isSome = true) :
    ∃ all table all' table',
      expand feature true extUnix [] = .ok (all, table) ∧
      expand feature' true extUnix [] = .ok (all', table') ∧
      outlines all = outlines all' ∧
      (verbatims all).Sublist (verbatims all') ∧
      ∀ name, table.find name = some true → table'.find name = some true := by
  have admissible : Admissibles feature body :=
    admissibles_of_nameds registered body_named
  obtain ⟨table, expanded, recorded⟩ := expand_records body [] admissible
  obtain ⟨table', expanded', recorded'⟩ :=
    expand_records body [] (admissible.extend extends_)
  refine ⟨_, table, _, table', expand_money expanded, expand_money expanded',
    ?_, ?_, ?_⟩
  · rw [outlines_append, outlines_append, outlines_renders, outlines_renders]
    rfl
  · rw [verbatims_append, verbatims_append, verbatims_renders,
      verbatims_renders, if_pos rfl, if_pos rfl, ← verbatims_specifics,
      ← verbatims_specifics]
    exact (specifics_within extends_ body).verbatims.append (.refl _)
  · intro name available
    rw [find_table recorded] at available
    rw [find_table recorded']
    obtain ⟨conds, external, holds⟩ := Option.map_eq_some_iff.mp available
    rw [external, Option.map_some, holding]
    refine congrArg some (List.all_eq_true.mpr fun cond member => ?_)
    exact Cond.holds_extend extends_ (List.all_eq_true.mp holds cond member)

end Expansions

/-- A platform whose compiler accepts more, or a build with fewer features
disabled, takes nothing away: Specific has all it had before, in place, up to the
names of constructors marked `[@have]`; All has the same modules and values, the
externals that were verbatim still are, and what `have` called available it
still calls so. -/
theorem extUnix_grows {ccompType : String}
    {cTest cTest' : List String → String → Bool}
    {disabled disabled' : List String}
    (compiles : ∀ flags code, cTest flags code = true →
      cTest' flags code = true)
    (enables : ∀ name ∈ disabled', name ∈ disabled) :
    ∃ results results',
      discoverAll ccompType cTest disabled features = .ok results ∧
      discoverAll ccompType cTest' disabled' features = .ok results' ∧
      (∃ specific after specific' after',
        expand (showMl results) false extUnix [] = .ok (specific, after) ∧
        expand (showMl results') false extUnix [] = .ok (specific', after') ∧
        Within (forgets specific) (forgets specific')) ∧
      ∃ all table all' table',
        expand (showMl results) true extUnix [] = .ok (all, table) ∧
        expand (showMl results') true extUnix [] = .ok (all', table') ∧
        outlines all = outlines all' ∧
        (verbatims all).Sublist (verbatims all') ∧
        ∀ name, table.find name = some true →
          table'.find name = some true := by
  have extends_ := @outcomes_extend ccompType _ _ _ _ compiles enables
  exact ⟨_, _, discoverAll_eq features_wellFormed,
    discoverAll_eq features_wellFormed,
    extUnix_specific_within extends_ outcomes_registered,
    extUnix_all_within extends_ outcomes_registered⟩

/-- `--disable-statvfs`, and the build without it. -/
theorem extUnix_grows_statvfs : ∃ results results',
    discoverAll "cc" linuxTest ["STATVFS"] features = .ok results ∧
    discoverAll "cc" linuxTest [] features = .ok results' ∧
    ∃ specific after specific' after',
      expand (showMl results) false extUnix [] = .ok (specific, after) ∧
      expand (showMl results') false extUnix [] = .ok (specific', after') ∧
      Within (forgets specific) (forgets specific') := by
  obtain ⟨results, results', found, found', specific, -⟩ :=
    @extUnix_grows "cc" linuxTest linuxTest ["STATVFS"] []
      (fun _ _ accepted => accepted) (by simp)
  exact ⟨results, results', found, found', specific⟩

end ExtUnix.Linkage
