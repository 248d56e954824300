import ExtUnix.Discover.Emission
import ExtUnix.Discover.Features
import Mathlib.Data.List.Forall2

namespace ExtUnix.Discover

open ExtUnix.Cpp

/-! Discovery. -/

def Test.alternatives : Test → List (List Arg)
  | .L args => [args]
  | .ANY alternatives => alternatives

structure WellFormed (features : List (String × Test)) : Prop where
  distinct : (features.map Prod.fst).Nodup
  identifiers : ∀ feature ∈ features, Identifier feature.1
  short : ∀ feature ∈ features, feature.1.utf8ByteSize ≤ 20
  nonempty : ∀ feature ∈ features, feature.2.alternatives ≠ []
  unreserved : ∀ feature ∈ features, ∀ args ∈ feature.2.alternatives,
    Unreserved args

theorem features_wellFormed : WellFormed features where
  distinct := by decide +kernel
  identifiers := by decide +kernel
  short := by decide +kernel
  nonempty := by decide +kernel
  unreserved := by decide +kernel

section Discovery

variable {ccompType : String} {cTest : List String → String → Bool}
  {disabled : List String}

def outcome (ccompType : String) (cTest : List String → String → Bool)
    (disabled : List String) (feature : String × Test) : Result :=
  if feature.1 ∈ disabled then .NO feature.1
  else
    match feature.2.alternatives.find? (accepts ccompType cTest) with
    | some args => .YES feature.1 args (getLdlibs ccompType args)
    | none => .NO feature.1

theorem discoverLoop_eq (name : String) (args : List Arg)
    (others : List (List Arg)) :
    discoverLoop ccompType cTest name args others =
      match (args :: others).find? (accepts ccompType cTest) with
      | some args => .YES name args (getLdlibs ccompType args)
      | none => .NO name := by
  induction others generalizing args with
  | nil =>
      rw [discoverLoop]
      cases accepted : accepts ccompType cTest args <;>
        simp [List.find?, accepted]
  | cons next rest induction =>
      rw [discoverLoop, induction]
      cases accepted : accepts ccompType cTest args <;>
        simp [List.find?_cons, accepted]

theorem discover_eq {feature : String × Test}
    (short : feature.1.utf8ByteSize ≤ 20)
    (nonempty : feature.2.alternatives ≠ []) :
    discover ccompType cTest disabled feature =
      .ok (outcome ccompType cTest disabled feature) := by
  obtain ⟨name, test⟩ := feature
  simp only [discover, outcome]
  rw [if_neg (Nat.not_lt.mpr short)]
  split_ifs with isDisabled
  · rfl
  · cases test with
    | L args => exact congrArg Except.ok (discoverLoop_eq name args [])
    | ANY alternatives =>
        cases alternatives with
        | nil => exact absurd rfl nonempty
        | cons args others =>
            exact congrArg Except.ok (discoverLoop_eq name args others)

theorem discoverAll_eq {features : List (String × Test)}
    (wellFormed : WellFormed features) :
    discoverAll ccompType cTest disabled features =
      .ok (features.map (outcome ccompType cTest disabled)) := by
  obtain ⟨-, -, short, nonempty, -⟩ := wellFormed
  rw [discoverAll]
  induction features with
  | nil => rfl
  | cons feature rest induction =>
      have tail := induction
        (fun later member => short later (by simp [member]))
        (fun later member => nonempty later (by simp [member]))
      rw [List.mapM_cons, discover_eq (short feature (by simp))
        (nonempty feature (by simp)), tail]
      rfl

theorem outcome_name (feature : String × Test) :
    (outcome ccompType cTest disabled feature).name = feature.1 := by
  rw [outcome]
  split_ifs
  · rfl
  · split <;> rfl

theorem outcome_args {feature : String × Test} {property : List Arg → Prop}
    (nothing : property [])
    (alternatives : ∀ args ∈ feature.2.alternatives, property args) :
    property (outcome ccompType cTest disabled feature).args := by
  rw [outcome]
  split_ifs
  · exact nothing
  · split
    · rename_i args found
      exact alternatives args (List.mem_of_find?_eq_some found)
    · exact nothing

structure Consistent (results : List Result) : Prop where
  distinct : (results.map Result.name).Nodup
  identifiers : ∀ result ∈ results, Identifier result.name
  unreserved : ∀ result ∈ results, Unreserved result.args

theorem outcomes_name (ccompType : String)
    (cTest : List String → String → Bool) (disabled : List String)
    (features : List (String × Test)) :
    (features.map (outcome ccompType cTest disabled)).map Result.name =
      features.map Prod.fst := by
  rw [List.map_map]
  exact List.map_congr_left fun feature _ => outcome_name feature

theorem WellFormed.consistent {features : List (String × Test)}
    (wellFormed : WellFormed features) :
    Consistent (features.map (outcome ccompType cTest disabled)) where
  distinct := by
    rw [outcomes_name]
    exact wellFormed.distinct
  identifiers := List.forall_mem_map.mpr fun feature member =>
    (outcome_name feature).symm ▸ wellFormed.identifiers feature member
  unreserved := List.forall_mem_map.mpr fun feature member =>
    outcome_args (by simp [Unreserved]) (wellFormed.unreserved feature member)

end Discovery

theorem foldl_available {results : List Result} {name : String}
    {before : Prop} (absent : name ∉ results.map Result.name) :
    results.foldl (fun before result =>
      if name = result.name then result.available = true else before)
      before = before := by
  induction results generalizing before with
  | nil => rfl
  | cons result rest induction =>
      simp only [List.map_cons, List.mem_cons, not_or] at absent
      rw [List.foldl_cons, if_neg absent.1, induction absent.2]

theorem foldl_available_iff {results : List Result} (name : String)
    (distinct : (results.map Result.name).Nodup) :
    results.foldl (fun before result =>
      if name = result.name then result.available = true else before) False ↔
      showMl results name = some true := by
  induction results with
  | nil => simp [showMl]
  | cons result rest induction =>
      obtain ⟨absent, restDistinct⟩ := List.nodup_cons.mp distinct
      rw [List.foldl_cons]
      by_cases same : name = result.name
      · subst same
        rw [if_pos rfl, foldl_available absent]
        cases result <;> simp [showMl, Result.name, Result.available]
      · rw [if_neg same, induction restDistinct]
        cases result <;> simp_all [showMl, Result.name]

theorem showMl_isSome {results : List Result} {name : String} :
    (showMl results name).isSome = true ↔ name ∈ results.map Result.name := by
  induction results with
  | nil => simp [showMl]
  | cons result rest induction =>
      rw [List.map_cons, List.mem_cons, ← induction]
      cases result <;> rw [showMl, Result.name] <;> split_ifs with same <;>
        simp [same]

theorem showMl_eq_true {results : List Result} {name : String}
    (distinct : (results.map Result.name).Nodup) :
    showMl results name = some true ↔
      ∃ result ∈ results, result.name = name ∧ result.available = true := by
  induction results with
  | nil => simp [showMl]
  | cons result rest induction =>
      obtain ⟨absent, restDistinct⟩ := List.nodup_cons.mp distinct
      rw [List.exists_mem_cons_iff]
      by_cases same : result.name = name
      · have nothing :
            ¬∃ later ∈ rest, later.name = name ∧ later.available = true := by
          rintro ⟨later, member, named, -⟩
          rw [← same] at named
          exact absent (named ▸ List.mem_map_of_mem member)
        rw [or_iff_left nothing]
        cases result <;>
          simp_all [showMl, Result.name, Result.available]
      · rw [← induction restDistinct, or_iff_right fun found => same found.1]
        cases result <;>
          exact iff_of_eq (congrArg (· = some true) (if_neg (Ne.symm same)))

/-- The lines of `config.h` that no test program has. -/
def Aside (wanted : List String) (results : List Result)
    (directive : Directive) : Prop :=
  (∃ text ∈ uerrorAliases, directive = .define text) ∨
    directive = .includeLocal "common.h" ∨
    ∃ result ∈ results, result.Generates wanted directive

/-- The lines that reach the compiler: the wanted definitions before any
header, and the wanted headers after `common.h`. -/
structure Preprocessed (wanted : List String) (results : List Result)
    (emitted tail : List Directive) : Prop where
  emitted : emitted = configDefines.map .define ++
    (results.flatMap fun result =>
      getDefines (result.wantedArgs wanted)).map .define ++
    configIncludes.map .includeSystem ++ tail
  includes : tail.filter Directive.isInclude = .includeLocal "common.h" ::
    (results.flatMap fun result =>
      getIncludes (result.wantedArgs wanted)).map .includeSystem
  others : ∀ directive ∈ tail, directive.isSystemInclude = true ∨
    Aside wanted results directive

section Preprocessing

variable {env : Environment} {state : State} {wanted : List String}
  {results : List Result}

theorem emits_showUerror (outermost : state.stack = []) :
    ∃ part, Emits env state showUerror part ∧
      ∀ directive ∈ part, ∃ text ∈ uerrorAliases, directive = .define text := by
  have block := Emits.guarded outermost
    (show (Directive.if_ (.raw "OCAML_VERSION < 50100")).opens = true from rfl)
    (balanced_map fun _ => rfl)
    (@emits_defines env state uerrorAliases outermost (by decide))
  refine ⟨_, block, ?_⟩
  intro directive member
  split_ifs at member
  · obtain ⟨text, found, rfl⟩ := List.mem_map.mp member
    exact ⟨text, found, rfl⟩
  · cases member

theorem emits_preamble (headers : HeadersUnreserved env)
    (outermost : state.stack = []) (wants : Wants wanted state.macros)
    (unreserved : ∀ result ∈ results, Unreserved result.args) :
    Emits env state
      (.blank :: configDefines.map .define ++ results.flatMap showDefines ++
        .blank :: configIncludes.map .includeSystem)
      (configDefines.map .define ++
        (results.flatMap fun result =>
          getDefines (result.wantedArgs wanted)).map .define ++
        configIncludes.map .includeSystem) := by
  have defines := (@emits_blank env state outermost).append
    (@emits_defines env _ configDefines outermost (by decide))
  have wantedDefines := defines.append
    (emits_allDefines defines.stack (wants.same defines.same) unreserved)
  have blank := wantedDefines.append (emits_blank wantedDefines.stack)
  have includes := blank.append
    (emits_includes headers configIncludes blank.stack)
  rw [List.append_nil] at includes
  have lines : [Directive.blank] ++ configDefines.map Directive.define ++
      results.flatMap showDefines ++ [.blank] ++
      configIncludes.map .includeSystem =
        .blank :: configDefines.map .define ++ results.flatMap showDefines ++
          .blank :: configIncludes.map .includeSystem := by
    simp only [List.append_assoc, List.cons_append, List.nil_append]
  rw [lines] at includes
  exact includes

theorem emits_common (headers : HeadersUnreserved env)
    (outermost : state.stack = []) :
    ∃ part, Emits env state
      (showUerror ++ [.blank, .includeLocal "common.h"])
      (part ++ [.includeLocal "common.h"]) ∧
      ∀ directive ∈ part, ∃ text ∈ uerrorAliases, directive = .define text := by
  obtain ⟨part, aliases, allowed⟩ := @emits_showUerror env state outermost
  have blank := aliases.append (emits_blank aliases.stack)
  have common := blank.append
    (@emits_include env _ headers blank.stack _ "common.h" (.inr rfl))
  rw [List.append_assoc, List.append_nil] at common
  exact ⟨part, common, allowed⟩

theorem run_showC (headers : HeadersUnreserved env)
    (outermost : state.stack = []) (wants : Wants wanted state.macros)
    (consistent : Consistent results) :
    (run env state (showC results)).stack = [] ∧
    (∃ part tail,
      (run env state (showC results)).emitted = state.emitted ++ part ∧
      Preprocessed wanted results part tail) ∧
    ∀ name, haveSymbol name ∈ (run env state (showC results)).macros ↔
      results.foldl (fun before result =>
        if name = result.name then result.available = true else before)
        (haveSymbol name ∈ state.macros) := by
  have preamble := emits_preamble headers outermost wants consistent.unreserved
  obtain ⟨aliases, common, allowed⟩ := emits_common headers preamble.stack
  have half := preamble.append common
  obtain ⟨part, declares⟩ := declares_allHave headers half.stack
    (wants.same half.same) consistent.identifiers consistent.unreserved
  have ran : run env state (showC results) = run env (run env state
      (.blank :: configDefines.map .define ++ results.flatMap showDefines ++
        .blank :: configIncludes.map .includeSystem ++
        (showUerror ++ [.blank, .includeLocal "common.h"])))
      (results.flatMap showHave) := by
    rw [← run_append]
    have lines : showC results = .blank :: configDefines.map .define ++
        results.flatMap showDefines ++
        .blank :: configIncludes.map .includeSystem ++
        (showUerror ++ [.blank, .includeLocal "common.h"]) ++
        results.flatMap showHave ++ [.blank] := by
      simp only [showC, List.append_assoc, List.cons_append, List.nil_append]
    rw [lines, run_append]
    rfl
  rw [ran]
  refine ⟨declares.stack, ⟨_, aliases ++ [.includeLocal "common.h"] ++ part,
    ?_, rfl, ?_, ?_⟩, ?_⟩
  · rw [declares.emitted, half.emitted]
    simp only [List.append_assoc]
  · rw [List.filter_append, List.filter_append, declares.tail.includes,
      filter_defines]
    · rfl
    · intro directive member
      obtain ⟨text, -, rfl⟩ := allowed directive member
      exact ⟨text, rfl⟩
  · intro directive member
    rw [List.append_assoc, List.mem_append, List.mem_append,
      List.mem_singleton] at member
    rcases member with inAliases | common | inPart
    · exact .inr (.inl (allowed directive inAliases))
    · exact .inr (.inr (.inl common))
    · rcases declares.tail.others directive inPart with included | generated
      · have found := List.mem_filter.mpr ⟨inPart, included⟩
        rw [declares.tail.includes] at found
        obtain ⟨header, -, rfl⟩ := List.mem_map.mp found
        exact .inl rfl
      · exact .inr (.inr (.inr generated))
  · intro name
    rw [declares.have_ name, half.same _ (haveSymbol_reserved name)]

end Preprocessing

/-- The result for a feature: the first alternative that compiles, unless the
feature is disabled. -/
structure Found (ccompType : String) (cTest : List String → String → Bool)
    (disabled : List String) (feature : String × Test) (result : Result) :
    Prop where
  name : result.name = feature.1
  available : result.available = true ↔ feature.1 ∉ disabled ∧
    ∃ args ∈ feature.2.alternatives,
      cTest (getLdlibs ccompType args) (buildCode args) = true
  first : result.available = true → ∃ before args after,
    feature.2.alternatives = before ++ args :: after ∧
    (∀ earlier ∈ before,
      cTest (getLdlibs ccompType earlier) (buildCode earlier) = false) ∧
    cTest (getLdlibs ccompType args) (buildCode args) = true ∧
    result = .YES feature.1 args (getLdlibs ccompType args)

theorem outcome_found (ccompType : String)
    (cTest : List String → String → Bool) (disabled : List String)
    (feature : String × Test) :
    Found ccompType cTest disabled feature
      (outcome ccompType cTest disabled feature) := by
  refine ⟨outcome_name feature, ?_, ?_⟩
  · rw [outcome]
    split_ifs with isDisabled
    · simp [Result.available, isDisabled]
    · cases found : feature.2.alternatives.find? (accepts ccompType cTest) with
      | none =>
          rw [List.find?_eq_none] at found
          simp only [Result.available, Bool.false_eq_true, false_iff]
          rintro ⟨-, args, member, accepted⟩
          exact found args member accepted
      | some args =>
          have accepted := List.find?_some found
          simp only [Result.available, true_iff]
          exact ⟨isDisabled, args, List.mem_of_find?_eq_some found, accepted⟩
  · rw [outcome]
    split_ifs with isDisabled
    · intro available
      cases available
    · cases found : feature.2.alternatives.find? (accepts ccompType cTest) with
      | none =>
          intro available
          cases available
      | some args =>
          intro _
          obtain ⟨accepted, before, after, split, rejected⟩ :=
            List.find?_eq_some_iff_append.mp found
          refine ⟨before, args, after, split, ?_, accepted, rfl⟩
          intro earlier member
          simpa [accepts] using rejected earlier member

def configures : Directive → Bool
  | .define _ | .includeSystem _ => true
  | _ => false

/-- The lines emitted are those that set up the test program of a feature, but
for lines that no test program has. -/
def Agrees (args : List Arg) (wanted : List String) (results : List Result)
    (emitted : List Directive) : Prop :=
  ∃ head tail, emitted = head ++ tail ∧
    (buildLines args).filter configures =
      head ++ tail.filter Directive.isSystemInclude ∧
    ∀ directive ∈ tail, directive.isSystemInclude = true ∨
      Aside wanted results directive

theorem buildChecks_unconfigured (fresh : Nat) (args : List Arg) :
    (buildChecks fresh args).filter configures = [] := by
  induction args generalizing fresh with
  | nil => rfl
  | cons arg rest induction =>
      cases arg <;> simp [buildChecks, configures, induction]

theorem buildLines_configures (args : List Arg) :
    (buildLines args).filter configures =
      configDefines.map .define ++ (getDefines args).map .define ++
        configIncludes.map .includeSystem ++
        (getIncludes args).map .includeSystem := by
  have define (texts : List String) :
      (texts.map Directive.define).filter configures =
        texts.map .define :=
    List.filter_eq_self.mpr (by simp [configures])
  have include_ (headers : List String) :
      (headers.map Directive.includeSystem).filter configures =
        headers.map .includeSystem :=
    List.filter_eq_self.mpr (by simp [configures])
  have main : [Directive.line "int main(void) \x7b return 0; \x7d"].filter
      configures = [] := rfl
  simp only [buildLines, List.filter_append, define, include_,
    buildChecks_unconfigured, main, List.append_nil]

theorem flatMap_wantedArgs {results : List Result} {wanted : List String}
    {result : Result} (select : List Arg → List String)
    (selectNil : select [] = []) (distinct : (results.map Result.name).Nodup)
    (member : result ∈ results)
    (single : ∀ name, name ∈ wanted ↔ name = result.name) :
    (results.flatMap fun each => select (each.wantedArgs wanted)) =
      select result.args := by
  induction results with
  | nil => cases member
  | cons head rest induction =>
      obtain ⟨absent, restDistinct⟩ := List.nodup_cons.mp distinct
      rw [List.flatMap_cons]
      rcases List.mem_cons.mp member with rfl | later
      · have nothing : (rest.flatMap fun each =>
            select (each.wantedArgs wanted)) = [] := by
          rw [List.flatMap_eq_nil_iff]
          intro each inRest
          have unwanted : each.name ∉ wanted := by
            rw [single]
            intro same
            exact absent (same ▸ List.mem_map_of_mem inRest)
          rw [Result.wantedArgs, if_neg unwanted, selectNil]
        rw [nothing, List.append_nil, Result.wantedArgs,
          if_pos ((single _).mpr rfl)]
      · have unwanted : head.name ∉ wanted := by
          rw [single]
          intro same
          exact absent (same ▸ List.mem_map_of_mem later)
        rw [Result.wantedArgs, if_neg unwanted, selectNil, List.nil_append]
        exact induction restDistinct later

theorem Preprocessed.agrees {wanted : List String} {results : List Result}
    {emitted tail : List Directive} {result : Result}
    (preprocessed : Preprocessed wanted results emitted tail)
    (distinct : (results.map Result.name).Nodup) (member : result ∈ results)
    (single : ∀ name, name ∈ wanted ↔ name = result.name) :
    Agrees result.args wanted results emitted := by
  obtain ⟨emittedEq, includes, others⟩ := preprocessed
  rw [flatMap_wantedArgs getDefines rfl distinct member single] at emittedEq
  rw [flatMap_wantedArgs getIncludes rfl distinct member single] at includes
  refine ⟨_, tail, emittedEq, ?_, others⟩
  have narrow : tail.filter Directive.isSystemInclude =
      (tail.filter Directive.isInclude).filter Directive.isSystemInclude := by
    rw [List.filter_filter]
    congr 1
    funext directive
    cases directive <;> rfl
  have kept (headers : List String) :
      (headers.map Directive.includeSystem).filter Directive.isSystemInclude =
        headers.map .includeSystem :=
    List.filter_eq_self.mpr (by simp [Directive.isSystemInclude])
  rw [buildLines_configures, narrow, includes,
    List.filter_cons_of_neg (by decide), kept]

end ExtUnix.Discover
