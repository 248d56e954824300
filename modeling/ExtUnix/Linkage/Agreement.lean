import ExtUnix.Linkage.Expanded
import ExtUnix.Linkage.Platform

namespace ExtUnix.Linkage

open ExtUnix.Cpp ExtUnix.Discover ExtUnix.Ppx
open Bindings (extUnix body)
open Stubs (sources)

/-! The two sides of the library. -/

def runtime : List String := ["caml_sys_exit"]

def Provided (env : Environment) (macros : List String)
    (results : List Result) (prim : String) : Prop :=
  prim ∈ runtime ∨
    ∃ source ∈ sources, .line prim ∈ source.compiled env macros results

/-- Both modules expand, and every external they keep can be linked. -/
def Linked (env : Environment) (macros : List String)
    (results : List Result) : Prop :=
  ∀ all, ∃ output funcs,
    expand (showMl results) all extUnix [] = .ok (output, funcs) ∧
    ∀ external ∈ verbatims output, ∀ prim ∈ external.prims,
      Provided env macros results prim

def ways : List Cond → List (List String)
  | [] => [[]]
  | cond :: rest =>
      match cond.disjunction with
      | .ok disjunction => disjunction.flatMap fun conjunction =>
          (ways rest).map (conjunction ++ ·)
      | .error _ => []

theorem holds_iff_ways {feature : String → Option Bool} {conds : List Cond} :
    (∀ cond ∈ conds, cond.holds feature = true) ↔
      ∃ way ∈ ways conds, ∀ name ∈ way, feature name = some true := by
  induction conds with
  | nil => simp [ways]
  | cons cond rest induction =>
      rw [List.forall_mem_cons, induction, ways, Cond.holds]
      cases cond.disjunction with
      | error message => simp
      | ok disjunction =>
          simp only [List.any_eq_true, List.all_eq_true, beq_iff_eq,
            List.mem_flatMap, List.mem_map]
          constructor
          · rintro ⟨⟨conjunction, inCond, first⟩, way, inRest, later⟩
            exact ⟨_, ⟨conjunction, inCond, way, inRest, rfl⟩,
              List.forall_mem_append.mpr ⟨first, later⟩⟩
          · rintro ⟨_, ⟨conjunction, inCond, way, inRest, rfl⟩, both⟩
            obtain ⟨first, later⟩ := List.forall_mem_append.mp both
            exact ⟨⟨conjunction, inCond, first⟩, way, inRest, later⟩

/-- A way, with `STATVFS` added where `FSTATVFS` is used. -/
def assumed (way : List String) : List String :=
  if "FSTATVFS" ∈ way then "STATVFS" :: way else way

def providedWhen (known : List (String × Bool)) (prim : String) : Bool :=
  sources.any fun source =>
    (fates (facts known) prim [] source.rest).contains (some true)

def checked (entry : List Cond × External) : Bool :=
  entry.2.prims.all fun prim => runtime.contains prim ||
    (ways entry.1).all fun way =>
      providedWhen ((assumed way).map (·, true)) prim

theorem body_checked : (guardeds body).all checked = true := by
  decide +kernel

theorem fstatvfs_skipped : ∀ source ∈ sources,
    ∀ fate ∈ fates (facts [("FSTATVFS", true), ("STATVFS", false)])
      "caml_extunix_fstatvfs" [] source.rest, fate = some false := by
  decide +kernel

theorem fstatvfs_guarded : ∃ entry ∈ guardeds body,
    "caml_extunix_fstatvfs" ∈ entry.2.prims ∧
      ways entry.1 = [["FSTATVFS"]] := by
  have found : (guardeds body).any (fun entry =>
      entry.2.prims.contains "caml_extunix_fstatvfs" &&
        ways entry.1 == [["FSTATVFS"]]) = true := by
    decide +kernel
  obtain ⟨entry, member, matched⟩ := List.any_eq_true.mp found
  rw [Bool.and_eq_true, beq_iff_eq] at matched
  exact ⟨entry, member, by simpa using matched.1, matched.2⟩

section Agreement

variable {env : Environment} {macros : List String} {results : List Result}
  {known : List (String × Bool)} {prim : String}

theorem provided_of_providedWhen (posix : Posix env macros)
    (started : ∀ source ∈ sources,
      Started results (source.started env macros results))
    (agrees : ∀ entry ∈ known,
      (showMl results entry.1 = some true ↔ entry.2 = true))
    (provided : providedWhen known prim = true) :
    Provided env macros results prim := by
  obtain ⟨source, member, fate⟩ := List.any_eq_true.mp provided
  refine .inr ⟨source, member, ?_⟩
  rw [compiled_eq]
  exact emitted_of_fates (posix.respects known)
    (fun directive inRest =>
      respects_of_neutral (sources_neutral source member directive inRest) known)
    ((started source member).tracks agrees) (by simpa using fate)

theorem not_provided_of_fates (posix : Posix env macros)
    (started : ∀ source ∈ sources,
      Started results (source.started env macros results))
    (agrees : ∀ entry ∈ known,
      (showMl results entry.1 = some true ↔ entry.2 = true))
    (fate : ∀ source ∈ sources,
      ∀ fate ∈ fates (facts known) prim [] source.rest, fate = some false)
    (foreign : prim ∉ runtime) : ¬Provided env macros results prim := by
  rintro (own | ⟨source, member, compiled⟩)
  · exact foreign own
  · rw [compiled_eq] at compiled
    exact not_emitted_of_fates (posix.respects known)
      (fun directive inRest => respects_of_neutral
        (sources_neutral source member directive inRest) known)
      ((started source member).tracks agrees) (fate source member)
      ((started source member).fresh prim) compiled

theorem checked_provided (posix : Posix env macros)
    (started : ∀ source ∈ sources,
      Started results (source.started env macros results))
    (implied : showMl results "FSTATVFS" = some true →
      showMl results "STATVFS" = some true)
    {entry : List Cond × External} (isChecked : checked entry = true)
    (holds : ∀ cond ∈ entry.1, cond.holds (showMl results) = true)
    (member : prim ∈ entry.2.prims) : Provided env macros results prim := by
  have check := List.all_eq_true.mp isChecked prim member
  rw [Bool.or_eq_true] at check
  rcases check with own | others
  · exact .inl (by simpa using own)
  · obtain ⟨way, inWays, available⟩ := holds_iff_ways.mp holds
    apply provided_of_providedWhen posix started _
      (List.all_eq_true.mp others way inWays)
    rw [List.forall_mem_map]
    intro name inAssumed
    have found : showMl results name = some true := by
      rw [assumed] at inAssumed
      split_ifs at inAssumed with uses
      · rcases List.mem_cons.mp inAssumed with rfl | inWay
        · exact implied (available _ uses)
        · exact available name inWay
      · exact available name inAssumed
    simp [found]

/-- `fstatvfs` without `statvfs` is kept by both modules, and compiled by no
file. -/
theorem fstatvfs_unlinked (posix : Posix env macros)
    (started : ∀ source ∈ sources,
      Started results (source.started env macros results))
    (registered : ∀ name ∈ features.map Prod.fst,
      (showMl results name).isSome = true)
    (available : showMl results "FSTATVFS" = some true)
    (missing : showMl results "STATVFS" ≠ some true) (all : Bool) :
    ∃ output funcs,
      expand (showMl results) all extUnix [] = .ok (output, funcs) ∧
      ∃ external ∈ verbatims output,
        "caml_extunix_fstatvfs" ∈ external.prims ∧
        ¬Provided env macros results "caml_extunix_fstatvfs" := by
  obtain ⟨entry, member, inPrims, only⟩ := fstatvfs_guarded
  obtain ⟨output, funcs, expanded, same⟩ := extUnix_verbatims registered all
  refine ⟨output, funcs, expanded, entry.2, ?_, inPrims, ?_⟩
  · rw [same, mem_enabled]
    refine ⟨entry.1, member, holds_iff_ways.mpr ⟨["FSTATVFS"], ?_, ?_⟩⟩
    · simp [only]
    · simp [available]
  · apply not_provided_of_fates posix started _ fstatvfs_skipped (by decide)
    simp [available, missing]

theorem linked_iff (posix : Posix env macros)
    (started : ∀ source ∈ sources,
      Started results (source.started env macros results))
    (registered : ∀ name ∈ features.map Prod.fst,
      (showMl results name).isSome = true) :
    Linked env macros results ↔
      (showMl results "FSTATVFS" = some true →
        showMl results "STATVFS" = some true) := by
  constructor
  · intro linked available
    by_contra missing
    obtain ⟨output, funcs, expanded, provided⟩ := linked true
    obtain ⟨_, _, again, external, kept, member, unprovided⟩ :=
      fstatvfs_unlinked posix started registered available missing true
    cases expanded.symm.trans again
    exact unprovided (provided external kept _ member)
  · intro implied all
    obtain ⟨output, funcs, expanded, same⟩ := extUnix_verbatims registered all
    refine ⟨output, funcs, expanded, ?_⟩
    intro external kept prim member
    rw [same, mem_enabled] at kept
    obtain ⟨conds, guarded, holds⟩ := kept
    exact checked_provided posix started implied
      (List.all_eq_true.mp body_checked _ guarded) holds member

end Agreement

def Detected (ccompType : String) (cTest : List String → String → Bool)
    (disabled : List String) (name : String) : Prop :=
  name ∉ disabled ∧ ∃ feature ∈ features, feature.1 = name ∧
    ∃ args ∈ feature.2.alternatives,
      cTest (getLdlibs ccompType args) (buildCode args) = true

theorem showMl_detected (ccompType : String)
    (cTest : List String → String → Bool) (disabled : List String)
    (name : String) :
    showMl (features.map (outcome ccompType cTest disabled)) name =
      some true ↔ Detected ccompType cTest disabled name := by
  have consistent := @WellFormed.consistent ccompType cTest disabled features
    features_wellFormed
  rw [showMl_eq_true consistent.distinct]
  constructor
  · rintro ⟨result, inResults, rfl, available⟩
    obtain ⟨feature, member, rfl⟩ := List.mem_map.mp inResults
    have found := outcome_found ccompType cTest disabled feature
    obtain ⟨enabled, accepted⟩ := found.available.mp available
    rw [found.name]
    exact ⟨enabled, feature, member, rfl, accepted⟩
  · rintro ⟨enabled, feature, member, rfl, accepted⟩
    have found := outcome_found ccompType cTest disabled feature
    exact ⟨_, List.mem_map_of_mem member, found.name,
      found.available.mpr ⟨enabled, accepted⟩⟩

section Configurations

variable {env : Environment} {macros : List String} {ccompType : String}
  {cTest : List String → String → Bool} {disabled : List String}

theorem outcomes_registered : ∀ name ∈ features.map Prod.fst,
    (showMl (features.map (outcome ccompType cTest disabled)) name).isSome =
      true := by
  intro name member
  rw [showMl_isSome, outcomes_name]
  exact member

theorem outcomes_started (posix : Posix env macros) :
    ∀ source ∈ sources,
      Started (features.map (outcome ccompType cTest disabled))
        (source.started env macros
          (features.map (outcome ccompType cTest disabled))) := by
  intro source member
  apply posix.started features_wellFormed.consistent _
    (sources_wants source member)
  rw [List.forall_mem_map]
  intro feature inFeatures
  exact outcome_args (by simp) (features_posix feature inFeatures)

end Configurations

/-- On a platform other than Windows, every external kept by either module has
its primitives compiled, unless `FSTATVFS` is found and `STATVFS` is not. -/
theorem guards_agree_iff {env : Environment} {macros : List String}
    (posix : Posix env macros) (ccompType : String)
    (cTest : List String → String → Bool) (disabled : List String) :
    ∃ results, discoverAll ccompType cTest disabled features = .ok results ∧
      (Linked env macros results ↔
        (Detected ccompType cTest disabled "FSTATVFS" →
          Detected ccompType cTest disabled "STATVFS")) := by
  refine ⟨_, discoverAll_eq features_wellFormed, ?_⟩
  rw [linked_iff posix (outcomes_started posix) outcomes_registered,
    showMl_detected, showMl_detected]

/-! A platform where every test that needs nothing of Windows compiles. -/

def linux : Environment := ⟨fun _ _ => false, fun _ macros => macros⟩

theorem linux_posix : Posix linux ["__linux__"] where
  headers := fun _ _ => .refl _
  headersPosix := fun _ _ absent => absent
  unreserved := by decide
  posix := by decide

def windowsOnly (arg : Arg) : Bool :=
  [.D "_WIN32", .I "windows.h", .I "winsock2.h"].contains arg

def linuxTest (_ : List String) (code : String) : Bool :=
  features.any fun feature => feature.2.alternatives.any fun args =>
    !args.any windowsOnly && code == buildCode args

theorem linuxTest_accepts {feature : String × Test} {args : List Arg}
    (member : feature ∈ features) (alternative : args ∈ feature.2.alternatives)
    (portable : args.any windowsOnly = false) (flags : List String) :
    linuxTest flags (buildCode args) = true := by
  rw [linuxTest, List.any_eq_true]
  refine ⟨feature, member, List.any_eq_true.mpr ⟨args, alternative, ?_⟩⟩
  simp [portable]

theorem linux_detects {disabled : List String} {name : String}
    (enabled : name ∉ disabled)
    (portable : ∃ feature ∈ features, feature.1 = name ∧
      ∃ args ∈ feature.2.alternatives, args.any windowsOnly = false) :
    Detected "cc" linuxTest disabled name := by
  obtain ⟨feature, member, named, args, alternative, isPortable⟩ := portable
  exact ⟨enabled, feature, member, named, args, alternative,
    linuxTest_accepts member alternative isPortable _⟩

theorem guards_agree_iff_linux : ∃ results,
    discoverAll "cc" linuxTest [] features = .ok results ∧
      Linked linux ["__linux__"] results := by
  obtain ⟨results, found, agree⟩ :=
    guards_agree_iff linux_posix "cc" linuxTest []
  refine ⟨results, found, agree.mpr fun _ => ?_⟩
  exact linux_detects (by decide) (by decide +kernel)

/-- With `--disable-statvfs`, both modules keep `fstatvfs`, whose primitive is
then in no object file. -/
theorem guards_disagree_disable_statvfs : ∃ results,
    discoverAll "cc" linuxTest ["STATVFS"] features = .ok results ∧
      ¬Linked linux ["__linux__"] results ∧
      ∀ all, ∃ output funcs,
        expand (showMl results) all extUnix [] = .ok (output, funcs) ∧
        ∃ external ∈ verbatims output,
          "caml_extunix_fstatvfs" ∈ external.prims ∧
          ¬Provided linux ["__linux__"] results "caml_extunix_fstatvfs" := by
  have available : Detected "cc" linuxTest ["STATVFS"] "FSTATVFS" :=
    linux_detects (by decide) (by decide +kernel)
  have missing : ¬Detected "cc" linuxTest ["STATVFS"] "STATVFS" :=
    fun detected => detected.1 (List.mem_singleton_self _)
  refine ⟨_, discoverAll_eq features_wellFormed, ?_, ?_⟩
  · rw [linked_iff linux_posix (outcomes_started linux_posix)
      outcomes_registered, showMl_detected, showMl_detected]
    exact fun implied => missing (implied available)
  · rw [← showMl_detected] at available missing
    exact fstatvfs_unlinked linux_posix (outcomes_started linux_posix)
      outcomes_registered available missing

end ExtUnix.Linkage
