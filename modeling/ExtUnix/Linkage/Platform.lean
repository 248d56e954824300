import ExtUnix.Cpp.Facts
import ExtUnix.Discover.Coherence
import ExtUnix.Linkage.Stubs

namespace ExtUnix.Linkage

open ExtUnix.Cpp ExtUnix.Discover
open Stubs (sources)

/-! The C files, compiled on a platform other than Windows. -/

def Source.compiled (env : Environment) (macros : List String)
    (results : List Result) (source : Source) : List Directive :=
  (run env ⟨[], macros, []⟩ (source.lines results)).emitted

/-- Only `config.h` and the files that include it define the symbols of
`config.h`, and nothing defines `_WIN32`. -/
structure Posix (env : Environment) (macros : List String) : Prop where
  headers : HeadersUnreserved env
  headersPosix : ∀ header macros, "_WIN32" ∉ macros →
    "_WIN32" ∉ env.header header macros
  unreserved : ∀ symbol ∈ macros, ¬Reserved symbol
  posix : "_WIN32" ∉ macros

def facts (known : List (String × Bool)) (symbol : String) : Option Bool :=
  if sameText symbol "_WIN32" then some false
  else known.findSome? fun entry =>
    if sameText (haveSymbol entry.1) symbol then some entry.2 else none

theorem facts_cases {known : List (String × Bool)} {symbol : String}
    {value : Bool} (fact : facts known symbol = some value) :
    (symbol = "_WIN32" ∧ value = false) ∨
      ∃ entry ∈ known, symbol = haveSymbol entry.1 ∧ value = entry.2 := by
  rw [facts] at fact
  split_ifs at fact with windows
  · cases fact
    exact .inl ⟨sameText_iff.mp windows, rfl⟩
  · obtain ⟨entry, member, found⟩ := List.exists_of_findSome?_eq_some fact
    split_ifs at found with same
    cases found
    exact .inr ⟨entry, member, (sameText_iff.mp same).symm, rfl⟩

theorem Posix.respects {env : Environment} {macros : List String}
    (posix : Posix env macros) (known : List (String × Bool)) :
    env.Respects (facts known) := by
  intro header before hold symbol value fact
  have kept := hold symbol value fact
  rcases facts_cases fact with ⟨rfl, rfl⟩ | ⟨entry, -, rfl, -⟩
  · simp only [List.contains_eq_mem, decide_eq_false_iff_not] at kept ⊢
    exact posix.headersPosix header before kept
  · rw [← kept]
    simp only [List.contains_eq_mem,
      posix.headers header before _ (haveSymbol_reserved entry.1)]

def neutral : Directive → Bool
  | .define text =>
      !decide (Reserved (definedSymbol text)) && definedSymbol text != "_WIN32"
  | .undef _ => false
  | _ => true

theorem respects_of_neutral {directive : Directive}
    (isNeutral : neutral directive = true) (known : List (String × Bool)) :
    directive.respects (facts known) = true := by
  cases directive with
  | define text =>
      rw [neutral, Bool.and_eq_true, Bool.not_eq_true', decide_eq_false_iff_not,
        bne_iff_ne] at isNeutral
      rw [Directive.respects, Option.isNone_iff_eq_none,
        Option.eq_none_iff_forall_ne_some]
      intro value fact
      rcases facts_cases fact with ⟨windows, -⟩ | ⟨entry, -, symbol, -⟩
      · exact isNeutral.2 windows
      · exact isNeutral.1 (symbol ▸ haveSymbol_reserved entry.1)
  | undef symbol => cases isNeutral
  | _ => rfl

theorem sources_neutral : ∀ source ∈ sources, ∀ directive ∈ source.rest,
    neutral directive = true := by
  decide +kernel

theorem sources_wants : ∀ source ∈ sources, ∀ name ∈ source.wants,
    Identifier name := by
  decide +kernel

theorem features_posix : ∀ feature ∈ features,
    ∀ args ∈ feature.2.alternatives, ∀ arg ∈ args, ∀ text ∈ arg.definition,
      definedSymbol text ≠ "_WIN32" := by
  decide +kernel

def Source.started (env : Environment) (macros : List String)
    (results : List Result) (source : Source) : State :=
  run env ⟨[], macros, []⟩ (wantLines source.wants ++ showC results)

structure Started (results : List Result) (state : State) : Prop where
  stack : state.stack = []
  have_ : ∀ name, haveSymbol name ∈ state.macros ↔
    showMl results name = some true
  posix : "_WIN32" ∉ state.macros
  fresh : ∀ prim, .line prim ∉ state.emitted

section Files

variable {env : Environment} {macros : List String} {results : List Result}
  {source : Source} {known : List (String × Bool)}

theorem compiled_eq : source.compiled env macros results =
    (run env (source.started env macros results) source.rest).emitted := by
  rw [Source.compiled, Source.lines, run_append]
  rfl

theorem run_wants {names : List String} {state : State}
    (outermost : state.stack = [])
    (identifiers : ∀ name ∈ names, Identifier name) :
    (run env state (wantLines names)).stack = [] ∧
    ∀ symbol, symbol ∈ (run env state (wantLines names)).macros ↔
      symbol ∈ names.map wantSymbol ∨ symbol ∈ state.macros := by
  induction names generalizing state with
  | nil => exact ⟨outermost, by simp [wantLines, run]⟩
  | cons name rest induction =>
      obtain ⟨first, later⟩ := List.forall_mem_cons.mp identifiers
      have symbol : definedSymbol (wantSymbol name) = wantSymbol name :=
        definedSymbol_identifier (wantSymbol_identifier first)
      have stepped : step env state (.define (wantSymbol name)) =
          State.emit { state with macros := wantSymbol name :: state.macros }
            (.define (wantSymbol name)) := by
        rw [step_define (State.active_of_outermost outermost), symbol]
      obtain ⟨stack, macros⟩ := @induction
        (step env state (.define (wantSymbol name)))
        (by rw [stepped]; exact outermost) later
      rw [stepped] at stack macros
      rw [wantLines, List.map_cons, run_cons, stepped]
      refine ⟨stack, fun other => (macros other).trans ?_⟩
      simp only [State.emit, List.mem_cons, List.map_cons]
      tauto

theorem facts_nil (symbol : String) :
    facts [] symbol = if symbol = "_WIN32" then some false else none := by
  simp [facts, sameText_iff]

theorem hold_nil : Hold (facts []) macros ↔ "_WIN32" ∉ macros := by
  constructor
  · intro hold
    simpa using hold "_WIN32" false (facts_nil _)
  · intro absent symbol value fact
    rcases facts_cases fact with ⟨rfl, rfl⟩ | ⟨_, impossible, -⟩
    · simpa using absent
    · cases impossible

theorem respects_nil {text : String}
    (other : definedSymbol text ≠ "_WIN32") :
    (Directive.define text).respects (facts []) = true := by
  simp [Directive.respects, facts_nil, other]

theorem reserved_ne_win32 {symbol : String} (reserved : Reserved symbol) :
    symbol ≠ "_WIN32" := by
  rintro rfl
  exact absurd reserved (by decide)

theorem showC_respects_nil (consistent : Consistent results)
    (definitions : ∀ result ∈ results, ∀ arg ∈ result.args,
      ∀ text ∈ arg.definition, definedSymbol text ≠ "_WIN32") :
    ∀ directive ∈ showC results, directive.respects (facts []) = true := by
  have structural : Structural fun directive =>
      directive.respects (facts []) = true := by
    refine ⟨?_, rfl, rfl, ?_⟩
    · intro directive opens
      cases directive <;> first | rfl | cases opens
    · intro directive included
      cases directive <;> first | rfl | cases included
  apply structural.showC
  · intro text member
    apply respects_nil
    revert text
    decide
  · intro result member
    have other := reserved_ne_win32 (haveSymbol_reserved result.name)
    constructor
    · apply respects_nil
      rw [definedSymbol_identifier (haveSymbol_identifier
        (consistent.identifiers result member))]
      exact other
    · simp [Directive.respects, facts_nil, other]
  · intro result member arg inArgs text defined
    exact respects_nil (definitions result member arg inArgs text defined)

theorem line_not_mem_showC (prim : String) :
    ∀ directive ∈ showC results, directive ≠ .line prim := by
  have structural : Structural fun directive => directive ≠ .line prim := by
    refine ⟨?_, by simp, by simp, ?_⟩
    · rintro _ opens rfl
      cases opens
    · rintro _ included rfl
      cases included
  apply structural.showC
  · simp
  · simp
  · simp

theorem Posix.started (posix : Posix env macros)
    (consistent : Consistent results)
    (definitions : ∀ result ∈ results, ∀ arg ∈ result.args,
      ∀ text ∈ arg.definition, definedSymbol text ≠ "_WIN32")
    (identifiers : ∀ name ∈ source.wants, Identifier name) :
    Started results (source.started env macros results) := by
  obtain ⟨wantStack, wantMacros⟩ :=
    @run_wants env source.wants ⟨[], macros, []⟩ rfl identifiers
  have foreign {symbol : String} (reserved : Reserved symbol) :
      symbol ∉ macros :=
    fun member => posix.unreserved symbol member reserved
  have wants : Wants source.wants (run env ⟨[], macros, []⟩
      (wantLines source.wants)).macros := by
    intro name
    rw [wantMacros, or_iff_left (foreign (wantSymbol_reserved name))]
    simp [wantSymbol_inj]
  have unset (name : String) : haveSymbol name ∉ (run env ⟨[], macros, []⟩
      (wantLines source.wants)).macros := by
    rw [wantMacros, or_iff_left (foreign (haveSymbol_reserved name))]
    simp [(haveSymbol_ne_wantSymbol name _).symm]
  obtain ⟨stack, -, defined⟩ := run_showC posix.headers wantStack wants
    consistent
  rw [← run_append] at stack defined
  refine ⟨stack, ?_, ?_, ?_⟩
  · intro name
    rw [Source.started, defined, ← foldl_available_iff name consistent.distinct,
      eq_false (unset name)]
  · rw [← hold_nil]
    apply Hold.run (posix.respects [])
    · rw [List.forall_mem_append, wantLines, List.forall_mem_map]
      refine ⟨fun name member => ?_, showC_respects_nil consistent definitions⟩
      apply respects_nil
      rw [definedSymbol_identifier (wantSymbol_identifier
        (identifiers name member))]
      exact reserved_ne_win32 (wantSymbol_reserved name)
    · exact hold_nil.mpr posix.posix
  · intro prim member
    rcases run_emitted_mem member with impossible | inLines
    · cases impossible
    · rcases List.mem_append.mp inLines with wanted | inConfig
      · obtain ⟨name, -, impossible⟩ := List.mem_map.mp wanted
        cases impossible
      · exact line_not_mem_showC prim _ inConfig rfl

theorem Started.tracks {state : State} (started : Started results state)
    (agrees : ∀ entry ∈ known,
      (showMl results entry.1 = some true ↔ entry.2 = true)) :
    Tracks (facts known) [] state := by
  refine ⟨started.stack ▸ .nil, ?_⟩
  intro symbol value fact
  rcases facts_cases fact with ⟨rfl, rfl⟩ | ⟨entry, member, rfl, rfl⟩
  · simpa using started.posix
  · rw [List.contains_eq_mem, Bool.eq_iff_iff, decide_eq_true_iff,
      started.have_, agrees entry member]

end Files

end ExtUnix.Linkage
