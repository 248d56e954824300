import ExtUnix.Discover.Config
import Mathlib.Data.List.TakeWhile

namespace ExtUnix.Discover

open ExtUnix.Cpp

/-! Symbols that only `config.h` and the files that include it may define. -/

def Reserved (symbol : String) : Prop :=
  "EXTUNIX_HAVE_".toList <+: symbol.toList ∨
    "EXTUNIX_WANT_".toList <+: symbol.toList

instance (symbol : String) : Decidable (Reserved symbol) :=
  inferInstanceAs (Decidable (_ ∨ _))

theorem haveSymbol_reserved (name : String) : Reserved (haveSymbol name) := by
  left
  rw [haveSymbol, String.toList_append]
  exact List.prefix_append _ _

theorem wantSymbol_reserved (name : String) : Reserved (wantSymbol name) := by
  right
  rw [wantSymbol, String.toList_append]
  exact List.prefix_append _ _

theorem haveSymbol_inj {first second : String} :
    haveSymbol first = haveSymbol second ↔ first = second := by
  simp [haveSymbol, ← String.toList_inj]

theorem wantSymbol_inj {first second : String} :
    wantSymbol first = wantSymbol second ↔ first = second := by
  simp [wantSymbol, ← String.toList_inj]

theorem haveSymbol_ne_wantSymbol (first second : String) :
    haveSymbol first ≠ wantSymbol second := by
  intro equal
  have chars := congrArg (fun symbol : String => symbol.toList[8]?) equal
  simp [haveSymbol, wantSymbol, String.toList_append] at chars

def Identifier (name : String) : Prop := name.toList.all identifierChar = true

instance (name : String) : Decidable (Identifier name) :=
  inferInstanceAs (Decidable (_ = _))

theorem definedSymbol_identifier {symbol : String}
    (identifier : Identifier symbol) : definedSymbol symbol = symbol := by
  have chars := List.all_eq_true.mp identifier
  have unspaced : symbol.toList.dropWhile (· == ' ') = symbol.toList := by
    rw [List.dropWhile_eq_self_iff]
    intro nonempty space
    have first := chars _ (List.getElem_mem nonempty)
    rw [beq_iff_eq.mp space] at first
    exact absurd first (by decide)
  rw [definedSymbol, unspaced, List.takeWhile_eq_self_iff.mpr chars,
    String.ofList_toList]

theorem haveSymbol_identifier {name : String} (identifier : Identifier name) :
    Identifier (haveSymbol name) := by
  rw [Identifier, haveSymbol, String.toList_append, List.all_append, identifier,
    Bool.and_true]
  decide

theorem wantSymbol_identifier {name : String} (identifier : Identifier name) :
    Identifier (wantSymbol name) := by
  rw [Identifier, wantSymbol, String.toList_append, List.all_append, identifier,
    Bool.and_true]
  decide

def SameReserved (first second : List String) : Prop :=
  ∀ symbol, Reserved symbol → (symbol ∈ first ↔ symbol ∈ second)

theorem SameReserved.refl (macros : List String) : SameReserved macros macros :=
  fun _ _ => Iff.rfl

theorem SameReserved.trans {first second third : List String}
    (left : SameReserved first second) (right : SameReserved second third) :
    SameReserved first third :=
  fun symbol reserved => (left symbol reserved).trans (right symbol reserved)

def HeadersUnreserved (env : Environment) : Prop :=
  ∀ header macros, SameReserved (env.header header macros) macros

/-- What lines do to a state outside every conditional: the directives they
emit, and no change to the reserved symbols. -/
structure Emits (env : Environment) (state : State) (lines part : List Directive) :
    Prop where
  stack : (run env state lines).stack = []
  emitted : (run env state lines).emitted = state.emitted ++ part
  same : SameReserved (run env state lines).macros state.macros

section Lines

variable {env : Environment} {state : State}

theorem Emits.nil (outermost : state.stack = []) : Emits env state [] [] :=
  ⟨outermost, (List.append_nil _).symm, .refl _⟩

theorem Emits.append {first second firstPart secondPart : List Directive}
    (left : Emits env state first firstPart)
    (right : Emits env (run env state first) second secondPart) :
    Emits env state (first ++ second) (firstPart ++ secondPart) where
  stack := by
    rw [run_append]
    exact right.stack
  emitted := by
    rw [run_append, right.emitted, left.emitted, List.append_assoc]
  same := by
    rw [run_append]
    exact right.same.trans left.same

theorem emits_define {text : String} (outermost : state.stack = [])
    (unreserved : ¬Reserved (definedSymbol text)) :
    Emits env state [.define text] [.define text] := by
  have active := State.active_of_outermost outermost
  have stepped : run env state [.define text] = State.emit { state with
      macros := definedSymbol text :: state.macros } (.define text) := by
    rw [run_cons, run_nil, step_define active]
  refine ⟨by rw [stepped]; exact outermost, by rw [stepped]; rfl, ?_⟩
  intro symbol reserved
  have different : symbol ≠ definedSymbol text := by
    rintro rfl
    exact unreserved reserved
  simp [stepped, State.emit, different]

theorem emits_include (headers : HeadersUnreserved env)
    (outermost : state.stack = []) {directive : Directive} {header : String}
    (includes : directive = .includeSystem header ∨
      directive = .includeLocal header) :
    Emits env state [directive] [directive] := by
  have active := State.active_of_outermost outermost
  have stepped : run env state [directive] = State.emit { state with
      macros := env.header header state.macros } directive := by
    rw [run_cons, run_nil]
    rcases includes with rfl | rfl
    · rw [step, active]
      rfl
    · rw [step, active]
      rfl
  refine ⟨by rw [stepped]; exact outermost, by rw [stepped]; rfl, ?_⟩
  rw [stepped]
  exact headers header state.macros

theorem emits_blank (outermost : state.stack = []) :
    Emits env state [.blank] [] :=
  ⟨outermost, (List.append_nil _).symm, .refl _⟩

theorem emits_defines {texts : List String} (outermost : state.stack = [])
    (unreserved : ∀ text ∈ texts, ¬Reserved (definedSymbol text)) :
    Emits env state (texts.map .define) (texts.map .define) := by
  induction texts generalizing state with
  | nil => exact .nil outermost
  | cons text rest induction =>
      have head : Emits env state [.define text] [.define text] :=
        emits_define outermost (unreserved text (by simp))
      exact head.append (induction head.stack
        fun later member => unreserved later (by simp [member]))

theorem emits_includes (headers : HeadersUnreserved env)
    (names : List String) (outermost : state.stack = []) :
    Emits env state (names.map .includeSystem) (names.map .includeSystem) := by
  induction names generalizing state with
  | nil => exact .nil outermost
  | cons name rest induction =>
      have head : Emits env state [.includeSystem name] [.includeSystem name] :=
        emits_include headers outermost (.inl rfl)
      exact head.append (induction head.stack)

theorem Emits.guarded {directive : Directive} {body part : List Directive}
    (outermost : state.stack = []) (opens : directive.opens = true)
    (balanced : Balanced body) (emits : Emits env state body part) :
    Emits env state (directive :: body ++ [.endif])
      (if directive.truth env state.macros then part else []) := by
  have active := State.active_of_outermost outermost
  have ran := run_guarded env active opens balanced
  cases truth : directive.truth env state.macros with
  | true =>
      rw [truth, if_pos rfl] at ran
      refine ⟨?_, ?_, ?_⟩ <;> rw [ran]
      · exact emits.stack
      · exact emits.emitted
      · exact emits.same
  | false =>
      rw [truth, if_neg Bool.false_ne_true] at ran
      refine ⟨?_, ?_, ?_⟩ <;> rw [ran]
      · exact outermost
      · simp
      · exact .refl _

end Lines

def Arg.definition : Arg → Option String
  | .DEFINE text => some text
  | .Z symbol => some (symbol ++ " 0")
  | .IF _ symbol value => some (symbol ++ " (" ++ value ++ ")")
  | _ => none

def Unreserved (args : List Arg) : Prop :=
  ∀ arg ∈ args, ∀ text ∈ arg.definition, ¬Reserved (definedSymbol text)

instance (args : List Arg) : Decidable (Unreserved args) :=
  inferInstanceAs (Decidable (∀ arg ∈ args, ∀ text ∈ arg.definition,
    ¬Reserved (definedSymbol text)))

def Result.name : Result → String
  | .YES name _ _ => name
  | .NO name => name

def Result.available : Result → Bool
  | .YES _ _ _ => true
  | .NO _ => false

def Result.args : Result → List Arg
  | .YES _ args _ => args
  | .NO _ => []

def Result.wantedArgs (wanted : List String) (result : Result) : List Arg :=
  if result.name ∈ wanted then result.args else []

def defaults (args : List Arg) : List (Directive × String) :=
  (getZdefines args).map (fun symbol => (.ifndef symbol, symbol ++ " 0")) ++
    (getIfdefines args).map fun (condition, symbol, value) =>
      (.if_ (.raw condition), symbol ++ " (" ++ value ++ ")")

def defaultLines (block : Directive × String) : List Directive :=
  [block.1, .define block.2, .endif]

theorem wantedLines_eq (args : List Arg) :
    wantedLines args = (getIncludes args).map .includeSystem ++
      (defaults args).flatMap defaultLines := by
  rw [wantedLines, defaults, List.flatMap_append, List.flatMap_map,
    List.flatMap_map, ← List.append_assoc]
  rfl

theorem mem_defaults {args : List Arg} {block : Directive × String}
    (member : block ∈ defaults args) :
    block.1.opens = true ∧
      ∃ arg ∈ args, arg.definition = some block.2 ∧
        ∀ text, arg ≠ .DEFINE text := by
  rcases List.mem_append.mp member with zero | conditional
  · obtain ⟨symbol, found, rfl⟩ := List.mem_map.mp zero
    obtain ⟨arg, inArgs, matched⟩ := List.mem_filterMap.mp found
    refine ⟨rfl, arg, inArgs, ?_⟩
    cases arg <;> simp_all [Arg.definition]
  · obtain ⟨⟨condition, symbol, value⟩, found, rfl⟩ :=
      List.mem_map.mp conditional
    obtain ⟨arg, inArgs, matched⟩ := List.mem_filterMap.mp found
    refine ⟨rfl, arg, inArgs, ?_⟩
    cases arg <;> simp_all [Arg.definition]

theorem Unreserved.defaults {args : List Arg} (unreserved : Unreserved args)
    {block : Directive × String} (member : block ∈ defaults args) :
    ¬Reserved (definedSymbol block.2) := by
  obtain ⟨-, arg, inArgs, defined, -⟩ := mem_defaults member
  exact unreserved arg inArgs block.2 defined

theorem Unreserved.defines {args : List Arg} (unreserved : Unreserved args) :
    ∀ text ∈ getDefines args, ¬Reserved (definedSymbol text) := by
  intro text found
  obtain ⟨arg, inArgs, matched⟩ := List.mem_filterMap.mp found
  apply unreserved arg inArgs text
  cases arg <;> simp_all [Arg.definition]

theorem balanced_map {values : List α} {directive : α → Directive}
    (plain : ∀ value, (directive value).plain = true) :
    Balanced (values.map directive) := by
  induction values with
  | nil => exact .nil
  | cons value rest induction => exact .plain (plain value) induction

theorem balanced_defaults {blocks : List (Directive × String)}
    (opens : ∀ block ∈ blocks, block.1.opens = true) :
    Balanced (blocks.flatMap defaultLines) := by
  induction blocks with
  | nil => exact .nil
  | cons block rest induction =>
      have tail := induction fun later member => opens later (by simp [member])
      exact .guarded (opens block (by simp)) (.plain rfl .nil) tail

section Parts

variable {env : Environment} {state : State}

theorem emits_defaults {blocks : List (Directive × String)}
    (outermost : state.stack = [])
    (opens : ∀ block ∈ blocks, block.1.opens = true)
    (unreserved : ∀ block ∈ blocks, ¬Reserved (definedSymbol block.2)) :
    ∃ part, Emits env state (blocks.flatMap defaultLines) part ∧
      ∀ directive ∈ part, ∃ block ∈ blocks, directive = .define block.2 := by
  induction blocks generalizing state with
  | nil => exact ⟨[], .nil outermost, by simp⟩
  | cons block rest induction =>
      have head : Emits env state (defaultLines block) _ :=
        Emits.guarded outermost (opens block (by simp)) (.plain rfl .nil)
          (emits_define outermost (unreserved block (by simp)))
      obtain ⟨part, tail, allowed⟩ := induction head.stack
        (fun later member => opens later (by simp [member]))
        (fun later member => unreserved later (by simp [member]))
      refine ⟨_, head.append tail, ?_⟩
      intro directive member
      rcases List.mem_append.mp member with first | later
      · split_ifs at first
        · exact ⟨block, by simp, List.mem_singleton.mp first⟩
        · cases first
      · obtain ⟨found, inRest, equal⟩ := allowed directive later
        exact ⟨found, by simp [inRest], equal⟩

def Wants (wanted macros : List String) : Prop :=
  ∀ name, wantSymbol name ∈ macros ↔ name ∈ wanted

theorem Wants.same {wanted before after : List String}
    (wants : Wants wanted before) (same : SameReserved after before) :
    Wants wanted after :=
  fun name => (same _ (wantSymbol_reserved name)).trans (wants name)

theorem truth_want {wanted : List String} (wants : Wants wanted state.macros)
    (name : String) :
    (Directive.if_ (.defined (wantSymbol name))).truth env state.macros =
      decide (name ∈ wanted) := by
  rw [Directive.truth, Condition.eval, List.contains_eq_mem]
  simp only [wants name]

theorem emits_showDefines {wanted : List String} {result : Result}
    (outermost : state.stack = []) (wants : Wants wanted state.macros)
    (unreserved : Unreserved result.args) :
    Emits env state (showDefines result)
      ((getDefines (result.wantedArgs wanted)).map .define) := by
  cases result with
  | NO name =>
      have nothing : Result.wantedArgs wanted (.NO name) = [] := by
        simp [Result.wantedArgs, Result.args]
      rw [nothing]
      exact .nil outermost
  | YES name args ldlibs =>
      have block := Emits.guarded outermost
        (show (Directive.if_ (.defined (wantSymbol name))).opens = true from rfl)
        (balanced_map fun _ => rfl)
        (@emits_defines env state (getDefines args) outermost
          unreserved.defines)
      rw [truth_want wants] at block
      have emits := (emits_blank outermost).append block
      have part : (getDefines (Result.wantedArgs wanted
          (.YES name args ldlibs))).map Directive.define =
            if decide (name ∈ wanted) then (getDefines args).map .define
            else [] := by
        by_cases member : name ∈ wanted <;>
          simp [Result.wantedArgs, Result.name, Result.args, member, getDefines]
      rw [part]
      cases defines : getDefines args with
      | nil =>
          simp only [showDefines, defines, List.map_nil, ite_self]
          exact .nil outermost
      | cons text rest =>
          rw [defines] at emits
          simp only [showDefines, defines]
          exact emits

theorem emits_allDefines {wanted : List String} {results : List Result}
    (outermost : state.stack = []) (wants : Wants wanted state.macros)
    (unreserved : ∀ result ∈ results, Unreserved result.args) :
    Emits env state (results.flatMap showDefines)
      ((results.flatMap fun result =>
        getDefines (result.wantedArgs wanted)).map .define) := by
  induction results generalizing state with
  | nil => exact .nil outermost
  | cons result rest induction =>
      have head : Emits env state (showDefines result) _ :=
        emits_showDefines outermost wants (unreserved result (by simp))
      have tail := induction head.stack (wants.same head.same)
        fun later member => unreserved later (by simp [member])
      rw [List.flatMap_cons, List.flatMap_cons, List.map_append]
      exact head.append tail

/-- The lines of a result that are neither an include nor a `DEFINE`. -/
def Result.Generates (wanted : List String) (result : Result)
    (directive : Directive) : Prop :=
  (result.available = false ∧ directive = .undef (haveSymbol result.name)) ∨
  (result.available = true ∧ directive = .define (haveSymbol result.name)) ∨
  ∃ arg ∈ result.wantedArgs wanted, (∀ text, arg ≠ .DEFINE text) ∧
    ∃ text, arg.definition = some text ∧ directive = .define text

structure Tail (wanted : List String) (results : List Result)
    (part : List Directive) : Prop where
  includes : part.filter Directive.isInclude =
    (results.flatMap fun result =>
      getIncludes (result.wantedArgs wanted)).map .includeSystem
  others : ∀ directive ∈ part, directive.isInclude = true ∨
    ∃ result ∈ results, result.Generates wanted directive

structure Declares (env : Environment) (state : State) (wanted : List String)
    (results : List Result) (lines part : List Directive) : Prop where
  stack : (run env state lines).stack = []
  emitted : (run env state lines).emitted = state.emitted ++ part
  tail : Tail wanted results part
  want : ∀ name, wantSymbol name ∈ (run env state lines).macros ↔
    wantSymbol name ∈ state.macros
  have_ : ∀ name, haveSymbol name ∈ (run env state lines).macros ↔
    results.foldl (fun before result =>
      if name = result.name then result.available = true else before)
      (haveSymbol name ∈ state.macros)

theorem filter_includes (names : List String) :
    (names.map Directive.includeSystem).filter Directive.isInclude =
      names.map .includeSystem := by
  rw [List.filter_map]
  congr 1
  exact List.filter_eq_self.mpr fun _ _ => rfl

theorem filter_defines {part : List Directive}
    (defines : ∀ directive ∈ part, ∃ text, directive = .define text) :
    part.filter Directive.isInclude = [] := by
  rw [List.filter_eq_nil_iff]
  intro directive member
  obtain ⟨text, rfl⟩ := defines directive member
  simp [Directive.isInclude]

theorem tail_wantedLines {wanted : List String} {name : String}
    {args : List Arg} {ldlibs : List String} {part : List Directive}
    (allowed : ∀ directive ∈ part,
      ∃ block ∈ defaults args, directive = .define block.2) :
    Tail wanted [.YES name args ldlibs]
      (if decide (name ∈ wanted) then
        (getIncludes args).map .includeSystem ++ part else []) := by
  by_cases member : name ∈ wanted
  · have brought : Result.wantedArgs wanted (.YES name args ldlibs) = args :=
      if_pos member
    rw [if_pos (by simpa using member)]
    constructor
    · rw [List.filter_append, filter_includes, filter_defines,
        List.append_nil, List.flatMap_singleton, brought]
      intro directive inPart
      obtain ⟨block, -, rfl⟩ := allowed directive inPart
      exact ⟨_, rfl⟩
    · intro directive inPart
      rcases List.mem_append.mp inPart with included | defaulted
      · obtain ⟨header, -, rfl⟩ := List.mem_map.mp included
        exact .inl rfl
      · obtain ⟨block, inBlocks, rfl⟩ := allowed directive defaulted
        obtain ⟨-, arg, inArgs, defined, notDefine⟩ := mem_defaults inBlocks
        refine .inr ⟨_, List.mem_singleton_self _, .inr (.inr ⟨arg, ?_,
          notDefine, block.2, defined, rfl⟩)⟩
        rw [brought]
        exact inArgs
  · have nothing : Result.wantedArgs wanted (.YES name args ldlibs) = [] :=
      if_neg member
    rw [if_neg (by simpa using member)]
    exact ⟨by rw [List.flatMap_singleton, nothing]; rfl, by simp⟩

theorem emits_showWanted {wanted : List String} {name : String}
    {args : List Arg} {ldlibs : List String} (headers : HeadersUnreserved env)
    (outermost : state.stack = []) (wants : Wants wanted state.macros)
    (unreserved : Unreserved args) :
    ∃ part, Emits env state (showWanted name args) part ∧
      Tail wanted [.YES name args ldlibs] part := by
  obtain ⟨defaultPart, emitsDefaults, allowed⟩ :=
    emits_defaults (emits_includes headers (getIncludes args) outermost).stack
      (fun block member => (mem_defaults member).1)
      (fun block member => unreserved.defaults member)
  have body := (emits_includes headers (getIncludes args) outermost).append
    emitsDefaults
  rw [← wantedLines_eq] at body
  have balanced : Balanced (wantedLines args) := by
    rw [wantedLines_eq]
    exact (balanced_map fun _ => rfl).append
      (balanced_defaults fun block member => (mem_defaults member).1)
  have block := Emits.guarded outermost
    (show (Directive.if_ (.defined (wantSymbol name))).opens = true from rfl)
    balanced body
  rw [truth_want wants] at block
  unfold showWanted
  split
  · rename_i noIncludes noZdefines noIfdefines
    refine ⟨[], .nil outermost, ?_⟩
    constructor
    · rw [List.flatMap_singleton, Result.wantedArgs]
      split_ifs
      · simp [Result.args, noIncludes]
      · rfl
    · simp
  · exact ⟨_, block, tail_wantedLines allowed⟩

theorem Tail.append {wanted : List String} {first second : List Result}
    {firstPart secondPart : List Directive} (left : Tail wanted first firstPart)
    (right : Tail wanted second secondPart) :
    Tail wanted (first ++ second) (firstPart ++ secondPart) where
  includes := by
    rw [List.filter_append, left.includes, right.includes, List.flatMap_append,
      List.map_append]
  others := by
    intro directive member
    rcases List.mem_append.mp member with inFirst | inSecond
    · rcases left.others directive inFirst with included | ⟨result, found, made⟩
      · exact .inl included
      · exact .inr ⟨result, by simp [found], made⟩
    · rcases right.others directive inSecond with
        included | ⟨result, found, made⟩
      · exact .inl included
      · exact .inr ⟨result, by simp [found], made⟩

theorem Declares.append {wanted : List String} {first second : List Result}
    {firstLines secondLines firstPart secondPart : List Directive}
    (left : Declares env state wanted first firstLines firstPart)
    (right : Declares env (run env state firstLines) wanted second secondLines
      secondPart) :
    Declares env state wanted (first ++ second) (firstLines ++ secondLines)
      (firstPart ++ secondPart) where
  stack := by
    rw [run_append]
    exact right.stack
  emitted := by
    rw [run_append, right.emitted, left.emitted, List.append_assoc]
  tail := left.tail.append right.tail
  want := fun name => by
    rw [run_append]
    exact (right.want name).trans (left.want name)
  have_ := fun name => by
    rw [run_append, right.have_ name, List.foldl_append, left.have_ name]

theorem declares_showHave {wanted : List String} {result : Result}
    (headers : HeadersUnreserved env) (outermost : state.stack = [])
    (wants : Wants wanted state.macros) (identifier : Identifier result.name)
    (unreserved : Unreserved result.args) :
    ∃ part, Declares env state wanted [result] (showHave result) part := by
  have active := State.active_of_outermost outermost
  cases result with
  | NO name =>
      have ran : run env state (showHave (.NO name)) = State.emit { state with
          macros := state.macros.filter (· ≠ haveSymbol name) }
          (.undef (haveSymbol name)) := by
        change step env state (.undef (haveSymbol name)) = _
        rw [step, active]
        rfl
      refine ⟨[.undef (haveSymbol name)], ?_, ?_, ⟨?_, ?_⟩, ?_, ?_⟩
      · rw [ran]
        exact outermost
      · rw [ran]
        rfl
      · simp [Directive.isInclude, Result.wantedArgs, Result.args, getIncludes]
      · intro directive member
        obtain rfl := List.mem_singleton.mp member
        exact .inr ⟨_, List.mem_singleton_self _, .inl ⟨rfl, rfl⟩⟩
      · intro other
        simp [ran, State.emit, (haveSymbol_ne_wantSymbol name other).symm]
      · intro other
        simp only [ran, State.emit, List.mem_filter, ne_eq, decide_not,
          Bool.not_eq_eq_eq_not, Bool.not_true, decide_eq_false_iff_not,
          haveSymbol_inj, List.foldl_cons, List.foldl_nil, Result.name,
          Result.available]
        by_cases same : other = name <;> simp [same]
  | YES name args ldlibs =>
      let defined : State := State.emit { state with
        macros := haveSymbol name :: state.macros } (.define (haveSymbol name))
      have ran : run env state [.blank, .define (haveSymbol name)] =
          defined := by
        have symbol : definedSymbol (haveSymbol name) = haveSymbol name :=
          definedSymbol_identifier (haveSymbol_identifier identifier)
        change step env state (.define (haveSymbol name)) = _
        rw [step_define active, symbol]
      have definedWants : Wants wanted defined.macros := by
        intro other
        simp [defined, State.emit, (haveSymbol_ne_wantSymbol name other).symm,
          wants other]
      obtain ⟨part, emits, tail⟩ := @emits_showWanted env defined wanted name
        args ldlibs headers outermost definedWants unreserved
      have split : run env state (showHave (.YES name args ldlibs)) =
          run env defined (showWanted name args) := by
        rw [← ran, ← run_append]
        rfl
      refine ⟨.define (haveSymbol name) :: part, ?_, ?_, ⟨?_, ?_⟩, ?_, ?_⟩
      · rw [split]
        exact emits.stack
      · rw [split, emits.emitted]
        simp [defined, State.emit]
      · exact tail.includes
      · intro directive member
        rcases List.mem_cons.mp member with rfl | later
        · exact .inr ⟨_, List.mem_singleton_self _, .inr (.inl ⟨rfl, rfl⟩)⟩
        · exact tail.others directive later
      · intro other
        rw [split, emits.same _ (wantSymbol_reserved other)]
        simp [defined, State.emit, (haveSymbol_ne_wantSymbol name other).symm]
      · intro other
        rw [split, emits.same _ (haveSymbol_reserved other)]
        simp only [defined, State.emit, List.mem_cons, haveSymbol_inj,
          List.foldl_cons, List.foldl_nil, Result.name, Result.available]
        by_cases same : other = name <;> simp [same]

theorem declares_allHave {wanted : List String} {results : List Result}
    (headers : HeadersUnreserved env) (outermost : state.stack = [])
    (wants : Wants wanted state.macros)
    (identifiers : ∀ result ∈ results, Identifier result.name)
    (unreserved : ∀ result ∈ results, Unreserved result.args) :
    ∃ part, Declares env state wanted results (results.flatMap showHave)
      part := by
  induction results generalizing state with
  | nil =>
      exact ⟨[], outermost, by simp [run], ⟨rfl, by simp⟩, fun _ => Iff.rfl,
        fun _ => Iff.rfl⟩
  | cons result rest induction =>
      obtain ⟨headPart, head⟩ := @declares_showHave env state wanted result
        headers outermost wants (identifiers result (by simp))
        (unreserved result (by simp))
      obtain ⟨restPart, tail⟩ := induction head.stack
        (fun name => (head.want name).trans (wants name))
        (fun later member => identifiers later (by simp [member]))
        (fun later member => unreserved later (by simp [member]))
      exact ⟨headPart ++ restPart, head.append tail⟩

end Parts

section Lines

variable {property : Directive → Prop} {results : List Result}

/-- What a property of lines has to cover besides the definitions of a
feature. -/
structure Structural (property : Directive → Prop) : Prop where
  opens : ∀ directive, directive.opens = true → property directive
  endif : property .endif
  blank : property .blank
  includes : ∀ directive, directive.isInclude = true → property directive

theorem Structural.block (structural : Structural property)
    {opening : Directive} {lines : List Directive}
    (opens : opening.opens = true)
    (inside : ∀ directive ∈ lines, property directive) :
    ∀ directive ∈ opening :: lines ++ [.endif], property directive := by
  simp only [List.cons_append, List.forall_mem_cons, List.forall_mem_append]
  exact ⟨structural.opens _ opens, inside, structural.endif, by simp⟩

theorem Structural.includeAll (structural : Structural property)
    (names : List String) :
    ∀ directive ∈ names.map Directive.includeSystem, property directive :=
  List.forall_mem_map.mpr fun _ _ => structural.includes _ rfl

theorem Structural.showDefines (structural : Structural property)
    {result : Result} (definitions : ∀ arg ∈ result.args,
      ∀ text ∈ arg.definition, property (.define text)) :
    ∀ directive ∈ showDefines result, property directive := by
  cases result with
  | NO name => simp [Discover.showDefines]
  | YES name args ldlibs =>
      have defines : ∀ directive ∈ (getDefines args).map Directive.define,
          property directive := by
        rw [List.forall_mem_map]
        intro text found
        obtain ⟨arg, inArgs, matched⟩ := List.mem_filterMap.mp found
        apply definitions arg inArgs text
        cases arg <;> simp_all [Arg.definition]
      have block := structural.block
        (show (Directive.if_ (.defined (wantSymbol name))).opens = true from rfl)
        defines
      rw [Discover.showDefines]
      split
      · simp
      · exact List.forall_mem_cons.mpr ⟨structural.blank, block⟩

theorem Structural.showHave (structural : Structural property)
    {result : Result}
    (symbol : property (.define (haveSymbol result.name)) ∧
      property (.undef (haveSymbol result.name)))
    (definitions : ∀ arg ∈ result.args,
      ∀ text ∈ arg.definition, property (.define text)) :
    ∀ directive ∈ showHave result, property directive := by
  cases result with
  | NO name =>
      exact List.forall_mem_cons.mpr ⟨structural.blank,
        List.forall_mem_singleton.mpr symbol.2⟩
  | YES name args ldlibs =>
      have defaulted : ∀ directive ∈ (defaults args).flatMap defaultLines,
          property directive := by
        rw [List.forall_mem_flatMap]
        intro block inBlocks
        obtain ⟨opens, arg, inArgs, defined, -⟩ := mem_defaults inBlocks
        exact structural.block opens (List.forall_mem_singleton.mpr
          (definitions arg inArgs _ defined))
      have wanted : ∀ directive ∈ showWanted name args,
          property directive := by
        rw [showWanted]
        split
        · simp
        · apply structural.block rfl
          rw [wantedLines_eq]
          exact List.forall_mem_append.mpr
            ⟨structural.includeAll _, defaulted⟩
      exact List.forall_mem_cons.mpr ⟨structural.blank,
        List.forall_mem_cons.mpr ⟨symbol.1, wanted⟩⟩

theorem Structural.showC (structural : Structural property)
    (texts : ∀ text ∈ configDefines ++ uerrorAliases, property (.define text))
    (symbols : ∀ result ∈ results, property (.define (haveSymbol result.name)) ∧
      property (.undef (haveSymbol result.name)))
    (definitions : ∀ result ∈ results, ∀ arg ∈ result.args,
      ∀ text ∈ arg.definition, property (.define text)) :
    ∀ directive ∈ showC results, property directive := by
  obtain ⟨configTexts, aliasTexts⟩ := List.forall_mem_append.mp texts
  have uerror : ∀ directive ∈ showUerror, property directive :=
    structural.block rfl (List.forall_mem_map.mpr aliasTexts)
  simp only [Discover.showC, List.forall_mem_append, List.forall_mem_cons,
    List.forall_mem_flatMap, List.cons_append, List.append_assoc]
  exact ⟨structural.blank, List.forall_mem_map.mpr configTexts,
    fun result member => structural.showDefines (definitions result member),
    structural.blank, structural.includeAll _, uerror, structural.blank,
    structural.includes _ rfl, fun result member =>
      structural.showHave (symbols result member) (definitions result member),
    structural.blank, by simp⟩

end Lines

end ExtUnix.Discover
