import Mathlib.Data.List.Basic
import Mathlib.Tactic.Common

namespace ExtUnix.Cpp

/-! The C preprocessor, as far as it decides which lines of a file are
compiled and which macros are defined. -/

inductive Condition where
  | defined (symbol : String)
  | raw (text : String)
  | not (condition : Condition)
  | and (left right : Condition)
  | or (left right : Condition)
  deriving DecidableEq

inductive Directive where
  | ifdef (symbol : String)
  | ifndef (symbol : String)
  | if_ (condition : Condition)
  | elif (condition : Condition)
  | else_
  | endif
  | define (text : String)
  | undef (symbol : String)
  | includeSystem (header : String)
  | includeLocal (header : String)
  | line (text : String)
  | blank
  deriving DecidableEq

def Condition.render : Condition → String
  | .defined symbol => "defined(" ++ symbol ++ ")"
  | .raw text => text
  | .not condition => "!" ++ condition.render
  | .and left right => "(" ++ left.render ++ " && " ++ right.render ++ ")"
  | .or left right => "(" ++ left.render ++ " || " ++ right.render ++ ")"

def Directive.render : Directive → String
  | .ifdef symbol => "#ifdef " ++ symbol
  | .ifndef symbol => "#ifndef " ++ symbol
  | .if_ condition => "#if " ++ condition.render
  | .elif condition => "#elif " ++ condition.render
  | .else_ => "#else"
  | .endif => "#endif"
  | .define text => "#define " ++ text
  | .undef symbol => "#undef " ++ symbol
  | .includeSystem header => "#include <" ++ header ++ ">"
  | .includeLocal header => "#include \"" ++ header ++ "\""
  | .line text => text
  | .blank => ""

/-- What a file is compiled against: the value of the conditions that are not
about macros being defined, and the macros defined after a header. -/
structure Environment where
  truth : String → List String → Bool
  header : String → List String → List String

def identifierChar (char : Char) : Bool := char.isAlphanum || char == '_'

def definedSymbol (text : String) : String :=
  String.ofList ((text.toList.dropWhile (· == ' ')).takeWhile identifierChar)

structure Frame where
  taken : Bool
  active : Bool

structure State where
  stack : List Frame
  macros : List String
  emitted : List Directive

def State.active (state : State) : Bool :=
  match state.stack with
  | [] => true
  | frame :: _ => frame.active

theorem State.active_of_outermost {state : State}
    (outermost : state.stack = []) : state.active = true := by
  rw [State.active, outermost]

section Run

variable (env : Environment)

def Condition.eval (macros : List String) : Condition → Bool
  | .defined symbol => macros.contains symbol
  | .raw text => env.truth text macros
  | .not condition => !condition.eval macros
  | .and left right => left.eval macros && right.eval macros
  | .or left right => left.eval macros || right.eval macros

/-- Lines that are skipped still open conditionals, none of whose branches is
taken. -/
def State.push (state : State) (truth : Bool) : State :=
  { state with
    stack := ⟨!state.active || truth, state.active && truth⟩ :: state.stack }

def State.emit (state : State) (directive : Directive) : State :=
  { state with emitted := state.emitted ++ [directive] }

def step (state : State) (directive : Directive) : State :=
  match directive with
  | .ifdef symbol => state.push (state.macros.contains symbol)
  | .ifndef symbol => state.push (!state.macros.contains symbol)
  | .if_ condition => state.push (condition.eval env state.macros)
  | .elif condition =>
      match state.stack with
      | [] => state
      | frame :: rest =>
          let truth := !frame.taken && condition.eval env state.macros
          { state with stack := ⟨frame.taken || truth, truth⟩ :: rest }
  | .else_ =>
      match state.stack with
      | [] => state
      | frame :: rest => { state with stack := ⟨true, !frame.taken⟩ :: rest }
  | .endif => { state with stack := state.stack.tail }
  | .define text =>
      if state.active then
        State.emit { state with
          macros := definedSymbol text :: state.macros } directive
      else state
  | .undef symbol =>
      if state.active then
        State.emit { state with
          macros := state.macros.filter (· ≠ symbol) } directive
      else state
  | .includeSystem header | .includeLocal header =>
      if state.active then
        State.emit { state with
          macros := env.header header state.macros } directive
      else state
  | .line _ => if state.active then state.emit directive else state
  | .blank => state

def run (state : State) (directives : List Directive) : State :=
  directives.foldl (step env) state

variable {env}

theorem run_nil (state : State) : run env state [] = state := rfl

theorem run_cons (state : State) (directive : Directive)
    (rest : List Directive) :
    run env state (directive :: rest) = run env (step env state directive) rest :=
  rfl

theorem run_append (state : State) (first second : List Directive) :
    run env state (first ++ second) = run env (run env state first) second :=
  List.foldl_append

def Directive.effect (env : Environment) (macros : List String) :
    Directive → List String
  | .define text => definedSymbol text :: macros
  | .undef symbol => macros.filter (· ≠ symbol)
  | .includeSystem header | .includeLocal header => env.header header macros
  | _ => macros

theorem step_cases (env : Environment) (state : State)
    (directive : Directive) :
    ((step env state directive).macros = state.macros ∧
      (step env state directive).emitted = state.emitted) ∨
    (state.active = true ∧
      (step env state directive).macros = directive.effect env state.macros ∧
      (step env state directive).emitted = state.emitted ++ [directive]) := by
  cases directive with
  | ifdef | ifndef | if_ | endif | blank => exact .inl ⟨rfl, rfl⟩
  | elif _ | else_ =>
      rw [step]
      split <;> exact .inl ⟨rfl, rfl⟩
  | define _ | undef _ | includeSystem _ | includeLocal _ | line _ =>
      rw [step]
      split_ifs with active
      · exact .inr ⟨active, rfl, rfl⟩
      · exact .inl ⟨rfl, rfl⟩

theorem step_define {state : State} (active : state.active = true)
    (text : String) :
    step env state (.define text) = State.emit { state with
      macros := definedSymbol text :: state.macros } (.define text) := by
  rw [step, active]
  rfl

theorem run_block (state : State) (directive : Directive)
    (body rest : List Directive) :
    run env state (directive :: body ++ .endif :: rest) =
      run env (step env (run env (step env state directive) body) .endif)
        rest := by
  rw [run_append]
  rfl

end Run

def Directive.opens : Directive → Bool
  | .ifdef _ | .ifndef _ | .if_ _ => true
  | _ => false

def Directive.plain : Directive → Bool
  | .define _ | .undef _ | .includeSystem _ | .includeLocal _ | .line _ | .blank =>
      true
  | _ => false

def Directive.isInclude : Directive → Bool
  | .includeSystem _ | .includeLocal _ => true
  | _ => false

def Directive.isSystemInclude : Directive → Bool
  | .includeSystem _ => true
  | _ => false

/-- Every conditional is closed, and has a single branch. -/
inductive Balanced : List Directive → Prop
  | nil : Balanced []
  | plain {directive : Directive} {rest : List Directive}
      (isPlain : directive.plain = true) (tail : Balanced rest) :
      Balanced (directive :: rest)
  | guarded {directive : Directive} {body rest : List Directive}
      (opens : directive.opens = true) (inner : Balanced body)
      (tail : Balanced rest) :
      Balanced (directive :: body ++ .endif :: rest)

theorem Balanced.append {first second : List Directive}
    (left : Balanced first) (right : Balanced second) :
    Balanced (first ++ second) := by
  induction left with
  | nil => exact right
  | plain isPlain _ induction => exact .plain isPlain induction
  | guarded opens inner _ _ induction =>
      rw [List.append_assoc]
      exact .guarded opens inner induction

def Directive.truth (env : Environment) (macros : List String) :
    Directive → Bool
  | .ifdef symbol => macros.contains symbol
  | .ifndef symbol => !macros.contains symbol
  | .if_ condition => condition.eval env macros
  | _ => false

theorem step_opens (env : Environment) (state : State) {directive : Directive}
    (opens : directive.opens = true) :
    step env state directive =
      state.push (directive.truth env state.macros) := by
  cases directive <;> cases opens <;> rfl

theorem step_inactive (env : Environment) {state : State}
    (inactive : state.active = false) {directive : Directive}
    (isPlain : directive.plain = true) : step env state directive = state := by
  cases directive <;> cases isPlain <;>
    first
      | rfl
      | (rw [step, inactive]; rfl)

theorem run_inactive (env : Environment) {body : List Directive}
    (balanced : Balanced body) {state : State}
    (inactive : state.active = false) : run env state body = state := by
  induction balanced generalizing state with
  | nil => rfl
  | plain isPlain _ induction =>
      rw [run_cons, step_inactive env inactive isPlain, induction inactive]
  | guarded opens _ _ inner outer =>
      have skipped (truth : Bool) : (state.push truth).active = false := by
        change (state.active && truth) = false
        rw [inactive, Bool.false_and]
      rw [run_block, step_opens env state opens, inner (skipped _)]
      exact outer inactive

def State.withStack (state : State) (stack : List Frame) : State :=
  { state with stack := stack }

theorem step_plain (env : Environment) {state : State}
    (active : state.active = true) {directive : Directive}
    (isPlain : directive.plain = true) (stack : List Frame)
    (stackActive : (state.withStack stack).active = true) :
    step env (state.withStack stack) directive =
      (step env state directive).withStack stack := by
  cases directive <;> cases isPlain <;>
    first
      | rfl
      | (rw [step, step, active, stackActive]; rfl)

theorem step_plain_stack (env : Environment) (state : State)
    {directive : Directive} (isPlain : directive.plain = true) :
    (step env state directive).stack = state.stack := by
  cases directive <;> cases isPlain <;>
    first
      | rfl
      | (rw [step]; split_ifs <;> rfl)

/-- Lines that return to the conditional they started in, and do not depend on
those around it. -/
structure Closed (env : Environment) (state : State) (body : List Directive) :
    Prop where
  stack : (run env state body).stack = state.stack
  independent : ∀ stack, (state.withStack stack).active = true →
    run env (state.withStack stack) body =
      (run env state body).withStack stack

theorem step_endif_closed {env : Environment} {state : State}
    {directive : Directive} {body : List Directive}
    (active : state.active = true) (opens : directive.opens = true)
    (balanced : Balanced body) (closed : Closed env state body) :
    step env (run env (step env state directive) body) .endif =
      if directive.truth env state.macros then run env state body
      else state := by
  rw [step_opens env state opens]
  cases directive.truth env state.macros with
  | true =>
      have pushed : state.push true =
          state.withStack (⟨true, true⟩ :: state.stack) := by
        simp [State.push, State.withStack, active]
      have restored := closed.stack
      rw [pushed, closed.independent _ rfl]
      cases ran : run env state body with
      | mk stack macros emitted =>
          rw [ran] at restored
          cases restored
          rfl
  | false =>
      have skipped : (state.push false).active = false := by
        change (state.active && false) = false
        rw [Bool.and_false]
      rw [run_inactive env balanced skipped]
      rfl

theorem run_closed (env : Environment) {body : List Directive}
    (balanced : Balanced body) {state : State} (active : state.active = true) :
    Closed env state body := by
  induction balanced generalizing state with
  | nil => exact ⟨rfl, fun _ _ => rfl⟩
  | @plain directive rest isPlain _ induction =>
      have kept := step_plain_stack env state isPlain
      have stillActive : (step env state directive).active = true := by
        rw [State.active, kept]
        exact active
      have tail := induction stillActive
      refine ⟨tail.stack.trans kept, fun stack stackActive => ?_⟩
      rw [run_cons, step_plain env active isPlain stack stackActive,
        tail.independent stack stackActive, run_cons]
  | @guarded directive body rest opens innerBalanced _ inner outer =>
      have innerClosed := inner active
      have effect := step_endif_closed active opens innerBalanced innerClosed
      cases truth : directive.truth env state.macros with
      | true =>
          rw [truth, if_pos rfl] at effect
          have afterActive : (run env state body).active = true := by
            rw [State.active, innerClosed.stack]
            exact active
          have tail := outer afterActive
          refine ⟨?_, fun stack stackActive => ?_⟩
          · rw [run_block, effect, tail.stack, innerClosed.stack]
          · have moved := innerClosed.independent stack stackActive
            have movedEffect := step_endif_closed stackActive opens
              innerBalanced (inner stackActive)
            rw [show (state.withStack stack).macros = state.macros from rfl,
              truth, if_pos rfl, moved] at movedEffect
            rw [run_block, movedEffect, tail.independent stack ?_, run_block,
              effect]
            exact stackActive
      | false =>
          rw [truth, if_neg Bool.false_ne_true] at effect
          have tail := outer active
          refine ⟨?_, fun stack stackActive => ?_⟩
          · rw [run_block, effect, tail.stack]
          · have movedEffect := step_endif_closed stackActive opens
              innerBalanced (inner stackActive)
            rw [show (state.withStack stack).macros = state.macros from rfl,
              truth, if_neg Bool.false_ne_true] at movedEffect
            rw [run_block, movedEffect, tail.independent stack stackActive,
              run_block, effect]

theorem run_guarded (env : Environment) {state : State} {directive : Directive}
    {body : List Directive} (active : state.active = true)
    (opens : directive.opens = true) (balanced : Balanced body) :
    run env state (directive :: body ++ [.endif]) =
      if directive.truth env state.macros then run env state body
      else state := by
  rw [run_block]
  exact step_endif_closed active opens balanced (run_closed env balanced active)

end ExtUnix.Cpp
