import ExtUnix.Cpp.Preprocessor
import Mathlib.Data.List.Forall2
import Mathlib.Data.Nat.Digits.Defs

namespace ExtUnix.Cpp

/-! Following a file when only some macros are known to be defined or not:
the fate of a line is decided as soon as the conditions around it are. -/

/-! Texts as numbers, which are compared much faster when a proof evaluates
the functions below. -/

def textCode (text : String) : Nat :=
  Nat.ofDigits 256 (text.toByteArray.data.toList.map UInt8.toNat ++ [1])

theorem textCode_inj {first second : String} :
    textCode first = textCode second ↔ first = second := by
  have digits (text : String) : Nat.digits 256 (textCode text) =
      text.toByteArray.data.toList.map UInt8.toNat ++ [1] := by
    apply Nat.digits_ofDigits 256 (by decide)
    · intro digit member
      rcases List.mem_append.mp member with byte | last
      · obtain ⟨value, -, rfl⟩ := List.mem_map.mp byte
        exact value.toNat_lt
      · rw [List.mem_singleton.mp last]
        decide
    · intro nonempty
      rw [List.getLast_append_of_ne_nil _ (by simp)]
      decide
  constructor
  · intro equal
    have same := congrArg (Nat.digits 256) equal
    rw [digits, digits, List.append_cancel_right_eq] at same
    have bytes := List.map_injective_iff.mpr
      (fun _ _ => UInt8.toNat_inj.mp) same
    exact String.toByteArray_inj.mp
      (ByteArray.ext (Array.toList_inj.mp bytes))
  · rintro rfl
    rfl

def sameText (first second : String) : Bool :=
  (textCode first).beq (textCode second)

theorem sameText_iff {first second : String} :
    sameText first second = true ↔ first = second := by
  rw [sameText, Nat.beq_eq, textCode_inj]

def Knows (known : Option Bool) (value : Bool) : Prop :=
  ∀ truth ∈ known, value = truth

theorem Knows.none (value : Bool) : Knows none value := by
  intro truth impossible
  cases impossible

theorem Knows.some (value : Bool) : Knows (some value) value := by
  rintro _ ⟨⟩
  rfl

def bothKnown : Option Bool → Option Bool → Option Bool
  | some false, _ | _, some false => some false
  | some true, some true => some true
  | _, _ => none

def notKnown (known : Option Bool) : Option Bool := known.map not

def eitherKnown (left right : Option Bool) : Option Bool :=
  notKnown (bothKnown (notKnown left) (notKnown right))

theorem Knows.both {left right : Option Bool} {first second : Bool}
    (knowsFirst : Knows left first) (knowsSecond : Knows right second) :
    Knows (bothKnown left right) (first && second) := by
  rcases left with _ | _ | _ <;> rcases right with _ | _ | _ <;>
    simp_all [Knows, bothKnown]

theorem Knows.not {known : Option Bool} {value : Bool}
    (knows : Knows known value) : Knows (notKnown known) !value := by
  rcases known with _ | truth
  · exact .none _
  · rw [knows truth rfl]
    exact .some _

theorem Knows.either {left right : Option Bool} {first second : Bool}
    (knowsFirst : Knows left first) (knowsSecond : Knows right second) :
    Knows (eitherKnown left right) (first || second) := by
  have combined := (knowsFirst.not.both knowsSecond.not).not
  rw [Bool.not_and, Bool.not_not, Bool.not_not] at combined
  exact combined

section Facts

variable (facts : String → Option Bool)

def Hold (macros : List String) : Prop :=
  ∀ symbol, Knows (facts symbol) (macros.contains symbol)

def Condition.known : Condition → Option Bool
  | .defined symbol => facts symbol
  | .raw _ => none
  | .not condition => notKnown condition.known
  | .and left right => bothKnown left.known right.known
  | .or left right => eitherKnown left.known right.known

variable {facts}

theorem Hold.condition {macros : List String} (hold : Hold facts macros)
    (env : Environment) (condition : Condition) :
    Knows (condition.known facts) (condition.eval env macros) := by
  induction condition with
  | defined symbol => exact hold symbol
  | raw text => exact .none _
  | not condition induction => exact induction.not
  | and left right first second => exact first.both second
  | or left right first second => exact first.either second

end Facts

structure KnownFrame where
  taken : Option Bool
  active : Option Bool

structure KnownFrame.Of (known : KnownFrame) (frame : Frame) : Prop where
  taken : Knows known.taken frame.taken
  active : Knows known.active frame.active

def knownActive : List KnownFrame → Option Bool
  | [] => some true
  | frame :: _ => frame.active

def pushKnown (stack : List KnownFrame) (truth : Option Bool) :
    List KnownFrame :=
  ⟨eitherKnown (notKnown (knownActive stack)) truth,
    bothKnown (knownActive stack) truth⟩ :: stack

section Track

variable (facts : String → Option Bool)

def track (stack : List KnownFrame) : Directive → List KnownFrame
  | .ifdef symbol => pushKnown stack (facts symbol)
  | .ifndef symbol => pushKnown stack (notKnown (facts symbol))
  | .if_ condition => pushKnown stack (condition.known facts)
  | .elif condition =>
      match stack with
      | [] => []
      | frame :: rest =>
          let truth := bothKnown (notKnown frame.taken) (condition.known facts)
          ⟨eitherKnown frame.taken truth, truth⟩ :: rest
  | .else_ =>
      match stack with
      | [] => []
      | frame :: rest => ⟨some true, notKnown frame.taken⟩ :: rest
  | .endif => stack.tail
  | _ => stack

def Directive.respects : Directive → Bool
  | .define text => (facts (definedSymbol text)).isNone
  | .undef symbol => (facts symbol).isNone
  | _ => true

def Environment.Respects (env : Environment) : Prop :=
  ∀ header macros, Hold facts macros → Hold facts (env.header header macros)

structure Tracks (stack : List KnownFrame) (state : State) : Prop where
  stack : List.Forall₂ KnownFrame.Of stack state.stack
  hold : Hold facts state.macros

variable {facts} {env : Environment} {stack : List KnownFrame} {state : State}

theorem Tracks.active (tracks : Tracks facts stack state) :
    Knows (knownActive stack) state.active := by
  obtain ⟨_, _, _⟩ := state
  cases tracks.stack with
  | nil => exact .some true
  | cons frame _ => exact frame.active

theorem Tracks.push (tracks : Tracks facts stack state) {known : Option Bool}
    {truth : Bool} (knows : Knows known truth) :
    Tracks facts (pushKnown stack known) (state.push truth) :=
  ⟨.cons ⟨tracks.active.not.either knows, tracks.active.both knows⟩
    tracks.stack, tracks.hold⟩

theorem Hold.define {macros : List String} (hold : Hold facts macros)
    {symbol : String} (unknown : (facts symbol).isNone = true) :
    Hold facts (symbol :: macros) := by
  intro other
  by_cases same : other = symbol
  · rw [same, Option.isNone_iff_eq_none.mp unknown]
    exact .none _
  · have unchanged : (symbol :: macros).contains other =
        macros.contains other := by
      simp [same]
    rw [unchanged]
    exact hold other

theorem Hold.undef {macros : List String} (hold : Hold facts macros)
    {symbol : String} (unknown : (facts symbol).isNone = true) :
    Hold facts (macros.filter (· ≠ symbol)) := by
  intro other
  by_cases same : other = symbol
  · rw [same, Option.isNone_iff_eq_none.mp unknown]
    exact .none _
  · have unchanged : (macros.filter (· ≠ symbol)).contains other =
        macros.contains other := by
      simp [same]
    rw [unchanged]
    exact hold other

theorem Hold.effect (respects : env.Respects facts) {directive : Directive}
    (respected : directive.respects facts = true) {macros : List String}
    (hold : Hold facts macros) : Hold facts (directive.effect env macros) := by
  cases directive with
  | define text => exact hold.define respected
  | undef symbol => exact hold.undef respected
  | includeSystem header | includeLocal header =>
      exact respects header macros hold
  | _ => exact hold

theorem Hold.step (respects : env.Respects facts) {directive : Directive}
    (respected : directive.respects facts = true)
    (hold : Hold facts state.macros) :
    Hold facts (step env state directive).macros := by
  rcases step_cases env state directive with ⟨macros, -⟩ | ⟨-, macros, -⟩
  · rw [macros]
    exact hold
  · rw [macros]
    exact hold.effect respects respected

theorem Hold.run (respects : env.Respects facts) {lines : List Directive}
    (respected : ∀ directive ∈ lines, directive.respects facts = true)
    (hold : Hold facts state.macros) :
    Hold facts (run env state lines).macros := by
  induction lines generalizing state with
  | nil => exact hold
  | cons directive rest induction =>
      exact induction
        (fun later member => respected later (List.mem_cons_of_mem _ member))
        (hold.step respects (respected directive List.mem_cons_self))

theorem Tracks.step_stack (tracks : Tracks facts stack state)
    (directive : Directive) :
    List.Forall₂ KnownFrame.Of (track facts stack directive)
      (step env state directive).stack := by
  cases directive with
  | ifdef symbol => exact (tracks.push (tracks.hold symbol)).stack
  | ifndef symbol => exact (tracks.push (tracks.hold symbol).not).stack
  | if_ condition =>
      exact (tracks.push (tracks.hold.condition env condition)).stack
  | elif condition =>
      obtain ⟨_, _, _⟩ := state
      obtain ⟨frames, hold⟩ := tracks
      cases frames with
      | nil => exact .nil
      | cons frame rest =>
          have truth := frame.taken.not.both (hold.condition env condition)
          exact .cons ⟨frame.taken.either truth, truth⟩ rest
  | else_ =>
      obtain ⟨_, _, _⟩ := state
      cases tracks.stack with
      | nil => exact .nil
      | cons frame rest => exact .cons ⟨.some true, frame.taken.not⟩ rest
  | endif =>
      obtain ⟨_, _, _⟩ := state
      cases tracks.stack with
      | nil => exact .nil
      | cons _ rest => exact rest
  | define _ | undef _ | includeSystem _ | includeLocal _ | line _ | blank =>
      rw [step_plain_stack env state rfl]
      exact tracks.stack

theorem Tracks.step (respects : env.Respects facts)
    (tracks : Tracks facts stack state) {directive : Directive}
    (respected : directive.respects facts = true) :
    Tracks facts (track facts stack directive) (step env state directive) :=
  ⟨tracks.step_stack directive, tracks.hold.step respects respected⟩

def isLine (text : String) : Directive → Bool
  | .line other => sameText other text
  | _ => false

variable (facts) in
def fates (text : String) :
    List KnownFrame → List Directive → List (Option Bool)
  | _, [] => []
  | stack, directive :: rest =>
      if isLine text directive then
        knownActive stack :: fates text (track facts stack directive) rest
      else fates text (track facts stack directive) rest

theorem isLine_iff {text : String} {directive : Directive} :
    isLine text directive = true ↔ directive = .line text := by
  cases directive <;> simp [isLine, sameText_iff]

theorem step_extends_emitted (env : Environment) (state : State)
    (directive : Directive) :
    state.emitted <+: (step env state directive).emitted := by
  rcases step_cases env state directive with ⟨-, emitted⟩ | ⟨-, -, emitted⟩
  · exact ⟨[], by rw [emitted, List.append_nil]⟩
  · exact ⟨[directive], emitted.symm⟩

theorem run_extends_emitted (env : Environment) (lines : List Directive)
    (state : State) : state.emitted <+: (run env state lines).emitted := by
  induction lines generalizing state with
  | nil => exact List.prefix_refl _
  | cons directive rest induction =>
      exact (step_extends_emitted env state directive).trans (induction _)

theorem emitted_of_fates (respects : env.Respects facts) {text : String}
    {lines : List Directive}
    (respected : ∀ directive ∈ lines, directive.respects facts = true)
    (tracks : Tracks facts stack state)
    (fate : some true ∈ fates facts text stack lines) :
    .line text ∈ (run env state lines).emitted := by
  induction lines generalizing stack state with
  | nil => cases fate
  | cons directive rest induction =>
      obtain ⟨first, later⟩ := List.forall_mem_cons.mp respected
      have next := induction later (tracks.step respects first)
      rw [fates] at fate
      split_ifs at fate with here
      · rcases List.mem_cons.mp fate with decided | decidedLater
        · obtain rfl := isLine_iff.mp here
          have active : state.active = true :=
            tracks.active true decided.symm
          apply (run_extends_emitted env rest _).subset
          rw [Cpp.step, if_pos active]
          exact List.mem_append_right _ (List.mem_singleton_self _)
        · exact next decidedLater
      · exact next fate

theorem step_emitted_mem {directive emitted : Directive}
    (member : emitted ∈ (step env state directive).emitted) :
    emitted ∈ state.emitted ∨
      emitted = directive ∧ state.active = true := by
  rcases step_cases env state directive with ⟨-, same⟩ | ⟨active, -, same⟩
  · rw [same] at member
    exact .inl member
  · rw [same] at member
    rcases List.mem_append.mp member with before | here
    · exact .inl before
    · exact .inr ⟨List.mem_singleton.mp here, active⟩

theorem not_emitted_of_fates (respects : env.Respects facts) {text : String}
    {lines : List Directive}
    (respected : ∀ directive ∈ lines, directive.respects facts = true)
    (tracks : Tracks facts stack state)
    (fate : ∀ known ∈ fates facts text stack lines, known = some false)
    (fresh : .line text ∉ state.emitted) :
    .line text ∉ (run env state lines).emitted := by
  induction lines generalizing stack state with
  | nil => exact fresh
  | cons directive rest induction =>
      obtain ⟨first, later⟩ := List.forall_mem_cons.mp respected
      have tracked := tracks.step respects first
      rw [fates] at fate
      split_ifs at fate with here
      · have inactive : state.active = false :=
          tracks.active false (fate _ (List.mem_cons_self ..))
        apply induction later tracked fun known member =>
          fate known (List.mem_cons_of_mem _ member)
        intro member
        rcases step_emitted_mem member with before | ⟨-, active⟩
        · exact fresh before
        · rw [inactive] at active
          cases active
      · apply induction later tracked fate
        intro member
        rcases step_emitted_mem member with before | ⟨same, -⟩
        · exact fresh before
        · exact here (isLine_iff.mpr same.symm)

end Track

theorem run_emitted_mem {env : Environment} {state : State}
    {lines : List Directive} {directive : Directive}
    (member : directive ∈ (run env state lines).emitted) :
    directive ∈ state.emitted ∨ directive ∈ lines := by
  induction lines generalizing state with
  | nil => exact .inl member
  | cons first rest induction =>
      rcases induction member with before | later
      · rcases step_emitted_mem before with earlier | ⟨rfl, -⟩
        · exact .inl earlier
        · exact .inr List.mem_cons_self
      · exact .inr (List.mem_cons_of_mem _ later)

end ExtUnix.Cpp
