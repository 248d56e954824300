import Mathlib.Data.Finset.Basic
import Mathlib.Data.Finset.Lattice.Basic
import Mathlib.Tactic.Common

namespace ExtUnix.Safety

/-! Functions written in C for a runtime whose collector moves values and whose
lock one thread holds at a time.  The names of their variables are of any type. -/

section Language

variable {ν : Type}

inductive Action (ν : Type) where
  | param (values : List ν)
  | locals (values : List ν)
  | drop (values : List ν)
  | inspect (values : List ν)
  | copy (target source : ν)
  /-- An allocation of the runtime, which may collect first. -/
  | create (target : ν)
  | borrow (pointer value : ν)
  /-- A pointer to memory outside the heap that lives as long as the value. -/
  | pin (pointer value : ν)
  /-- An allocation of C, whose failure is a branch of the function. -/
  | malloc (block : ν)
  /-- `caml_stat_alloc`, whose failure is an exception. -/
  | reserve (block : ν)
  /-- Freeing a block, or giving it to an owner that will. -/
  | free (block : ν)
  | touch (pointers : List ν)
  | enter
  | leave

/-- The exceptions that the functions of the runtime may raise: before the lock is
given up the handlers of signals that wait are run, and memory may run out. -/
structure Faults where
  handlers : Bool
  memory : Bool
  deriving DecidableEq

def Action.raises (faults : Faults) : Action ν → Bool
  | .enter => faults.handlers
  | .create _ | .reserve _ => faults.memory
  | _ => false

inductive Command (ν : Type) where
  | skip
  | act (action : Action ν)
  | seq (first second : Command ν)
  | choose (left right : Command ν)
  | loop (body : Command ν)
  | stop (raised : Bool) (values : List ν)

def block (commands : List (Command ν)) : Command ν :=
  commands.foldr .seq .skip

/-! The state.  A value is valid while its variable says where it is; a block
is allocated until it is freed. -/

structure State (ν : Type) where
  released : Bool
  allocated : Finset ν
  rooted : Finset ν
  valid : Finset ν
  borrowed : Finset ν
  pinned : Finset ν

variable [DecidableEq ν]

def start (params : List ν) : State ν := ⟨false, ∅, ∅, params.toFinset, ∅, ∅⟩

/-- After a collection: only what the collector knew of is where it was. -/
def State.settled (state : State ν) : State ν :=
  { state with valid := state.valid ∩ state.rooted, borrowed := ∅ }

def State.collected (moved : Bool) (state : State ν) : State ν :=
  if moved then state.settled else state

def State.knows (state : State ν) (values : List ν) : Prop :=
  state.released = false ∧ ∀ value ∈ values, value ∈ state.valid

instance (state : State ν) (values : List ν) : Decidable (state.knows values) :=
  inferInstanceAs (Decidable (_ ∧ _))

/-- The rules of the runtime.  A calm function is one declared never to
allocate, to raise or to give up the lock. -/
def Allowed (calm : Bool) : Action ν → State ν → Prop
  | .param values, state | .inspect values, state => state.knows values
  | .locals _, state | .drop _, state => state.released = false
  | .copy _ source, state => state.knows [source]
  | .create _, state | .enter, state =>
      calm = false ∧ state.released = false
  | .borrow _ value, state => state.knows [value]
  | .pin _ value, state => state.knows [value] ∧ value ∈ state.rooted
  | .malloc block, state | .reserve block, state => block ∉ state.allocated
  | .free block, state => block ∈ state.allocated
  | .touch pointers, state => ∀ pointer ∈ pointers,
      pointer ∈ state.allocated ∨ pointer ∈ state.borrowed ∨
        pointer ∈ state.pinned
  | .leave, state => state.released = true

instance (calm : Bool) (state : State ν) : (action : Action ν) →
    Decidable (Allowed calm action state)
  | .param values | .inspect values =>
      inferInstanceAs (Decidable (state.knows values))
  | .locals _ | .drop _ => inferInstanceAs (Decidable (_ = false))
  | .copy _ source => inferInstanceAs (Decidable (state.knows [source]))
  | .create _ | .enter => inferInstanceAs (Decidable (_ = false ∧ _ = false))
  | .borrow _ value => inferInstanceAs (Decidable (state.knows [value]))
  | .pin _ value => inferInstanceAs (Decidable (state.knows [value] ∧ _ ∈ _))
  | .malloc _ | .reserve _ => inferInstanceAs (Decidable (_ ∉ _))
  | .free _ => inferInstanceAs (Decidable (_ ∈ _))
  | .touch pointers => inferInstanceAs (Decidable (∀ pointer ∈ pointers, _))
  | .leave => inferInstanceAs (Decidable (_ = true))

/-- The state after an action; `moved` tells whether the collector ran in it. -/
def after (moved : Bool) : Action ν → State ν → State ν
  | .param values, state =>
      { state with rooted := state.rooted ∪ values.toFinset }
  | .locals values, state => { state with
      rooted := state.rooted ∪ values.toFinset
      valid := state.valid ∪ values.toFinset }
  | .drop values, state =>
      { state with rooted := state.rooted \ values.toFinset, pinned := ∅ }
  | .inspect _, state | .touch _, state => state
  | .copy target _, state => { state with valid := insert target state.valid }
  | .create target, state =>
      let state := state.collected moved
      { state with valid := insert target state.valid }
  | .borrow pointer _, state =>
      { state with borrowed := insert pointer state.borrowed }
  | .pin pointer _, state =>
      { state with pinned := insert pointer state.pinned }
  | .malloc block, state | .reserve block, state =>
      { state with allocated := insert block state.allocated }
  | .free block, state =>
      { state with allocated := state.allocated.erase block }
  | .enter, state => { state.collected moved with released := true }
  | .leave, state => { state.collected moved with released := false }

/-- What a function has to leave behind: the lock held, no block of its own. -/
def MayStop (calm raised : Bool) (values : List ν) (state : State ν) : Prop :=
  (raised = true → calm = false) ∧ state.knows values ∧ state.allocated = ∅

instance (calm raised : Bool) (values : List ν) (state : State ν) :
    Decidable (MayStop calm raised values state) :=
  inferInstanceAs (Decidable (_ ∧ _))

inductive Result (ν : Type) where
  | next (state : State ν)
  | stopped
  | wrong

def Result.ended : Result ν → Prop
  | .next _ => False
  | _ => True

inductive Exec (faults : Faults) (calm : Bool) :
    Command ν → State ν → Result ν → Prop
  | skip {state} : Exec faults calm .skip state (.next state)
  | act {action state} (moved : Bool) : Allowed calm action state →
      Exec faults calm (.act action) state (.next (after moved action state))
  | raised {action state} : Allowed calm action state →
      action.raises faults = true → MayStop calm true [] state →
      Exec faults calm (.act action) state .stopped
  | raisedWrong {action state} : Allowed calm action state →
      action.raises faults = true → ¬MayStop calm true [] state →
      Exec faults calm (.act action) state .wrong
  | actWrong {action state} : ¬Allowed calm action state →
      Exec faults calm (.act action) state .wrong
  | seq {first second state middle result} :
      Exec faults calm first state (.next middle) →
      Exec faults calm second middle result →
      Exec faults calm (.seq first second) state result
  | seqEnd {first second state result} :
      Exec faults calm first state result → result.ended →
      Exec faults calm (.seq first second) state result
  | left {left right state result} : Exec faults calm left state result →
      Exec faults calm (.choose left right) state result
  | right {left right state result} : Exec faults calm right state result →
      Exec faults calm (.choose left right) state result
  | loopExit {body state} : Exec faults calm (.loop body) state (.next state)
  | loopAgain {body state middle result} :
      Exec faults calm body state (.next middle) →
      Exec faults calm (.loop body) middle result →
      Exec faults calm (.loop body) state result
  | loopEnd {body state result} :
      Exec faults calm body state result → result.ended →
      Exec faults calm (.loop body) state result
  | stop {raised values state} : MayStop calm raised values state →
      Exec faults calm (.stop raised values) state .stopped
  | stopWrong {raised values state} : ¬MayStop calm raised values state →
      Exec faults calm (.stop raised values) state .wrong

/-- No execution breaks a rule, or falls off the end of the function. -/
def Safe (faults : Faults) (calm : Bool) (command : Command ν)
    (state : State ν) : Prop :=
  ∀ result, Exec faults calm command state result → result = .stopped

end Language

end ExtUnix.Safety
