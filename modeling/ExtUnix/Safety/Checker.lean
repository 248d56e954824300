import ExtUnix.Safety.Language

namespace ExtUnix.Safety

/-! A decision, made on the worst state of a run: where every collection moves
what it can, and two ways meet in what both are sure of. -/

section Checker

variable {ν : Type}

/-- `state` is sure of no more than `other`. -/
structure State.Below (state other : State ν) : Prop where
  released : state.released = other.released
  allocated : state.allocated = other.allocated
  rooted : state.rooted ⊆ other.rooted
  valid : state.valid ⊆ other.valid
  borrowed : state.borrowed ⊆ other.borrowed
  pinned : state.pinned ⊆ other.pinned

theorem State.below_iff {state other : State ν} : state.Below other ↔
    state.released = other.released ∧ state.allocated = other.allocated ∧
      state.rooted ⊆ other.rooted ∧ state.valid ⊆ other.valid ∧
      state.borrowed ⊆ other.borrowed ∧ state.pinned ⊆ other.pinned := by
  constructor
  · rintro ⟨released, allocated, rooted, valid, borrowed, pinned⟩
    exact ⟨released, allocated, rooted, valid, borrowed, pinned⟩
  · rintro ⟨released, allocated, rooted, valid, borrowed, pinned⟩
    exact ⟨released, allocated, rooted, valid, borrowed, pinned⟩

namespace State.Below

variable {state other third : State ν}

theorem refl (state : State ν) : state.Below state :=
  ⟨rfl, rfl, subset_rfl, subset_rfl, subset_rfl, subset_rfl⟩

theorem trans (first : state.Below other) (second : other.Below third) :
    state.Below third where
  released := first.released.trans second.released
  allocated := first.allocated.trans second.allocated
  rooted := first.rooted.trans second.rooted
  valid := first.valid.trans second.valid
  borrowed := first.borrowed.trans second.borrowed
  pinned := first.pinned.trans second.pinned

theorem knows (below : state.Below other) {values : List ν}
    (known : state.knows values) : other.knows values :=
  ⟨below.released ▸ known.1, fun value member =>
    below.valid (known.2 value member)⟩

theorem mayStop (below : state.Below other) {calm raised : Bool}
    {values : List ν} (may : MayStop calm raised values state) :
    MayStop calm raised values other :=
  ⟨may.1, below.knows may.2.1, below.allocated ▸ may.2.2⟩

theorem allowed (below : state.Below other) {calm : Bool} {action : Action ν}
    (allowed : Allowed calm action state) : Allowed calm action other := by
  cases action with
  | param values | inspect values => exact below.knows allowed
  | locals values | drop values => exact below.released.symm.trans allowed
  | copy target source => exact below.knows allowed
  | create target => exact ⟨allowed.1, below.released ▸ allowed.2⟩
  | borrow pointer value => exact below.knows allowed
  | pin pointer value =>
      exact ⟨below.knows allowed.1, below.rooted allowed.2⟩
  | malloc name | reserve name =>
      show name ∉ other.allocated
      rw [← below.allocated]
      exact allowed
  | free name =>
      show name ∈ other.allocated
      rw [← below.allocated]
      exact allowed
  | touch pointers =>
      intro pointer member
      rcases allowed pointer member with isAllocated | borrowed | pinned
      · exact .inl (below.allocated ▸ isAllocated)
      · exact .inr (.inl (below.borrowed borrowed))
      · exact .inr (.inr (below.pinned pinned))
  | enter => exact ⟨allowed.1, below.released ▸ allowed.2⟩
  | leave => exact below.released.symm.trans allowed

variable [DecidableEq ν]

theorem settled (state : State ν) : state.settled.Below state :=
  ⟨rfl, rfl, subset_rfl, Finset.inter_subset_left, Finset.empty_subset _,
    subset_rfl⟩

theorem settled_mono (below : state.Below other) :
    state.settled.Below other.settled where
  released := below.released
  allocated := below.allocated
  rooted := below.rooted
  valid := Finset.inter_subset_inter below.valid below.rooted
  borrowed := subset_rfl
  pinned := below.pinned

/-- Whether or not the collector runs, its running is the worst case. -/
theorem collected (below : state.Below other) (moved : Bool) :
    (state.collected true).Below (other.collected moved) := by
  cases moved with
  | true => exact below.settled_mono
  | false => exact (settled state).trans below

theorem after (below : state.Below other) (moved : Bool) (action : Action ν) :
    (after true action state).Below (after moved action other) := by
  cases action with
  | param values => exact { below with
      rooted := Finset.union_subset_union_left below.rooted }
  | locals values => exact { below with
      rooted := Finset.union_subset_union_left below.rooted
      valid := Finset.union_subset_union_left below.valid }
  | drop values => exact { below with
      rooted := Finset.sdiff_subset_sdiff below.rooted subset_rfl
      pinned := subset_rfl }
  | inspect values | touch pointers => exact below
  | copy target source => exact { below with
      valid := Finset.insert_subset_insert target below.valid }
  | create target => exact { below.collected moved with
      valid := Finset.insert_subset_insert target (below.collected moved).valid }
  | borrow pointer value => exact { below with
      borrowed := Finset.insert_subset_insert pointer below.borrowed }
  | pin pointer value => exact { below with
      pinned := Finset.insert_subset_insert pointer below.pinned }
  | malloc name | reserve name | free name => exact { below with
      allocated := by
        show _ = _
        simp only [Safety.after, below.allocated] }
  | enter | leave => exact { below.collected moved with released := rfl }

end State.Below

variable [DecidableEq ν]

instance (state other : State ν) : Decidable (state.Below other) :=
  decidable_of_iff' _ State.below_iff

def State.meet (state other : State ν) : State ν :=
  { state with
    rooted := state.rooted ∩ other.rooted
    valid := state.valid ∩ other.valid
    borrowed := state.borrowed ∩ other.borrowed
    pinned := state.pinned ∩ other.pinned }

theorem State.meet_below_left (state other : State ν) :
    (state.meet other).Below state :=
  ⟨rfl, rfl, Finset.inter_subset_left, Finset.inter_subset_left,
    Finset.inter_subset_left, Finset.inter_subset_left⟩

theorem State.meet_below_right {state other : State ν}
    (released : state.released = other.released)
    (allocated : state.allocated = other.allocated) :
    (state.meet other).Below other :=
  ⟨released, allocated, Finset.inter_subset_right, Finset.inter_subset_right,
    Finset.inter_subset_right, Finset.inter_subset_right⟩

/-! `none` rejects; `some none` accepts what never goes on. -/

def join : Option (State ν) → Option (State ν) → Option (Option (State ν))
  | none, outcome | outcome, none => some outcome
  | some state, some other =>
      if state.released = other.released ∧ state.allocated = other.allocated then
        some (some (state.meet other))
      else none

def keeps (invariant : State ν) : Option (Option (State ν)) → Bool
  | some (some again) => decide (invariant.Below again)
  | some none => true
  | none => false

def check (faults : Faults) (calm : Bool) :
    Command ν → State ν → Option (Option (State ν))
  | .skip, state => some (some state)
  | .act action, state =>
      if Allowed calm action state ∧
          (action.raises faults = true → MayStop calm true [] state) then
        some (some (after true action state))
      else none
  | .seq first second, state =>
      match check faults calm first state with
      | some (some middle) => check faults calm second middle
      | ended => ended
  | .choose left right, state =>
      match check faults calm left state, check faults calm right state with
      | some one, some other => join one other
      | _, _ => none
  | .loop body, state =>
      -- What holds around the loop: the state itself, or what a collection
      -- leaves of it.
      ([state, state.settled].find? fun invariant =>
        keeps invariant (check faults calm body invariant)).map some
  | .stop raised values, state =>
      if MayStop calm raised values state then some none else none

def Result.Within (outcome : Option (State ν)) : Result ν → Prop
  | .next state => ∃ least, outcome = some least ∧ least.Below state
  | .stopped => True
  | .wrong => False

omit [DecidableEq ν] in
theorem Result.Within.of_ended {outcome other : Option (State ν)}
    {result : Result ν} (within : result.Within outcome)
    (ended : result.ended) : result.Within other := by
  cases result with
  | next state => exact ended.elim
  | stopped => trivial
  | wrong => exact within

def Joins (outcome weaker : Option (State ν)) : Prop :=
  ∀ state, outcome = some state → ∃ least, weaker = some least ∧
    least.Below state

omit [DecidableEq ν] in
theorem Result.Within.of_joins {outcome weaker : Option (State ν)}
    {result : Result ν} (within : result.Within outcome)
    (joins : Joins outcome weaker) : result.Within weaker := by
  cases result with
  | next state =>
      obtain ⟨middle, rfl, below⟩ := within
      obtain ⟨least, rfl, lower⟩ := joins middle rfl
      exact ⟨least, rfl, lower.trans below⟩
  | stopped => trivial
  | wrong => exact within

theorem joins_of_join {one other joined : Option (State ν)}
    (isJoin : join one other = some joined) :
    Joins one joined ∧ Joins other joined := by
  cases one with
  | none =>
      obtain rfl : other = joined := Option.some.inj (by rwa [join] at isJoin)
      constructor
      · intro state equation
        cases equation
      · intro state equation
        exact ⟨state, equation, .refl state⟩
  | some first =>
      cases other with
      | none =>
          obtain rfl : some first = joined := Option.some.inj isJoin
          constructor
          · intro state equation
            exact ⟨state, equation, .refl state⟩
          · intro state equation
            cases equation
      | some second =>
          rw [join] at isJoin
          split_ifs at isJoin with same
          cases isJoin
          constructor
          · intro state equation
            cases equation
            exact ⟨_, rfl, first.meet_below_left second⟩
          · intro state equation
            cases equation
            exact ⟨_, rfl, State.meet_below_right same.1 same.2⟩

theorem check_choose {faults : Faults} {calm : Bool} {left right : Command ν}
    {state : State ν} {outcome : Option (State ν)}
    (accepted : check faults calm (.choose left right) state = some outcome) :
    ∃ one other, check faults calm left state = some one ∧
      check faults calm right state = some other ∧ Joins one outcome ∧
      Joins other outcome := by
  rw [check] at accepted
  split at accepted
  next one other first second =>
    obtain ⟨joinsOne, joinsOther⟩ := joins_of_join accepted
    exact ⟨one, other, first, second, joinsOne, joinsOther⟩
  next => cases accepted

theorem keeps_iff {invariant : State ν} {outcome : Option (Option (State ν))} :
    keeps invariant outcome = true ↔ ∃ ending, outcome = some ending ∧
      ∀ again, ending = some again → invariant.Below again := by
  rcases outcome with _ | _ | again <;> simp [keeps]

theorem check_loop {faults : Faults} {calm : Bool} {body : Command ν}
    {state : State ν} {outcome : Option (State ν)}
    (accepted : check faults calm (.loop body) state = some outcome) :
    ∃ invariant : State ν, outcome = some invariant ∧ invariant.Below state ∧
      keeps invariant (check faults calm body invariant) = true ∧
      check faults calm (.loop body) invariant = some (some invariant) := by
  rw [check, Option.map_eq_some_iff] at accepted
  obtain ⟨invariant, found, rfl⟩ := accepted
  have kept := List.find?_some found
  refine ⟨invariant, rfl, ?_, kept, ?_⟩
  · rcases List.mem_pair.mp (List.mem_of_find?_eq_some found) with rfl | rfl
    · exact .refl invariant
    · exact .settled state
  · rw [check, List.find?_cons, kept]
    rfl

/-- Soundness, by induction on the execution. -/
theorem Exec.within {faults : Faults} {calm : Bool} {command : Command ν}
    {state : State ν} {result : Result ν}
    (exec : Exec faults calm command state result) :
    ∀ {least : State ν} {outcome : Option (State ν)},
      check faults calm command least = some outcome → least.Below state →
      result.Within outcome := by
  induction exec with
  | skip =>
      intro least outcome accepted below
      cases accepted
      exact ⟨least, rfl, below⟩
  | @act action state moved allowed =>
      intro least outcome accepted below
      rw [check] at accepted
      split_ifs at accepted with leastAllowed
      cases accepted
      exact ⟨_, rfl, below.after moved action⟩
  | raised allowed raises may =>
      intro least outcome accepted below
      trivial
  | raisedWrong allowed raises forbidden =>
      intro least outcome accepted below
      rw [check] at accepted
      split_ifs at accepted with leastAllowed
      exact forbidden (below.mayStop (leastAllowed.2 raises))
  | actWrong forbidden =>
      intro least outcome accepted below
      rw [check] at accepted
      split_ifs at accepted with leastAllowed
      exact forbidden (below.allowed leastAllowed.1)
  | seq _ _ first second =>
      intro least outcome accepted below
      rw [check] at accepted
      split at accepted
      next middle checked =>
        obtain ⟨least, equation, later⟩ := first checked below
        cases equation
        exact second accepted later
      next stuck =>
        obtain ⟨middle, rfl, -⟩ := first accepted below
        exact (stuck middle accepted).elim
  | seqEnd _ ended first =>
      intro least outcome accepted below
      rw [check] at accepted
      split at accepted
      next middle checked => exact (first checked below).of_ended ended
      next stuck => exact first accepted below
  | left _ induction =>
      intro least outcome accepted below
      obtain ⟨one, other, checked, -, joins, -⟩ := check_choose accepted
      exact (induction checked below).of_joins joins
  | right _ induction =>
      intro least outcome accepted below
      obtain ⟨one, other, -, checked, -, joins⟩ := check_choose accepted
      exact (induction checked below).of_joins joins
  | loopExit =>
      intro least outcome accepted below
      obtain ⟨invariant, rfl, lower, -⟩ := check_loop accepted
      exact ⟨invariant, rfl, lower.trans below⟩
  | loopAgain _ _ first again =>
      intro least outcome accepted below
      obtain ⟨invariant, rfl, lower, kept, repeated⟩ := check_loop accepted
      obtain ⟨ending, checked, invariantAgain⟩ := keeps_iff.mp kept
      obtain ⟨middle, rfl, later⟩ := first checked (lower.trans below)
      exact again repeated ((invariantAgain middle rfl).trans later)
  | loopEnd _ ended first =>
      intro least outcome accepted below
      obtain ⟨invariant, rfl, lower, kept, -⟩ := check_loop accepted
      obtain ⟨ending, checked, -⟩ := keeps_iff.mp kept
      exact (first checked (lower.trans below)).of_ended ended
  | stop _ =>
      intro least outcome accepted below
      trivial
  | stopWrong forbidden =>
      intro least outcome accepted below
      rw [check] at accepted
      split_ifs at accepted with may
      exact forbidden (below.mayStop may)

theorem safe_of_check {faults : Faults} {calm : Bool} {command : Command ν}
    {state : State ν}
    (accepted : check faults calm command state = some none) :
    Safe faults calm command state := by
  intro result exec
  have within := exec.within accepted (.refl state)
  cases result with
  | next state =>
      obtain ⟨least, outcome, -⟩ := within
      cases outcome
  | stopped => rfl
  | wrong => exact within.elim

def accepts (faults : Faults) (calm : Bool) (command : Command ν)
    (state : State ν) : Bool :=
  match check faults calm command state with
  | some none => true
  | _ => false

theorem safe_of_accepts {faults : Faults} {calm : Bool} {command : Command ν}
    {state : State ν}
    (accepted : accepts faults calm command state = true) :
    Safe faults calm command state := by
  rw [accepts] at accepted
  split at accepted
  next checked => exact safe_of_check checked
  next => cases accepted

/-! Some executions, with every collection and with loops that run once at most,
to refute with. -/

def explore (faults : Faults) (calm : Bool) :
    Command ν → State ν → List (Result ν)
  | .skip, state => [.next state]
  | .act action, state =>
      if Allowed calm action state then
        .next (after true action state) ::
          if action.raises faults then
            [if MayStop calm true [] state then .stopped else .wrong]
          else []
      else [.wrong]
  | .seq first second, state =>
      (explore faults calm first state).flatMap fun
        | .next middle => explore faults calm second middle
        | ended => [ended]
  | .choose left right, state =>
      explore faults calm left state ++ explore faults calm right state
  | .loop body, state => .next state :: explore faults calm body state
  | .stop raised values, state =>
      if MayStop calm raised values state then [.stopped] else [.wrong]

theorem exec_of_explore {faults : Faults} {calm : Bool} {command : Command ν}
    {state : State ν} {result : Result ν}
    (explored : result ∈ explore faults calm command state) :
    Exec faults calm command state result := by
  induction command generalizing state result with
  | skip =>
      obtain rfl := List.mem_singleton.mp explored
      exact .skip
  | act action =>
      rw [explore] at explored
      split_ifs at explored with allowed raises may
      · rcases List.mem_pair.mp explored with rfl | rfl
        · exact .act true allowed
        · exact .raised allowed raises may
      · rcases List.mem_pair.mp explored with rfl | rfl
        · exact .act true allowed
        · exact .raisedWrong allowed raises may
      · obtain rfl := List.mem_singleton.mp explored
        exact .act true allowed
      · obtain rfl := List.mem_singleton.mp explored
        exact .actWrong allowed
  | seq first second firstInduction secondInduction =>
      rw [explore, List.mem_flatMap] at explored
      obtain ⟨reached, inFirst, inSecond⟩ := explored
      have began := firstInduction inFirst
      cases reached with
      | next middle => exact .seq began (secondInduction inSecond)
      | stopped | wrong =>
          obtain rfl := List.mem_singleton.mp inSecond
          exact .seqEnd began trivial
  | choose left right leftInduction rightInduction =>
      rcases List.mem_append.mp explored with inLeft | inRight
      · exact .left (leftInduction inLeft)
      · exact .right (rightInduction inRight)
  | loop body induction =>
      rcases List.mem_cons.mp explored with rfl | once
      · exact .loopExit
      · have ran := induction once
        cases result with
        | next middle => exact .loopAgain ran .loopExit
        | stopped | wrong => exact .loopEnd ran trivial
  | stop raised values =>
      rw [explore] at explored
      split_ifs at explored with may
      · obtain rfl := List.mem_singleton.mp explored
        exact .stop may
      · obtain rfl := List.mem_singleton.mp explored
        exact .stopWrong may

def Result.isWrong : Result ν → Bool
  | .wrong => true
  | _ => false

theorem not_safe_of_explore {faults : Faults} {calm : Bool} {command : Command ν}
    {state : State ν}
    (found : (explore faults calm command state).any Result.isWrong = true) :
    ¬Safe faults calm command state := by
  intro safe
  obtain ⟨result, explored, wrong⟩ := List.any_eq_true.mp found
  have stopped := safe result (exec_of_explore explored)
  subst stopped
  cases wrong

end Checker

end ExtUnix.Safety
