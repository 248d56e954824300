import ExtUnix.Userns.Safety

namespace ExtUnix.Userns

open ExtUnix.Data

/-! No process waits for ever. -/

def Parent.rank : Parent → Nat
  | .spawning => 8
  | .unsharing => 7
  | .forking => 6
  | .sending => 5
  | .awaitingHelper => 4
  | .releasing => 3
  | .closing => 2
  | .awaitingChild => 1
  | .ended _ => 0

def Helper.rank : Helper → Nat
  | .absent => 6
  | .starting => 5
  | .receiving => 4
  | .mappingUid _ => 3
  | .mappingGid _ => 2
  | .killing _ | .exiting => 1
  | .ended _ => 0

def Child.rank : Child → Nat
  | .absent => 5
  | .starting => 4
  | .waiting => 3
  | .closing => 2
  | .inside => 1
  | .ended _ => 0

def State.rank (state : State) : Nat :=
  state.parent.rank + state.helper.rank + state.child.rank

structure Live (state : State) : Prop where
  fresh : state.parent = .spawning → state.helper = .absent
  ready : state.parent.holdsMessage → state.helper ≠ .absent
  told : state.parent = .awaitingHelper → state.helper ≠ .absent ∧
    (state.helper.reading → state.message ≠ none)
  unborn : state.parent.early → state.child = .absent
  born : state.parent.holdsToken ∨ state.parent = .awaitingChild →
    state.child ≠ .absent

theorem initial_live : Live initial := by
  constructor <;> simp [initial, Parent.holdsMessage, Parent.holdsToken]

section Progress

variable {setup : Setup} {state next : State}

theorem parentStep_live (live : Live state) {ok : Bool}
    (stepped : parentStep setup ok state = some next) :
    Live next ∧ next.rank < state.rank := by
  obtain ⟨fresh, ready, told, unborn, born⟩ := live
  obtain ⟨parent, helper, child, message, byte, uidMap, gidMap⟩ := state
  cases parent with
  | spawning =>
      obtain rfl := fresh rfl
      obtain rfl := unborn rfl
      cases ok <;> obtain rfl := Option.some.inj stepped
      all_goals
        refine ⟨?_, by simp only [State.rank, Parent.rank, Helper.rank]; omega⟩
        constructor <;>
          simp [Parent.holdsMessage, Parent.holdsToken, Parent.early]
  | unsharing =>
      have present := ready rfl
      obtain rfl := unborn rfl
      cases ok <;> obtain rfl := Option.some.inj stepped
      all_goals
        refine ⟨?_, by simp only [State.rank, Parent.rank]; omega⟩
        constructor <;>
          simp [Parent.holdsMessage, Parent.holdsToken, Parent.early, present]
  | forking =>
      have present := ready rfl
      obtain rfl := unborn rfl
      cases ok <;> obtain rfl := Option.some.inj stepped
      all_goals
        refine ⟨?_, by simp only [State.rank, Parent.rank, Child.rank]; omega⟩
        constructor <;>
          simp [Parent.holdsMessage, Parent.holdsToken, Parent.early, present]
  | sending =>
      have present := ready rfl
      have running := born (.inl rfl)
      cases helper <;> obtain rfl := Option.some.inj stepped
      all_goals
        refine ⟨?_, by simp only [State.rank, Parent.rank]; omega⟩
        constructor <;>
          simp_all [Parent.holdsMessage, Parent.holdsToken, Parent.early]
  | awaitingHelper =>
      have running := born (.inl rfl)
      cases helper with
      | ended status =>
          obtain rfl := Option.some.inj stepped
          rcases status with ⟨_ | code⟩ | signal <;> cases ok
          all_goals
            refine ⟨?_, by simp only [State.rank, Parent.rank, Parent.afterHelper]; omega⟩
            constructor <;> simp [Parent.afterHelper, Parent.holdsMessage,
              Parent.holdsToken, Parent.early, running]
      | _ => cases stepped
  | releasing =>
      have running := born (.inl rfl)
      cases child <;> obtain rfl := Option.some.inj stepped
      all_goals
        refine ⟨?_, by simp only [State.rank, Parent.rank]; omega⟩
        constructor <;>
          simp_all [Parent.holdsMessage, Parent.holdsToken, Parent.early]
  | closing =>
      have running := born (.inl rfl)
      obtain rfl := Option.some.inj stepped
      refine ⟨?_, by simp only [State.rank, Parent.rank]; omega⟩
      constructor <;>
        simp [Parent.holdsMessage, Parent.holdsToken, Parent.early, running]
  | awaitingChild =>
      cases child with
      | ended status =>
          obtain rfl := Option.some.inj stepped
          rcases status with code | signal <;> cases ok
          all_goals
            refine ⟨?_, by simp only [State.rank, Parent.rank, Parent.afterChild]; omega⟩
            constructor <;> simp [Parent.afterChild, Parent.holdsMessage,
              Parent.holdsToken, Parent.early]
      | _ => cases stepped
  | ended status => cases stepped

theorem Live.moved (live : Live state) (parent : next.parent = state.parent)
    (child : next.child = .absent ↔ state.child = .absent)
    (present : state.helper ≠ .absent) (later : next.helper ≠ .absent)
    (read : next.helper.reading → next.message = state.message ∧
      state.helper.reading) : Live next := by
  obtain ⟨fresh, ready, told, unborn, born⟩ := live
  constructor <;> rw [parent]
  · exact fun spawning => absurd (fresh spawning) present
  · exact fun _ => later
  · intro awaiting
    refine ⟨later, fun reading => ?_⟩
    obtain ⟨same, before⟩ := read reading
    exact same ▸ (told awaiting).2 before
  · exact fun early => child.mpr (unborn early)
  · exact fun holds absent => born holds (child.mp absent)

theorem Child.killed_absent_iff (child : Child) :
    child.killed = .absent ↔ child = .absent := by
  cases child <;> simp [killed, running]

theorem Child.killed_rank_le (child : Child) :
    child.killed.rank ≤ child.rank := by
  cases child <;> simp [killed, running, rank]

theorem helperStep_live (live : Live state) {ok : Bool}
    (stepped : helperStep setup ok state = some next) :
    Live next ∧ next.rank < state.rank := by
  obtain ⟨parent, helper, child, message, byte, uidMap, gidMap⟩ := state
  cases helper with
  | absent | ended status => cases stepped
  | starting | exiting =>
      obtain rfl := Option.some.inj stepped
      refine ⟨live.moved rfl .rfl (by simp) (by simp)
        (by simp [Helper.reading]), ?_⟩
      simp only [State.rank, Helper.rank]
      omega
  | receiving =>
      rw [helperStep] at stepped
      simp only at stepped
      split at stepped
      · obtain rfl := Option.some.inj stepped
        refine ⟨live.moved rfl .rfl (by simp) (by simp)
          (by simp [Helper.reading]), ?_⟩
        simp only [State.rank, Helper.rank]
        omega
      · split_ifs at stepped
        obtain rfl := Option.some.inj stepped
        refine ⟨live.moved rfl .rfl (by simp) (by simp)
          (by simp [Helper.reading]), ?_⟩
        simp only [State.rank, Helper.rank]
        omega
  | mappingUid pid | mappingGid pid =>
      cases ok <;> obtain rfl := Option.some.inj stepped
      · cases idmap : setup.idmap
        all_goals
          refine ⟨live.moved rfl .rfl (by simp) (by simp [Setup.failing, idmap])
            (by simp [Setup.failing, idmap, Helper.reading]), ?_⟩
          simp only [State.rank, Setup.failing, idmap, Helper.rank]
          omega
      · refine ⟨live.moved rfl .rfl (by simp) (by simp)
          (by simp [Helper.reading]), ?_⟩
        simp only [State.rank, Helper.rank]
        omega
  | killing pid =>
      obtain rfl := Option.some.inj stepped
      have dead := child.killed_rank_le
      by_cases own : pid = setup.pid
      · refine ⟨live.moved rfl ?_ (by simp) (by simp)
          (by simp [Helper.reading]), ?_⟩
        · simp [own, child.killed_absent_iff]
        · simp only [State.rank, Helper.rank, own, if_true]
          omega
      · refine ⟨live.moved rfl ?_ (by simp) (by simp)
          (by simp [Helper.reading]), ?_⟩
        · simp [own]
        · simp only [State.rank, Helper.rank, own, if_false]
          omega

theorem Live.aside (live : Live state) (parent : next.parent = state.parent)
    (helper : next.helper = state.helper) (message : next.message = state.message)
    (present : next.child ≠ .absent) (before : state.child ≠ .absent) :
    Live next := by
  obtain ⟨fresh, ready, told, unborn, born⟩ := live
  constructor <;> rw [parent]
  · exact helper ▸ fresh
  · exact helper ▸ ready
  · exact helper ▸ message ▸ told
  · exact fun early => absurd (unborn early) before
  · exact fun _ => present

theorem childStep_live (live : Live state) {code : Nat}
    (stepped : childStep code state = some next) :
    Live next ∧ next.rank < state.rank := by
  obtain ⟨parent, helper, child, message, byte, uidMap, gidMap⟩ := state
  cases child with
  | absent | ended status => cases stepped
  | starting | closing | inside =>
      obtain rfl := Option.some.inj stepped
      refine ⟨live.aside rfl rfl rfl (by simp) (by simp), ?_⟩
      simp only [State.rank, Child.rank]
      omega
  | waiting =>
      rw [childStep] at stepped
      simp only at stepped
      split_ifs at stepped
      all_goals
        obtain rfl := Option.some.inj stepped
        refine ⟨live.aside rfl rfl rfl (by simp) (by simp), ?_⟩
        simp only [State.rank, Child.rank]
        omega

theorem Parent.rank_pos {parent : Parent} (runs : ∀ status, parent ≠ .ended status) :
    0 < parent.rank := by
  cases parent <;> simp_all [rank]

theorem Helper.rank_pos {helper : Helper} (runs : ∀ status, helper ≠ .ended status) :
    0 < helper.rank := by
  cases helper <;> simp_all [rank]

theorem Child.rank_pos {child : Child} (runs : ∀ status, child ≠ .ended status) :
    0 < child.rank := by
  cases child <;> simp_all [rank]

theorem endParent_live {status : Status}
    (stepped : state.endParent status = some next) :
    Live next ∧ next.rank < state.rank := by
  obtain ⟨runs, rfl⟩ := endParent_eq stepped
  have positive := Parent.rank_pos runs
  constructor
  · constructor <;>
      simp [Parent.holdsMessage, Parent.holdsToken, Parent.early]
  · change 0 + state.helper.rank + state.child.rank <
      state.parent.rank + state.helper.rank + state.child.rank
    omega

theorem endHelper_live (live : Live state) {status : Status}
    (stepped : state.endHelper status = some next) :
    Live next ∧ next.rank < state.rank := by
  obtain ⟨present, runs, rfl⟩ := endHelper_eq stepped
  have positive := Helper.rank_pos runs
  refine ⟨live.moved rfl .rfl present (by simp)
    (by simp [Helper.reading]), ?_⟩
  change state.parent.rank + 0 + state.child.rank <
    state.parent.rank + state.helper.rank + state.child.rank
  omega

theorem endChild_live (live : Live state) {status : Status}
    (stepped : state.endChild status = some next) :
    Live next ∧ next.rank < state.rank := by
  obtain ⟨present, runs, rfl⟩ := endChild_eq stepped
  have positive := Child.rank_pos runs
  refine ⟨live.aside rfl rfl rfl (by simp) present, ?_⟩
  change state.parent.rank + state.helper.rank + 0 <
    state.parent.rank + state.helper.rank + state.child.rank
  omega

theorem step_live {action : Action} (live : Live state)
    (stepped : step setup state action = some next) :
    Live next ∧ next.rank < state.rank := by
  cases action with
  | parent ok => exact parentStep_live live stepped
  | helper ok => exact helperStep_live live stepped
  | child code => exact childStep_live live stepped
  | raiseParent | signalParent signal => exact endParent_live stepped
  | loseHelper loss =>
      rw [step, Option.ite_none_right_eq_some] at stepped
      exact endHelper_live live stepped.2
  | signalHelper signal => exact endHelper_live live stepped
  | raiseChild | signalChild signal => exact endChild_live live stepped

structure Finished (state : State) : Prop where
  parent : state.parent.hasEnded
  helper : state.helper = .absent ∨ ∃ status, state.helper = .ended status
  child : ¬state.child.running

/-- A child that runs can take a step unless the parent is still to release
it. -/
theorem childStep_possible (runs : state.child.running)
    (released : state.parent.holdsToken = false) :
    ∃ next, childStep 0 state = some next := by
  cases at_ : state.child with
  | absent | ended status =>
      rw [at_] at runs
      cases runs
  | starting | closing | inside => exact ⟨_, by rw [childStep, at_]⟩
  | waiting =>
      rw [childStep, at_]
      by_cases token : state.token
      · exact ⟨_, if_pos token⟩
      · refine ⟨_, (if_neg token).trans (if_pos ?_)⟩
        simp [State.tokenEnds, released]

/-- A helper that runs can take a step unless the parent is still to send, or
the child still holds the pipe. -/
theorem helperStep_possible (present : state.helper ≠ .absent)
    (runs : ∀ status, state.helper ≠ .ended status)
    (told : state.helper.reading → state.message ≠ none ∨ state.messageEnds) :
    ∃ next, helperStep setup true state = some next := by
  cases at_ : state.helper with
  | absent => exact absurd at_ present
  | ended status => exact absurd at_ (runs status)
  | receiving =>
      cases message : state.message with
      | some pid => exact ⟨_, by rw [helperStep, at_, message]⟩
      | none =>
          rcases told (by rw [at_]; rfl) with sent | ends
          · exact absurd message sent
          · exact ⟨_, by
              rw [helperStep, at_, message]
              exact if_pos ends⟩
  | starting | killing pid | exiting =>
      exact ⟨_, by rw [helperStep, at_]⟩
  | mappingUid pid | mappingGid pid =>
      exact ⟨_, by
        rw [helperStep, at_]
        exact if_pos rfl⟩

theorem helperStep_acts
    (possible : ∃ next, helperStep setup true state = some next) :
    ∃ action next, action.isOwn = true ∧ step setup state action = some next :=
  possible.elim fun next stepped => ⟨.helper true, next, rfl, stepped⟩

theorem childStep_acts (possible : ∃ next, childStep 0 state = some next) :
    ∃ action next, action.isOwn = true ∧ step setup state action = some next :=
  possible.elim fun next stepped => ⟨.child 0, next, rfl, stepped⟩

theorem live_progress (live : Live state) :
    Finished state ∨ ∃ action next, action.isOwn = true ∧
      step setup state action = some next := by
  have parentActs (possible : ∃ next, parentStep setup true state = some next) :
      ∃ action next, action.isOwn = true ∧
        step setup state action = some next :=
    possible.elim fun next stepped => ⟨.parent true, next, rfl, stepped⟩
  cases at_ : state.parent with
  | spawning | unsharing | forking =>
      exact .inr (parentActs ⟨_, by rw [parentStep, at_]; exact if_pos rfl⟩)
  | sending =>
      refine .inr (parentActs ?_)
      rw [parentStep, at_]
      cases state.helper <;> exact ⟨_, rfl⟩
  | releasing =>
      refine .inr (parentActs ?_)
      rw [parentStep, at_]
      cases state.child <;> exact ⟨_, rfl⟩
  | closing => exact .inr (parentActs ⟨_, by rw [parentStep, at_]⟩)
  | awaitingHelper =>
      obtain ⟨present, told⟩ := live.told at_
      by_cases gone : ∃ status, state.helper = .ended status
      · obtain ⟨status, ended⟩ := gone
        exact .inr (parentActs ⟨_, by rw [parentStep, at_, ended]⟩)
      · exact .inr (helperStep_acts (helperStep_possible present
          (not_exists.mp gone) fun reading => .inl (told reading)))
  | awaitingChild =>
      have present := live.born (.inr at_)
      by_cases runs : state.child.running
      · exact .inr (childStep_acts (childStep_possible runs
          (by rw [at_]; rfl)))
      · cases gone : state.child with
        | absent => exact absurd gone present
        | ended status =>
            exact .inr (parentActs ⟨_, by rw [parentStep, at_, gone]⟩)
        | _ => simp [gone, Child.running] at runs
  | ended status =>
      by_cases runs : state.child.running
      · exact .inr (childStep_acts (childStep_possible runs
          (by rw [at_]; rfl)))
      by_cases gone : state.helper = .absent ∨
          ∃ status, state.helper = .ended status
      · exact .inl ⟨by rw [at_]; rfl, gone, runs⟩
      · obtain ⟨present, running⟩ := not_or.mp gone
        refine .inr (helperStep_acts (helperStep_possible present
          (not_exists.mp running) fun _ => .inr ?_))
        simp [State.messageEnds, at_, Parent.holdsMessage, runs]

end Progress

/-- Whatever fails and whatever signals arrive, no run takes more than nineteen
steps, of which the program inside is one; and from every reachable state the
processes come to an end by themselves. -/
theorem handshake_terminates (setup : Setup) :
    (∀ actions state, follow (step setup) initial actions = some state →
      actions.length ≤ 19) ∧
    ∀ state, Reaches setup state → ∃ actions last,
      (∀ action ∈ actions, action.isOwn = true) ∧
      follow (step setup) state actions = some last ∧ Finished last := by
  constructor
  · intro actions state followed
    have bound := length_add_rank_le State.rank
      (fun live stepped => (step_live live stepped).1)
      (fun live stepped => (step_live live stepped).2) initial_live followed
    exact Nat.le_trans (Nat.le_add_right _ _) bound
  · rintro state ⟨actions, followed⟩
    have live : Live state := follow_keeps
      (fun live stepped => (step_live live stepped).1) initial_live followed
    exact exists_finished State.rank
      (fun live stepped => (step_live live stepped).1)
      (fun live stepped => (step_live live stepped).2) live_progress live

end ExtUnix.Userns
