import ExtUnix.Userns.Handshake

namespace ExtUnix.Userns

open ExtUnix.Data

/-! What holds in every reachable state. -/

def Mapped (setup : Setup) (state : State) : Prop :=
  state.uidMap = some (setup.idmap.extents setup.uid) ∧
    state.gidMap = some (setup.idmap.extents setup.gid)

def Helper.uidDone : Helper → Bool
  | .mappingGid _ | .exiting | .ended (.exited 0) => true
  | _ => false

def Helper.gidDone : Helper → Bool
  | .exiting | .ended (.exited 0) => true
  | _ => false

def Parent.sawHelper : Parent → Bool
  | .releasing | .closing | .awaitingChild | .ended (.exited 0) => true
  | _ => false

def Child.entered : Child → Bool
  | .closing | .inside => true
  | _ => false

def Parent.hasEnded : Parent → Bool
  | .ended _ => true
  | _ => false

def Parent.early : Parent → Bool
  | .spawning | .unsharing | .forking => true
  | _ => false

theorem Parent.early_or_ended {parent : Parent}
    (released : parent.holdsToken = false) :
    parent.early ∨ parent.sawHelper ∨ parent.hasEnded := by
  cases parent <;> simp_all [holdsToken, early, sawHelper, hasEnded]

structure Safe (setup : Setup) (state : State) : Prop where
  uid : state.helper.uidDone →
    state.uidMap = some (setup.idmap.extents setup.uid)
  gid : state.helper.gidDone →
    state.gidMap = some (setup.idmap.extents setup.gid)
  seen : state.parent.sawHelper → Mapped setup state
  token : state.token → Mapped setup state
  entered : state.child.entered → Mapped setup state ∨ state.parent.hasEnded
  born : state.parent.early → state.child = .absent
  finished : state.parent = .ended (.exited 0) →
    state.child = .ended (.exited 0)

theorem initial_safe (setup : Setup) : Safe setup initial := by
  constructor <;> simp [initial, Helper.uidDone, Helper.gidDone,
    Parent.sawHelper, Child.entered]

structure ParentEffect (state next : State) : Prop where
  uidMap : next.uidMap = state.uidMap
  gidMap : next.gidMap = state.gidMap
  helper : next.helper = state.helper ∨ next.helper = .starting
  child : next.child = state.child ∨ next.child = .starting ∧ ¬next.parent.early
  token : next.token → state.token ∨ state.parent.sawHelper
  alive : ¬state.parent.hasEnded
  early : next.parent.early → state.parent.early ∧ next.child = state.child
  saw : next.parent.sawHelper →
    state.parent.sawHelper ∨ state.helper = .ended (.exited 0)
  finished : next.parent = .ended (.exited 0) →
    state.child = .ended (.exited 0) ∧ next.child = state.child

structure HelperEffect (setup : Setup) (state next : State) : Prop where
  parent : next.parent = state.parent
  token : next.token = state.token
  child : next.child = state.child ∨ next.child = state.child.killed
  uid : next.helper.uidDone → state.helper.uidDone ∨
    next.uidMap = some (setup.idmap.extents setup.uid)
  gid : next.helper.gidDone → state.helper.gidDone ∨
    next.gidMap = some (setup.idmap.extents setup.gid)
  uidMap : next.uidMap = state.uidMap ∨
    next.uidMap = some (setup.idmap.extents setup.uid)
  gidMap : next.gidMap = state.gidMap ∨
    next.gidMap = some (setup.idmap.extents setup.gid)

structure ChildEffect (state next : State) : Prop where
  parent : next.parent = state.parent
  helper : next.helper = state.helper
  uidMap : next.uidMap = state.uidMap
  gidMap : next.gidMap = state.gidMap
  token : next.token → state.token
  born : state.child ≠ .absent
  alive : ∀ status, state.child ≠ .ended status
  entered : next.child.entered → state.child.entered ∨ state.token ∨
    state.parent.holdsToken = false

section Steps

variable {setup : Setup} {state next : State}

-- One case for each place the process can be at.
theorem parentStep_effect {ok : Bool}
    (stepped : parentStep setup ok state = some next) :
    ParentEffect state next := by
  obtain ⟨parent, helper, child, message, byte, uidMap, gidMap⟩ := state
  cases parent with
  | spawning | unsharing | forking =>
      cases ok <;> obtain rfl := Option.some.inj stepped
      all_goals
        constructor <;>
          simp [Parent.early, Parent.sawHelper, Parent.hasEnded]
  | sending =>
      cases helper <;> obtain rfl := Option.some.inj stepped
      all_goals
        constructor <;>
          simp [Parent.early, Parent.sawHelper, Parent.hasEnded]
  | awaitingHelper =>
      cases helper with
      | ended status =>
          obtain rfl := Option.some.inj stepped
          rcases status with ⟨_ | code⟩ | signal <;> cases ok
          all_goals
            constructor <;>
              simp [Parent.afterHelper, Parent.early, Parent.sawHelper,
                Parent.hasEnded]
      | _ => cases stepped
  | releasing =>
      cases child <;> obtain rfl := Option.some.inj stepped
      all_goals
        constructor <;>
          simp [Parent.early, Parent.sawHelper, Parent.hasEnded]
  | closing =>
      obtain rfl := Option.some.inj stepped
      constructor <;> simp [Parent.early, Parent.sawHelper, Parent.hasEnded]
  | awaitingChild =>
      cases child with
      | ended status =>
          obtain rfl := Option.some.inj stepped
          rcases status with code | signal <;> cases ok
          all_goals
            constructor <;>
              simp [Parent.afterChild, Parent.early, Parent.sawHelper,
                Parent.hasEnded]
      | _ => cases stepped
  | ended status => cases stepped

theorem helperStep_effect {ok : Bool}
    (stepped : helperStep setup ok state = some next) :
    HelperEffect setup state next := by
  obtain ⟨parent, helper, child, message, byte, uidMap, gidMap⟩ := state
  cases helper with
  | absent | ended status => cases stepped
  | starting | exiting =>
      obtain rfl := Option.some.inj stepped
      constructor <;> simp [Helper.uidDone, Helper.gidDone]
  | receiving =>
      rw [helperStep] at stepped
      simp only at stepped
      split at stepped
      · obtain rfl := Option.some.inj stepped
        constructor <;> simp [Helper.uidDone, Helper.gidDone]
      · split_ifs at stepped
        obtain rfl := Option.some.inj stepped
        constructor <;> simp [Helper.uidDone, Helper.gidDone]
  | mappingUid pid | mappingGid pid =>
      cases ok <;> obtain rfl := Option.some.inj stepped
      · cases idmap : setup.idmap <;> constructor <;>
          simp [Setup.failing, idmap, Helper.uidDone, Helper.gidDone]
      · constructor <;> simp [Helper.uidDone, Helper.gidDone]
  | killing pid =>
      obtain rfl := Option.some.inj stepped
      refine ⟨rfl, rfl, ?_, by simp [Helper.uidDone], by simp [Helper.gidDone],
        .inl rfl, .inl rfl⟩
      by_cases own : pid = setup.pid
      · exact .inr (if_pos own)
      · exact .inl (if_neg own)

theorem childStep_effect {code : Nat}
    (stepped : childStep code state = some next) : ChildEffect state next := by
  obtain ⟨parent, helper, child, message, byte, uidMap, gidMap⟩ := state
  cases child with
  | absent | ended status => cases stepped
  | starting | closing | inside =>
      obtain rfl := Option.some.inj stepped
      constructor <;> simp [Child.entered]
  | waiting =>
      rw [childStep] at stepped
      simp only at stepped
      split_ifs at stepped with token ends
      · obtain rfl := Option.some.inj stepped
        constructor <;> simp [Child.entered, token]
      · obtain rfl := Option.some.inj stepped
        simp only [State.tokenEnds, Bool.not_eq_true'] at ends
        constructor <;> simp [Child.entered, ends]

theorem Mapped.of_eq (mapped : Mapped setup state)
    (uidMap : next.uidMap = state.uidMap ∨
      next.uidMap = some (setup.idmap.extents setup.uid))
    (gidMap : next.gidMap = state.gidMap ∨
      next.gidMap = some (setup.idmap.extents setup.gid)) :
    Mapped setup next := by
  obtain ⟨uid, gid⟩ := mapped
  exact ⟨uidMap.elim (·.trans uid) id, gidMap.elim (·.trans gid) id⟩

theorem Child.killed_entered {child : Child} : ¬child.killed.entered := by
  cases child <;> simp [killed, running, entered]

theorem Safe.parent (safe : Safe setup state)
    (effect : ParentEffect state next) : Safe setup next := by
  have kept : Mapped setup state → Mapped setup next := fun mapped =>
    mapped.of_eq (.inl effect.uidMap) (.inl effect.gidMap)
  constructor
  · intro done
    rcases effect.helper with same | starts
    · rw [effect.uidMap]
      exact safe.uid (same ▸ done)
    · simp [starts, Helper.uidDone] at done
  · intro done
    rcases effect.helper with same | starts
    · rw [effect.gidMap]
      exact safe.gid (same ▸ done)
    · simp [starts, Helper.gidDone] at done
  · intro saw
    rcases effect.saw saw with before | succeeded
    · exact kept (safe.seen before)
    · exact kept ⟨safe.uid (by simp [succeeded, Helper.uidDone]),
        safe.gid (by simp [succeeded, Helper.gidDone])⟩
  · intro token
    rcases effect.token token with before | saw
    · exact kept (safe.token before)
    · exact kept (safe.seen saw)
  · intro entered
    rcases effect.child with same | ⟨starts, -⟩
    · rcases safe.entered (same ▸ entered) with mapped | ended
      · exact .inl (kept mapped)
      · exact absurd ended effect.alive
    · simp [starts, Child.entered] at entered
  · intro early
    obtain ⟨before, same⟩ := effect.early early
    exact same.trans (safe.born before)
  · intro finished
    obtain ⟨ended, same⟩ := effect.finished finished
    exact same.trans ended

theorem Safe.helper (safe : Safe setup state)
    (effect : HelperEffect setup state next) : Safe setup next := by
  have kept : Mapped setup state → Mapped setup next := fun mapped =>
    mapped.of_eq effect.uidMap effect.gidMap
  constructor
  · intro done
    rcases effect.uid done with before | mapped
    · exact effect.uidMap.elim (·.trans (safe.uid before)) id
    · exact mapped
  · intro done
    rcases effect.gid done with before | mapped
    · exact effect.gidMap.elim (·.trans (safe.gid before)) id
    · exact mapped
  · rw [effect.parent]
    exact fun saw => kept (safe.seen saw)
  · rw [effect.token]
    exact fun token => kept (safe.token token)
  · rw [effect.parent]
    intro entered
    rcases effect.child with same | killed
    · exact (safe.entered (same ▸ entered)).imp_left kept
    · exact absurd (killed ▸ entered) Child.killed_entered
  · rw [effect.parent]
    intro early
    have absent := safe.born early
    rcases effect.child with same | killed
    · exact same.trans absent
    · rw [killed, absent]
      rfl
  · rw [effect.parent]
    intro finished
    have ended := safe.finished finished
    rcases effect.child with same | killed
    · exact same.trans ended
    · rw [killed, ended]
      rfl

theorem Safe.child (safe : Safe setup state)
    (effect : ChildEffect state next) : Safe setup next := by
  have kept : Mapped setup state → Mapped setup next := fun mapped =>
    mapped.of_eq (.inl effect.uidMap) (.inl effect.gidMap)
  constructor
  · rw [effect.helper, effect.uidMap]
    exact safe.uid
  · rw [effect.helper, effect.gidMap]
    exact safe.gid
  · rw [effect.parent]
    exact fun saw => kept (safe.seen saw)
  · exact fun token => kept (safe.token (effect.token token))
  · rw [effect.parent]
    intro entered
    rcases effect.entered entered with before | token | released
    · exact (safe.entered before).imp_left kept
    · exact .inl (kept (safe.token token))
    · -- The pipe has ended: the parent closed its end or is gone.
      rcases Parent.early_or_ended released with early | saw | ended
      · exact absurd (safe.born early) effect.born
      · exact .inl (kept (safe.seen saw))
      · exact .inr ended
  · rw [effect.parent]
    exact fun early => absurd (safe.born early) effect.born
  · rw [effect.parent]
    exact fun finished => absurd (safe.finished finished) (effect.alive _)

theorem endParent_eq {status : Status}
    (stepped : state.endParent status = some next) :
    (∀ other, state.parent ≠ .ended other) ∧
      next = { state with parent := .ended status } := by
  rw [State.endParent] at stepped
  split at stepped
  · cases stepped
  next runs => exact ⟨runs, (Option.some.inj stepped).symm⟩

theorem endHelper_eq {status : Status}
    (stepped : state.endHelper status = some next) :
    state.helper ≠ .absent ∧ (∀ other, state.helper ≠ .ended other) ∧
      next = { state with helper := .ended status } := by
  rw [State.endHelper] at stepped
  split at stepped
  · cases stepped
  · cases stepped
  next present runs => exact ⟨present, runs, (Option.some.inj stepped).symm⟩

theorem endChild_eq {status : Status}
    (stepped : state.endChild status = some next) :
    state.child ≠ .absent ∧ (∀ other, state.child ≠ .ended other) ∧
      next = { state with child := .ended status } := by
  rw [State.endChild] at stepped
  split at stepped
  · cases stepped
  · cases stepped
  next present runs => exact ⟨present, runs, (Option.some.inj stepped).symm⟩

theorem endParent_effect {status : Status} (unsuccessful : status ≠ .exited 0)
    (stepped : state.endParent status = some next) :
    ParentEffect state next := by
  obtain ⟨runs, rfl⟩ := endParent_eq stepped
  refine ⟨rfl, rfl, .inl rfl, .inl rfl, .inl, fun ended => ?_,
    by simp [Parent.early], by simp [Parent.sawHelper, unsuccessful],
    by simp [unsuccessful]⟩
  cases gone : state.parent with
  | ended other => exact runs other gone
  | _ => simp [gone, Parent.hasEnded] at ended

theorem endHelper_effect {status : Status} (unsuccessful : status ≠ .exited 0)
    (stepped : state.endHelper status = some next) :
    HelperEffect setup state next := by
  obtain ⟨-, -, rfl⟩ := endHelper_eq stepped
  constructor <;> simp [Helper.uidDone, Helper.gidDone, unsuccessful]

theorem endChild_effect {status : Status}
    (stepped : state.endChild status = some next) : ChildEffect state next := by
  obtain ⟨present, runs, rfl⟩ := endChild_eq stepped
  exact ⟨rfl, rfl, rfl, rfl, id, present, runs, by simp [Child.entered]⟩

theorem Loss.status_ne (loss : Loss) : loss.status ≠ .exited 0 := by
  cases loss <;> simp [status]

theorem step_safe {action : Action} (safe : Safe setup state)
    (stepped : step setup state action = some next) : Safe setup next := by
  cases action with
  | parent ok => exact safe.parent (parentStep_effect stepped)
  | helper ok => exact safe.helper (helperStep_effect stepped)
  | child code => exact safe.child (childStep_effect stepped)
  | raiseParent => exact safe.parent (endParent_effect (by simp) stepped)
  | signalParent signal =>
      exact safe.parent (endParent_effect (by simp) stepped)
  | loseHelper loss =>
      rw [step, Option.ite_none_right_eq_some] at stepped
      exact safe.helper (endHelper_effect loss.status_ne stepped.2)
  | signalHelper signal =>
      exact safe.helper (endHelper_effect (by simp) stepped)
  | raiseChild => exact safe.child (endChild_effect stepped)
  | signalChild signal => exact safe.child (endChild_effect stepped)

end Steps

/-- The states the three processes can get into, signals from outside
included. -/
def Reaches (setup : Setup) (state : State) : Prop :=
  ∃ actions, follow (step setup) initial actions = some state

theorem reaches_safe {setup : Setup} {state : State}
    (reaches : Reaches setup state) : Safe setup state := by
  obtain ⟨actions, followed⟩ := reaches
  exact follow_keeps step_safe (initial_safe setup) followed

/-- The program goes on inside the namespace only when both maps are written,
or when the parent is gone without success; and the parent reports success only
when the child did, with both maps written. -/
theorem child_enters_mapped {setup : Setup} {state : State}
    (reaches : Reaches setup state) :
    (state.child = .inside → Mapped setup state ∨
      ∃ status, state.parent = .ended status ∧ status ≠ .exited 0) ∧
    (state.parent = .ended (.exited 0) →
      state.child = .ended (.exited 0) ∧ Mapped setup state) := by
  have safe := reaches_safe reaches
  constructor
  · intro inside
    rcases safe.entered (by rw [inside]; rfl) with mapped | ended
    · exact .inl mapped
    · cases gone : state.parent with
      | ended status =>
          refine .inr ⟨status, rfl, ?_⟩
          rintro rfl
          simp [safe.finished gone] at inside
      | _ => simp [gone, Parent.hasEnded] at ended
  · intro succeeded
    exact ⟨safe.finished succeeded, safe.seen (by rw [succeeded]; rfl)⟩

theorem child_enters_mapped_run :
    let setup : Setup := ⟨.idMap 100000 65536, 1000, 1000, 42⟩
    let state : State := ⟨.closing, .ended (.exited 0), .inside, none, false,
      some [⟨0, 1000, 1⟩, ⟨1, 100000, 65536⟩],
      some [⟨0, 1000, 1⟩, ⟨1, 100000, 65536⟩]⟩
    (state.child = .inside → Mapped setup state ∨
      ∃ status, state.parent = .ended status ∧ status ≠ .exited 0) ∧
    (state.parent = .ended (.exited 0) →
      state.child = .ended (.exited 0) ∧ Mapped setup state) :=
  child_enters_mapped ⟨[.parent true, .parent true, .parent true, .helper true,
    .child 0, .parent true, .helper true, .helper true, .helper true,
    .helper true, .parent true, .parent true, .child 0, .child 0], by decide⟩

def Helper.target : Helper → Option Nat
  | .mappingUid pid | .mappingGid pid | .killing pid => some pid
  | _ => none

def Helper.reading : Helper → Bool
  | .starting | .receiving => true
  | _ => false

/-- With an id map a helper that fails has killed the child first. -/
structure Guarded (setup : Setup) (state : State) : Prop where
  sent : ∀ pid ∈ state.message, pid = setup.pid
  target : ∀ pid ∈ state.helper.target, pid = setup.pid
  fresh : state.parent = .spawning →
    state.helper = .absent ∧ state.message = none
  ready : state.parent.holdsMessage →
    state.helper.reading ∧ state.message = none
  failed : ∀ status, state.helper = .ended status → status ≠ .exited 0 →
    ¬state.child.running
  gone : state.parent.hasEnded → ¬state.child.running ∨ Mapped setup state

theorem initial_guarded (setup : Setup) : Guarded setup initial := by
  constructor <;> simp [initial, Helper.target, Parent.holdsMessage,
    Parent.hasEnded]

section OwnSteps

variable {setup : Setup} {state next : State}

theorem parentStep_guarded (safe : Safe setup state)
    (guarded : Guarded setup state) {ok : Bool}
    (stepped : parentStep setup ok state = some next) :
    Guarded setup next := by
  have born := safe.born
  obtain ⟨sent, target, fresh, ready, failed, gone⟩ := guarded
  obtain ⟨parent, helper, child, message, byte, uidMap, gidMap⟩ := state
  cases parent with
  | spawning =>
      obtain ⟨rfl, rfl⟩ := fresh rfl
      obtain rfl := born rfl
      cases ok <;> obtain rfl := Option.some.inj stepped
      all_goals
        constructor <;>
          simp [Helper.target, Helper.reading, Parent.holdsMessage,
            Parent.hasEnded, Child.running]
  | unsharing | forking =>
      obtain ⟨reading, rfl⟩ := ready rfl
      obtain rfl := born rfl
      cases ok <;> obtain rfl := Option.some.inj stepped
      all_goals
        refine ⟨sent, target, by simp, by simp [Parent.holdsMessage, reading],
          ?_, by simp [Parent.hasEnded, Child.running]⟩
        rintro status rfl
        cases reading
  | sending =>
      obtain ⟨reading, rfl⟩ := ready rfl
      cases helper with
      | starting | receiving =>
          obtain rfl := Option.some.inj stepped
          constructor <;>
            simp [Helper.target, Parent.holdsMessage, Parent.hasEnded]
      | _ => cases reading
  | awaitingHelper =>
      cases helper with
      | ended status =>
          obtain rfl := Option.some.inj stepped
          refine ⟨sent, target, ?_, ?_, failed, ?_⟩
          · rcases status with ⟨_ | code⟩ | signal <;> cases ok <;>
              simp [Parent.afterHelper]
          · rcases status with ⟨_ | code⟩ | signal <;> cases ok <;>
              simp [Parent.afterHelper, Parent.holdsMessage]
          · intro ended
            refine .inl (failed status rfl ?_)
            rintro rfl
            cases ended
      | _ => cases stepped
  | releasing =>
      cases child <;> obtain rfl := Option.some.inj stepped
      all_goals
        refine ⟨sent, target, by simp, by simp [Parent.holdsMessage], failed, ?_⟩
        simp [Parent.hasEnded, Child.running]
  | closing =>
      obtain rfl := Option.some.inj stepped
      exact ⟨sent, target, by simp, by simp [Parent.holdsMessage], failed,
        by simp [Parent.hasEnded]⟩
  | awaitingChild =>
      cases child with
      | ended status =>
          obtain rfl := Option.some.inj stepped
          rcases status with code | signal <;> cases ok
          all_goals
            refine ⟨sent, target, by simp [Parent.afterChild],
              by simp [Parent.afterChild, Parent.holdsMessage], failed, ?_⟩
            exact fun _ => .inl (by simp [Child.running])
      | _ => cases stepped
  | ended status => cases stepped

theorem helperStep_guarded (guarded : Guarded setup state)
    {id rangeid : Int} (idMap : setup.idmap = .idMap id rangeid) {ok : Bool}
    (stepped : helperStep setup ok state = some next) :
    Guarded setup next := by
  have effect := helperStep_effect stepped
  obtain ⟨sent, target, fresh, ready, failed, gone⟩ := guarded
  obtain ⟨parent, helper, child, message, byte, uidMap, gidMap⟩ := state
  cases helper with
  | absent | ended status => cases stepped
  | starting =>
      obtain rfl := Option.some.inj stepped
      refine ⟨sent, by simp [Helper.target], fun spawning => ?_,
        fun holds => ⟨rfl, (ready holds).2⟩, by simp, gone⟩
      cases (fresh spawning).1
  | receiving =>
      rw [helperStep] at stepped
      simp only at stepped
      split at stepped
      next pid =>
        obtain rfl := Option.some.inj stepped
        refine ⟨by simp, ?_, fun spawning => ?_, fun holds => ?_, by simp, gone⟩
        · rintro aimed ⟨rfl⟩
          exact sent pid rfl
        · cases (fresh spawning).1
        · cases (ready holds).2
      next =>
        split_ifs at stepped with ends
        obtain rfl := Option.some.inj stepped
        simp only [State.messageEnds, Bool.and_eq_true, Bool.not_eq_true']
          at ends
        refine ⟨by simp, by simp [Helper.target], fun spawning => ?_,
          fun holds => ?_, fun _ _ _ => by simp [ends.2], gone⟩
        · cases (fresh spawning).1
        · exact absurd holds (by simp [ends.1])
  | mappingUid pid | mappingGid pid =>
      have alike : Mapped setup ⟨parent, _, child, message, byte, uidMap,
          gidMap⟩ → Mapped setup next :=
        fun mapped => mapped.of_eq effect.uidMap effect.gidMap
      cases ok <;> obtain rfl := Option.some.inj stepped
      · refine ⟨sent, ?_, fun spawning => ?_, fun holds => ?_, ?_, gone⟩
        · rw [Setup.failing, idMap]
          exact target
        · cases (fresh spawning).1
        · cases (ready holds).1
        · simp [Setup.failing, idMap]
      · refine ⟨sent, fun aimed found => ?_, fun spawning => ?_,
          fun holds => ?_, by simp, fun ended => (gone ended).imp_right alike⟩
        · first
            | exact target aimed found
            | cases found
        · cases (fresh spawning).1
        · cases (ready holds).1
  | killing pid =>
      obtain rfl := Option.some.inj stepped
      obtain rfl := target pid rfl
      have dead : ¬child.killed.running := by
        cases child <;> simp [Child.killed, Child.running]
      refine ⟨sent, by simp [Helper.target], fun spawning => ?_,
        fun holds => ?_, fun _ _ _ => by simpa using dead,
        fun _ => .inl (by simpa using dead)⟩
      · cases (fresh spawning).1
      · cases (ready holds).1
  | exiting =>
      obtain rfl := Option.some.inj stepped
      refine ⟨sent, by simp [Helper.target], fun spawning => ?_,
        fun holds => ?_, by simp, gone⟩
      · cases (fresh spawning).1
      · cases (ready holds).1

theorem childStep_guarded (guarded : Guarded setup state) {code : Nat}
    (stepped : childStep code state = some next) : Guarded setup next := by
  have ran : state.child.running := by
    cases at_ : state.child <;> simp [childStep, at_] at stepped <;> rfl
  have message : next.message = state.message := by
    rw [childStep] at stepped
    repeat' split at stepped
    all_goals cases stepped
    all_goals rfl
  have effect := childStep_effect stepped
  obtain ⟨sent, target, fresh, ready, failed, gone⟩ := guarded
  refine ⟨message ▸ sent, effect.helper ▸ target, ?_, ?_, ?_, ?_⟩
  · rw [effect.parent, effect.helper, message]
    exact fresh
  · rw [effect.parent, effect.helper, message]
    exact ready
  · rw [effect.helper]
    exact fun status ended unsuccessful =>
      absurd ran (failed status ended unsuccessful)
  · rw [effect.parent]
    intro ended
    rcases gone ended with dead | mapped
    · exact absurd ran dead
    · exact .inr (mapped.of_eq (.inl effect.uidMap) (.inl effect.gidMap))

theorem endChild_guarded (guarded : Guarded setup state) {status : Status}
    (stepped : state.endChild status = some next) : Guarded setup next := by
  obtain ⟨-, -, rfl⟩ := endChild_eq stepped
  obtain ⟨sent, target, fresh, ready, failed, gone⟩ := guarded
  exact ⟨sent, target, fresh, ready, fun _ _ _ => by simp [Child.running],
    fun _ => .inl (by simp [Child.running])⟩

theorem step_guarded {id rangeid : Int} (idMap : setup.idmap = .idMap id rangeid)
    {action : Action} (kept : Safe setup state ∧ Guarded setup state)
    (own : action.isOwn) (parentKept : action ≠ .raiseParent)
    (helperKept : ∀ loss, action ≠ .loseHelper loss)
    (stepped : step setup state action = some next) :
    Safe setup next ∧ Guarded setup next := by
  obtain ⟨safe, guarded⟩ := kept
  refine ⟨step_safe safe stepped, ?_⟩
  cases action with
  | parent ok => exact parentStep_guarded safe guarded stepped
  | helper ok => exact helperStep_guarded guarded idMap stepped
  | child code => exact childStep_guarded guarded stepped
  | raiseParent => exact absurd rfl parentKept
  | loseHelper loss => exact absurd rfl (helperKept loss)
  | raiseChild => exact endChild_guarded guarded stepped
  | signalParent | signalHelper | signalChild => cases own

end OwnSteps

/-- A run of the processes' own steps, with no other losses than these, that
comes to where the program is inside the namespace without its maps. -/
def EntersUnmapped (setup : Setup) (lossy : Action → Prop) : Prop :=
  ∃ actions state,
    (∀ action ∈ actions, action.isOwn ∧ (action.isLoss → lossy action)) ∧
    follow (step setup) initial actions = some state ∧
    state.child = .inside ∧ ¬Mapped setup state

theorem enters_unmapped_of_keepUser {setup : Setup} (lossy : Action → Prop)
    (keepUser : setup.idmap = .keepUser) : EntersUnmapped setup lossy := by
  -- Writing the user map fails, and the child reads the end of the pipe.
  refine ⟨[.parent true, .parent true, .parent true, .helper true,
    .parent true, .helper true, .helper false, .parent true, .child 0,
    .child 0, .child 0],
    ⟨.ended (.exited 1), .ended (.exited 1), .inside, none, false, none,
      none⟩, by simp [Action.isOwn, Action.isLoss], ?_, rfl, by simp [Mapped]⟩
  simp [follow, step, parentStep, helperStep, childStep, initial,
    Setup.failing, keepUser, Parent.afterHelper, State.tokenEnds,
    Parent.holdsToken]

theorem enters_unmapped_of_raiseParent (setup : Setup) {lossy : Action → Prop}
    (raises : lossy .raiseParent) : EntersUnmapped setup lossy := by
  -- The parent is gone before it has told the helper.
  refine ⟨[.parent true, .parent true, .parent true, .raiseParent, .child 0,
    .child 0, .child 0],
    ⟨.ended (.exited 2), .starting, .inside, none, false, none, none⟩,
    by simp [Action.isOwn, Action.isLoss, raises], ?_, rfl, by simp [Mapped]⟩
  simp [follow, step, parentStep, childStep, initial, State.endParent,
    State.tokenEnds, Parent.holdsToken]

theorem enters_unmapped_of_loseHelper (setup : Setup) {lossy : Action → Prop}
    {loss : Loss} (loses : lossy (.loseHelper loss)) :
    EntersUnmapped setup lossy := by
  -- The helper is gone before it has written a map, or killed the child.
  refine ⟨[.parent true, .parent true, .parent true, .helper true,
    .parent true, .helper true, .loseHelper loss, .parent true, .child 0,
    .child 0, .child 0],
    ⟨.ended loss.status, .ended loss.status, .inside, none, false, none, none⟩,
    by simp [Action.isOwn, Action.isLoss, loses], ?_, rfl, by simp [Mapped]⟩
  cases loss <;>
    simp [follow, step, parentStep, helperStep, childStep, initial,
      State.endHelper, Helper.mayLose, Loss.status, Parent.afterHelper,
      State.tokenEnds, Parent.holdsToken]

/-- Without a signal from outside, the program can find itself inside the
namespace without its maps exactly when they were to be written by the helper
itself, which does not stop the child when it fails, or when the parent or the
helper may be lost: the child takes the end of the pipe for its release. -/
theorem enters_unmapped_iff (setup : Setup) (lossy : Action → Prop) :
    EntersUnmapped setup lossy ↔
      setup.idmap = .keepUser ∨ lossy .raiseParent ∨
        ∃ loss, lossy (.loseHelper loss) := by
  constructor
  · rintro ⟨actions, state, own, followed, inside, unmapped⟩
    by_contra guarded
    simp only [not_or, not_exists] at guarded
    obtain ⟨mapped, parentKept, helperKept⟩ := guarded
    obtain ⟨id, rangeid, idMap⟩ : ∃ id rangeid,
        setup.idmap = .idMap id rangeid := by
      cases idmap : setup.idmap with
      | keepUser => exact absurd idmap mapped
      | idMap id rangeid => exact ⟨id, rangeid, rfl⟩
    obtain ⟨safe, guarded⟩ := follow_keeps_among
      (fun kept among stepped => step_guarded idMap kept among.1
        (fun same => parentKept (same ▸ among.2 (by rw [same]; rfl)))
        (fun loss same => helperKept loss (same ▸ among.2 (by rw [same]; rfl)))
        stepped)
      ⟨initial_safe setup, initial_guarded setup⟩ own followed
    rcases safe.entered (by rw [inside]; rfl) with mapped | ended
    · exact unmapped mapped
    · rcases guarded.gone ended with dead | mapped
      · exact dead (by rw [inside]; rfl)
      · exact unmapped mapped
  · rintro (keepUser | raises | ⟨loss, loses⟩)
    · exact enters_unmapped_of_keepUser lossy keepUser
    · exact enters_unmapped_of_raiseParent setup raises
    · exact enters_unmapped_of_loseHelper setup loses

end ExtUnix.Userns
