import ExtUnix.Data.Interleave
import ExtUnix.Transfer.Integrity

namespace ExtUnix.Transfer

open ExtUnix.Data
open ExtUnix.Runtime

/-! Reading and writing threads on one pipe.  The kernel may cut the bytes of a
single call, and mix the pieces with those of other calls. -/

def Direction.sequential : Direction → Operation
  | .reading => .read
  | .writing => .write

structure Party where
  kind : Kind
  direction : Direction
  fd : CamlInt
  target : Target
  answers : List Answer

namespace Party

def run (unixBufferSize : Nat) (party : Party) : Run :=
  transfer unixBufferSize party.kind party.direction.sequential party.fd
    party.target party.answers

def Accepted (party : Party) : Prop :=
  party.target.Accepts party.direction.sequential

def Answered (unixBufferSize : Nat) (party : Party) : Prop :=
  Consumes (transfer unixBufferSize party.kind party.direction.sequential
    party.fd party.target) party.answers

theorem answered (unixBufferSize : Nat) {party : Party}
    (accepted : party.Accepted) : party.Answered unixBufferSize :=
  transfer_consumes unixBufferSize party.kind party.fd party.answers accepted

def moved (unixBufferSize : Nat) (party : Party) : List UInt8 :=
  transferred (party.run unixBufferSize).calls

/-- What a party is seen to do at the pipe is what its calls moved. -/
def Carries (unixBufferSize : Nat) (party : Party)
    (transits : List (Transit UInt8)) : Prop :=
  match party.direction with
  | .reading =>
      transits.flatMap Transit.received = party.moved unixBufferSize ∧
        transits.flatMap Transit.sent = []
  | .writing =>
      transits.flatMap Transit.sent = party.moved unixBufferSize ∧
        transits.flatMap Transit.received = []

variable {unixBufferSize : Nat} {party : Party}

theorem intact (unixBufferSize : Nat) {party : Party}
    (accepted : party.Accepted) :
    Intact (party.direction.sequential.stub (party.target.iobuf unixBufferSize))
      (intVal party.fd) (party.target.registers party.direction.sequential)
      party.target.buf (party.run unixBufferSize) := by
  rw [run, transfer_accepted unixBufferSize party.kind party.fd party.answers
    accepted]
  exact loop_intact _ _ _ party.answers (Target.registers_fits accepted)

@[simp] theorem stub_direction_sequential (direction : Direction)
    (iobuf : Option Nat) :
    (direction.sequential.stub iobuf).direction = direction := by
  cases direction <;> rfl

theorem moved_writing (accepted : party.Accepted)
    (writes : party.direction = .writing) :
    party.moved unixBufferSize = slice party.target.buf.data
      party.target.start (party.moved unixBufferSize).length := by
  have sent := (intact unixBufferSize accepted).sent
    ((stub_direction_sequential ..).trans writes)
  rwa [Target.toNat_registers_ofs accepted] at sent

theorem moved_reading (accepted : party.Accepted)
    (reads : party.direction = .reading) :
    (party.run unixBufferSize).buf.data = splice party.target.buf.data
      party.target.start (party.moved unixBufferSize) := by
  have stored := (intact unixBufferSize accepted).stored
  rw [Target.toNat_registers_ofs accepted, stub_direction_sequential] at stored
  simp only [reads] at stored
  exact stored

theorem counted (accepted : party.Accepted) {count : CamlInt}
    (returned : (party.run unixBufferSize).ending = .returned count) :
    count.toInt = (party.moved unixBufferSize).length := by
  have total := (intact unixBufferSize accepted).counted
    count returned
  rw [moved]
  simpa using total

end Party

section Pipes

variable {τ : Type} [DecidableEq τ]

def sentBy (history : List (τ × Transit UInt8)) : List (τ × UInt8) :=
  history.flatMap fun event => event.2.sent.map (event.1, ·)

def receivedBy (history : List (τ × Transit UInt8)) : List (τ × UInt8) :=
  history.flatMap fun event => event.2.received.map (event.1, ·)

theorem actions_tagged (side : Transit UInt8 → List UInt8) (thread : τ)
    (history : List (τ × Transit UInt8)) :
    actions thread (history.flatMap fun event => (side event.2).map (event.1, ·)) =
      (actions thread history).flatMap side := by
  induction history with
  | nil => rfl
  | cons event rest induction =>
      obtain ⟨other, transit⟩ := event
      rw [List.flatMap_cons, actions_append, induction]
      by_cases same : other = thread
      · subst same
        rw [actions_cons_self, List.flatMap_cons, actions_tag, if_pos rfl]
      · rw [actions_cons_of_ne same, actions_tag, if_neg same, List.nil_append]

/-- Whatever the order in which any number of writers and readers reach a pipe,
and however the kernel cuts and mixes what they move: the bytes that come out
are the bytes that went in, in order and each once; a writer's bytes go in as
its buffer has them, and a reader's buffer has the bytes it took as they came
out.  Each party's calls have the kernel's answers to it in turn. -/
theorem pipe_conserves {unixBufferSize : Nat} {parties : τ → Party}
    {history : List (τ × Transit UInt8)} {queue left : List UInt8}
    (accepted : ∀ thread, (parties thread).Accepted)
    (carries : ∀ thread, (parties thread).Carries unixBufferSize
      (actions thread history))
    (legal : (history.map Prod.snd).foldlM Transit.step queue = some left) :
    queue ++ (sentBy history).map Prod.snd =
        (receivedBy history).map Prod.snd ++ left ∧
      ∀ thread,
        let run := (parties thread).run unixBufferSize
        (parties thread).Answered unixBufferSize ∧
        match (parties thread).direction with
        | .writing =>
            let sent := actions thread (sentBy history)
            sent = slice (parties thread).target.buf.data
              (parties thread).target.start sent.length ∧
            actions thread (receivedBy history) = [] ∧
            ∀ count, run.ending = .returned count → count.toInt = sent.length
        | .reading =>
            let received := actions thread (receivedBy history)
            run.buf.data = splice (parties thread).target.buf.data
              (parties thread).target.start received ∧
            actions thread (sentBy history) = [] ∧
            ∀ count, run.ending = .returned count →
              count.toInt = received.length := by
  have untagged : ∀ side : Transit UInt8 → List UInt8,
      (history.flatMap fun event =>
          (side event.2).map (event.1, ·)).map Prod.snd =
        (history.map Prod.snd).flatMap side := by
    intro side
    simp [List.map_flatMap, List.flatMap_map, Function.comp_def]
  refine ⟨?_, fun thread => ?_⟩
  · rw [sentBy, receivedBy, untagged Transit.sent, untagged Transit.received]
    exact transit_conserves legal
  · refine ⟨Party.answered unixBufferSize (accepted thread), ?_⟩
    have own := carries thread
    have sent : actions thread (sentBy history) =
        (actions thread history).flatMap Transit.sent :=
      actions_tagged Transit.sent thread history
    have received : actions thread (receivedBy history) =
        (actions thread history).flatMap Transit.received :=
      actions_tagged Transit.received thread history
    rw [sent, received]
    cases direction : (parties thread).direction with
    | writing =>
        simp only [Party.Carries, direction] at own
        rw [own.1, own.2]
        exact ⟨Party.moved_writing (accepted thread) direction, rfl,
          fun count => Party.counted (accepted thread)⟩
    | reading =>
        simp only [Party.Carries, direction] at own
        rw [own.1, own.2]
        exact ⟨Party.moved_reading (accepted thread) direction, rfl,
          fun count => Party.counted (accepted thread)⟩

/-- A reader takes the first byte of a writer before the second is in. -/
theorem pipe_conserves_pair :
    let parties : Bool → Party := fun thread =>
      if thread then ⟨.all, .writing, 4, .bigarray ⟨[7, 8], by decide⟩,
        [.accept 1, .accept 1]⟩
      else ⟨.single, .reading, 3, .bigarray ⟨[0, 0, 0], by decide⟩,
        [.deliver [7]]⟩
    let history : List (Bool × Transit UInt8) :=
      [(true, .put [7]), (false, .get [7]), (true, .put [8])]
    [] ++ (sentBy history).map Prod.snd =
        (receivedBy history).map Prod.snd ++ [8] ∧
      ((parties false).run 65536).buf.data = [7, 0, 0] := by
  intro parties history
  have accepted : ∀ thread, (parties thread).Accepted := by
    intro thread
    cases thread <;> exact fun off member => nomatch member
  have carries : ∀ thread, (parties thread).Carries 65536
      (actions thread history) := by
    intro thread
    cases thread <;> exact ⟨by decide, by decide⟩
  have legal : (history.map Prod.snd).foldlM Transit.step [] = some [8] := by
    decide
  obtain ⟨conserved, each⟩ := pipe_conserves accepted carries legal
  exact ⟨conserved, (each false).2.1⟩

end Pipes

end ExtUnix.Transfer
