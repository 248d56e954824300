import ExtUnix.Data.Steps
import ExtUnix.Transfer.Resume

namespace ExtUnix.Transfer

open ExtUnix.Data
open ExtUnix.Runtime

/-! A writer and a reader on the two ends of a pipe that holds a limited number
of bytes.  A `write` blocks until all its bytes have been taken, unless a signal
comes; a `read` takes what there is. -/

structure Pipe where
  unixBufferSize : Nat
  capacity : Nat
  writer : Caller .writing
  reader : Caller .reading
  roomy : 0 < unixBufferSize
  holds : 0 < capacity

/-- What the kernel has done: how many bytes it has taken from the writer's
buffer, those of the `write` it is in included, its answers to both, and the
signals still to come. -/
structure Flow where
  placed : Nat
  written : List Answer
  got : List Answer
  signals : Nat

inductive Event where
  | put (count : Nat)
  | returns
  | get (count : Nat)
  /-- The writer closes its end when it has returned. -/
  | endOfFile
  | interrupt (direction : Direction)
  deriving DecidableEq

namespace Pipe

variable (pipe : Pipe)

def Writing (flow : Flow) : Prop :=
  pipe.writer.Waits pipe.unixBufferSize flow.written

def Reading (flow : Flow) : Prop :=
  pipe.reader.Waits pipe.unixBufferSize flow.got

instance (flow : Flow) : Decidable (pipe.Writing flow) :=
  inferInstanceAs (Decidable (_ = _))

instance (flow : Flow) : Decidable (pipe.Reading flow) :=
  inferInstanceAs (Decidable (_ = _))

def sent (flow : Flow) : Nat :=
  (pipe.writer.moved pipe.unixBufferSize flow.written).length

def asked (flow : Flow) : Nat :=
  pipe.writer.asked pipe.unixBufferSize flow.written

def received (flow : Flow) : Nat :=
  (pipe.reader.moved pipe.unixBufferSize flow.got).length

def bytes (first count : Nat) : List UInt8 :=
  slice pipe.writer.target.buf.data (pipe.writer.target.start + first) count

def inside (flow : Flow) : List UInt8 :=
  pipe.bytes (pipe.received flow) (flow.placed - pipe.received flow)

def step (flow : Flow) : Event → Option Flow
  | .put count =>
      if pipe.Writing flow ∧ 0 < count ∧
          flow.placed + count ≤ pipe.sent flow + pipe.asked flow ∧
          (pipe.inside flow).length + count ≤ pipe.capacity then
        some { flow with placed := flow.placed + count }
      else none
  | .returns =>
      if pipe.Writing flow ∧
          flow.placed = pipe.sent flow + pipe.asked flow then
        some { flow with
          written := flow.written ++ [.accept (pipe.asked flow)] }
      else none
  | .get count =>
      if pipe.Reading flow ∧ 0 < count ∧ pipe.inside flow ≠ [] then
        some { flow with
          got := flow.got ++ [.deliver ((pipe.inside flow).take count)] }
      else none
  | .endOfFile =>
      if pipe.Reading flow ∧ ¬pipe.Writing flow ∧ pipe.inside flow = [] then
        some { flow with got := flow.got ++ [.deliver []] }
      else none
  | .interrupt .writing =>
      if pipe.Writing flow ∧ 0 < flow.signals then
        some { flow with
          written := flow.written ++ [if flow.placed = pipe.sent flow then
            .interrupt else .accept (flow.placed - pipe.sent flow)]
          signals := flow.signals - 1 }
      else none
  | .interrupt .reading =>
      if pipe.Reading flow ∧ 0 < flow.signals then
        some { flow with
          got := flow.got ++ [.interrupt], signals := flow.signals - 1 }
      else none

def start (signals : Nat) : Flow := ⟨0, [], [], signals⟩

def Finished (flow : Flow) : Prop :=
  ¬pipe.Writing flow ∧ ¬pipe.Reading flow

instance (flow : Flow) : Decidable (pipe.Finished flow) :=
  inferInstanceAs (Decidable (_ ∧ _))

def Copied (flow : Flow) : Prop :=
  let count := min pipe.writer.target.size pipe.reader.target.size
  let read := pipe.reader.run pipe.unixBufferSize flow.got
  (pipe.writer.run pipe.unixBufferSize flow.written).ending.Returns
      pipe.writer.target.size ∧
    read.ending.Returns count ∧
    read.buf.data = splice pipe.reader.target.buf.data
      pipe.reader.target.start (pipe.bytes 0 count)

structure Kept (flow : Flow) : Prop where
  writer : pipe.writer.Steady pipe.unixBufferSize flow.written
  reader : pipe.reader.Steady pipe.unixBufferSize flow.got
  sent_le : pipe.sent flow ≤ flow.placed
  placed_le : pipe.Writing flow →
    flow.placed ≤ pipe.sent flow + pipe.asked flow
  written : pipe.Writing flow ∨ flow.placed = pipe.sent flow ∧
    pipe.sent flow = pipe.writer.target.size
  received_le : pipe.received flow ≤ flow.placed
  room : flow.placed ≤ pipe.received flow + pipe.capacity
  copied : pipe.reader.moved pipe.unixBufferSize flow.got =
    pipe.bytes 0 (pipe.received flow)
  got : pipe.Reading flow ∨ pipe.received flow = pipe.reader.target.size ∨
    ¬pipe.Writing flow ∧ pipe.received flow = flow.placed

/-- What is left to be placed, sent, received and interrupted; one for the end
of the file. -/
def rank (flow : Flow) : Nat :=
  (pipe.writer.target.size - flow.placed) +
    (pipe.writer.target.size - pipe.sent flow) +
    (pipe.reader.target.size - pipe.received flow) + flow.signals +
    if pipe.Reading flow then 1 else 0

variable {pipe} {flow : Flow}

theorem length_bytes {first count : Nat}
    (fits : first + count ≤ pipe.writer.target.size) :
    (pipe.bytes first count).length = count := by
  have inside := (Target.registers_fits pipe.writer.accepted).inside
  rw [Target.toNat_registers_ofs pipe.writer.accepted,
    Target.toNat_registers_len pipe.writer.accepted] at inside
  exact length_slice _ (by omega)

theorem bytes_append (pipe : Pipe) (first second : Nat) :
    pipe.bytes 0 first ++ pipe.bytes first second =
      pipe.bytes 0 (first + second) :=
  (slice_append _ pipe.writer.target.start first second).symm

theorem bytes_take (pipe : Pipe) (first count limit : Nat) :
    (pipe.bytes first count).take limit =
      pipe.bytes first (min limit count) :=
  List.take_take

namespace Kept

theorem placed_le_size (kept : pipe.Kept flow) :
    flow.placed ≤ pipe.writer.target.size := by
  rcases kept.written with writing | ⟨all, complete⟩
  · exact Nat.le_trans (kept.placed_le writing)
      (pipe.writer.moved_add_asked_le pipe.unixBufferSize flow.written)
  · omega

theorem length_inside (kept : pipe.Kept flow) :
    (pipe.inside flow).length = flow.placed - pipe.received flow := by
  have := kept.placed_le_size
  have := kept.received_le
  exact length_bytes (by omega)

theorem inside_eq_nil_iff (kept : pipe.Kept flow) :
    pipe.inside flow = [] ↔ pipe.received flow = flow.placed := by
  have := kept.received_le
  rw [← List.length_eq_zero_iff, kept.length_inside]
  omega

theorem sent (kept : pipe.Kept flow) (writing : pipe.Writing flow)
    {later : List Answer} (signals : Nat)
    (steady : pipe.writer.Steady pipe.unixBufferSize later)
    (all : (pipe.writer.moved pipe.unixBufferSize later).length = flow.placed)
    (outcome : pipe.writer.Waits pipe.unixBufferSize later ∨
      (pipe.writer.moved pipe.unixBufferSize later).length =
        pipe.writer.target.size) :
    pipe.Kept { flow with written := later, signals } where
  writer := steady
  reader := kept.reader
  sent_le := Nat.le_of_eq all
  placed_le _ := Nat.le_trans (Nat.le_of_eq all.symm) (Nat.le_add_right ..)
  written := outcome.imp_right fun complete => ⟨all.symm, complete⟩
  received_le := kept.received_le
  room := kept.room
  copied := kept.copied
  got := kept.got.imp_right fun ended =>
    ended.imp_right fun closed => absurd writing closed.1

theorem taken (kept : pipe.Kept flow) {later : List Answer} (signals : Nat)
    {count : Nat} (available : pipe.received flow + count ≤ flow.placed)
    (moved : pipe.reader.moved pipe.unixBufferSize later =
      pipe.reader.moved pipe.unixBufferSize flow.got ++
        pipe.bytes (pipe.received flow) count)
    (steady : pipe.reader.Steady pipe.unixBufferSize later)
    (outcome : pipe.reader.Waits pipe.unixBufferSize later ∨
      (pipe.reader.moved pipe.unixBufferSize later).length =
        pipe.reader.target.size ∨
      ¬pipe.Writing flow ∧ pipe.received flow + count = flow.placed) :
    pipe.Kept { flow with got := later, signals } := by
  have fits := kept.placed_le_size
  have room := kept.room
  have total : (pipe.reader.moved pipe.unixBufferSize later).length =
      pipe.received flow + count := by
    rw [moved, List.length_append, length_bytes (by omega)]
    rfl
  exact {
    writer := kept.writer
    reader := steady
    sent_le := kept.sent_le
    placed_le := kept.placed_le
    written := kept.written
    received_le := Nat.le_trans (Nat.le_of_eq total) available
    room := by
      change flow.placed ≤
        (pipe.reader.moved pipe.unixBufferSize later).length + pipe.capacity
      omega
    copied := by
      change pipe.reader.moved pipe.unixBufferSize later =
        pipe.bytes 0 (List.length _)
      rw [total, moved, kept.copied, bytes_append]
    got := outcome.imp_right fun ended => ended.imp_right fun closed =>
      ⟨closed.1, total.trans closed.2⟩ }

end Kept

theorem rank_lt {next : Flow} (placed : flow.placed ≤ next.placed)
    (sent : pipe.sent flow ≤ pipe.sent next)
    (received : pipe.received flow ≤ pipe.received next)
    (signals : next.signals ≤ flow.signals)
    (reading : pipe.Reading next → pipe.Reading flow)
    (progress : flow.placed < next.placed ∧
        next.placed ≤ pipe.writer.target.size ∨
      pipe.sent flow < pipe.sent next ∨
      pipe.received flow < pipe.received next ∨
      next.signals < flow.signals ∨
      pipe.Reading flow ∧ ¬pipe.Reading next) :
    pipe.rank next < pipe.rank flow := by
  have sentFits : pipe.sent next ≤ pipe.writer.target.size :=
    pipe.writer.moved_le pipe.unixBufferSize next.written
  have receivedFits : pipe.received next ≤ pipe.reader.target.size :=
    pipe.reader.moved_le pipe.unixBufferSize next.got
  unfold rank
  by_cases before : pipe.Reading flow <;> by_cases after : pipe.Reading next
  · simp only [before, after, if_true, not_true_eq_false, and_false,
      or_false] at progress ⊢
    omega
  · simp only [before, after, if_true, if_false]
    omega
  · exact absurd (reading after) before
  · simp only [before, after, if_false, false_and, or_false] at progress ⊢
    omega

theorem rank_written {later : List Answer} {signals : Nat}
    (longer : pipe.sent flow ≤
      (pipe.writer.moved pipe.unixBufferSize later).length)
    (fewer : signals ≤ flow.signals)
    (progress : pipe.sent flow <
        (pipe.writer.moved pipe.unixBufferSize later).length ∨
      signals < flow.signals) :
    pipe.rank { flow with written := later, signals } < pipe.rank flow :=
  rank_lt (Nat.le_refl _) longer (Nat.le_refl _) fewer id
    (.inr (progress.imp_right fun signalled => .inr (.inl signalled)))

theorem rank_got (reading : pipe.Reading flow) {later : List Answer}
    {signals : Nat}
    (longer : pipe.received flow ≤
      (pipe.reader.moved pipe.unixBufferSize later).length)
    (fewer : signals ≤ flow.signals)
    (progress : pipe.received flow <
        (pipe.reader.moved pipe.unixBufferSize later).length ∨
      signals < flow.signals ∨
      ¬pipe.reader.Waits pipe.unixBufferSize later) :
    pipe.rank { flow with got := later, signals } < pipe.rank flow :=
  rank_lt (Nat.le_refl _) (Nat.le_refl _) longer fewer (fun _ => reading)
    (.inr (.inr (progress.imp_right fun rest =>
      rest.imp_right fun ended => ⟨reading, ended⟩)))

namespace Kept

theorem put (kept : pipe.Kept flow) {count : Nat} (writing : pipe.Writing flow)
    (positive : 0 < count)
    (asked : flow.placed + count ≤ pipe.sent flow + pipe.asked flow)
    (room : (pipe.inside flow).length + count ≤ pipe.capacity) :
    let next := { flow with placed := flow.placed + count }
    pipe.Kept next ∧ pipe.rank next < pipe.rank flow := by
  intro next
  have received := kept.received_le
  have limit := pipe.writer.moved_add_asked_le pipe.unixBufferSize flow.written
  rw [kept.length_inside] at room
  refine ⟨⟨kept.writer, kept.reader, Nat.le_add_right_of_le kept.sent_le,
    fun _ => asked, .inl writing, Nat.le_add_right_of_le received, ?_,
    kept.copied, ?_⟩, ?_⟩
  · change flow.placed + count ≤ pipe.received flow + pipe.capacity
    omega
  · exact kept.got.imp_right fun ended =>
      ended.imp_right fun closed => absurd writing closed.1
  · exact rank_lt (Nat.le_add_right ..) (Nat.le_refl _) (Nat.le_refl _)
      (Nat.le_refl _) id (.inl ⟨Nat.lt_add_of_pos_right positive,
        Nat.le_trans asked limit⟩)

theorem returns (kept : pipe.Kept flow) (writing : pipe.Writing flow)
    (all : flow.placed = pipe.sent flow + pipe.asked flow) :
    let next := { flow with
      written := flow.written ++ [.accept (pipe.asked flow)] }
    pipe.Kept next ∧ pipe.rank next < pipe.rank flow := by
  intro next
  have positive : 0 < pipe.asked flow :=
    Caller.asked_pos pipe.roomy writing
  obtain ⟨moved, steady, outcome⟩ :=
    Caller.wrote writing positive (Nat.le_refl (pipe.asked flow))
  have grows : pipe.sent flow < (pipe.writer.moved pipe.unixBufferSize
      (flow.written ++ [.accept (pipe.asked flow)])).length := by
    rw [moved]
    exact Nat.lt_add_of_pos_right positive
  exact ⟨kept.sent writing flow.signals steady (moved.trans all.symm) outcome,
    rank_written (Nat.le_of_lt grows) (Nat.le_refl _) (.inl grows)⟩

theorem get (kept : pipe.Kept flow) {count : Nat} (reading : pipe.Reading flow)
    (positive : 0 < count) (nonempty : pipe.inside flow ≠ []) :
    let next := { flow with
      got := flow.got ++ [.deliver ((pipe.inside flow).take count)] }
    pipe.Kept next ∧ pipe.rank next < pipe.rank flow := by
  intro next
  have fits := kept.placed_le_size
  have received := kept.received_le
  have available := mt kept.inside_eq_nil_iff.mpr nonempty
  have asked := Caller.asked_pos pipe.roomy reading
  obtain ⟨moved, steady, outcome, -⟩ :=
    Caller.read reading ((pipe.inside flow).take count)
  obtain ⟨taken, isTaken⟩ : ∃ taken, taken = min (min (pipe.reader.asked
      pipe.unixBufferSize flow.got) count)
        (flow.placed - pipe.received flow) := ⟨_, rfl⟩
  have piece : ((pipe.inside flow).take count).take
      (pipe.reader.asked pipe.unixBufferSize flow.got) =
        pipe.bytes (pipe.received flow) taken := by
    rw [List.take_take, inside, bytes_take, isTaken]
  have length : (pipe.bytes (pipe.received flow) taken).length = taken :=
    length_bytes (by omega)
  rw [piece] at moved outcome
  have grows : pipe.received flow < (pipe.reader.moved pipe.unixBufferSize
      (flow.got ++ [.deliver ((pipe.inside flow).take count)])).length := by
    rw [moved, List.length_append, length]
    exact Nat.lt_add_of_pos_right (by omega)
  refine ⟨kept.taken flow.signals (by omega) moved steady
    (outcome.imp_right fun ended => .inl (ended.resolve_left ?_)),
    rank_got reading (Nat.le_of_lt grows) (Nat.le_refl _) (.inl grows)⟩
  intro nothing
  rw [nothing, List.length_nil] at length
  omega

theorem endOfFile (kept : pipe.Kept flow) (reading : pipe.Reading flow)
    (closed : ¬pipe.Writing flow) (empty : pipe.inside flow = []) :
    let next := { flow with got := flow.got ++ [.deliver []] }
    pipe.Kept next ∧ pipe.rank next < pipe.rank flow := by
  intro next
  obtain ⟨moved, steady, -, ended⟩ := Caller.read reading []
  rw [List.take_nil] at moved
  have same := congrArg List.length (moved.trans (List.append_nil _))
  exact ⟨kept.taken flow.signals
    (show pipe.received flow + 0 ≤ flow.placed from kept.received_le) moved
    steady (.inr (.inr ⟨closed, kept.inside_eq_nil_iff.mp empty⟩)),
    rank_got reading (Nat.le_of_eq same.symm) (Nat.le_refl _)
      (.inr (.inr (ended rfl)))⟩

end Kept

theorem start_kept (pipe : Pipe) (signals : Nat) :
    pipe.Kept (start signals) := by
  obtain ⟨wroteNothing, writer, writes⟩ :=
    pipe.writer.unanswered pipe.unixBufferSize
  obtain ⟨readNothing, reader, reads⟩ :=
    pipe.reader.unanswered pipe.unixBufferSize
  have sent : pipe.sent (start signals) = 0 :=
    congrArg List.length wroteNothing
  have received : pipe.received (start signals) = 0 :=
    congrArg List.length readNothing
  refine ⟨writer, reader, Nat.le_of_eq sent, fun _ => Nat.zero_le _,
    writes.imp_right fun empty => ⟨sent.symm, sent.trans empty.symm⟩,
    Nat.le_of_eq received, Nat.zero_le _, ?_,
    reads.imp_right fun empty => .inl (received.trans empty.symm)⟩
  rw [received]
  exact readNothing.trans (slice_zero _ _).symm

/-- While the pipe has room for what the reader does not ask for, one of the two
can go on. -/
theorem Kept.progress (kept : pipe.Kept flow)
    (fits : pipe.writer.target.size ≤
      pipe.reader.target.size + pipe.capacity) :
    pipe.Finished flow ∨ ∃ event next, True ∧
      pipe.step flow event = some next := by
  have sent := kept.sent_le
  have received := kept.received_le
  have inside := kept.length_inside
  by_cases writing : pipe.Writing flow
  · right
    have placed := kept.placed_le writing
    have limit : pipe.sent flow + pipe.asked flow ≤ pipe.writer.target.size :=
      pipe.writer.moved_add_asked_le pipe.unixBufferSize flow.written
    by_cases all : flow.placed = pipe.sent flow + pipe.asked flow
    · exact ⟨.returns, _, trivial, if_pos ⟨writing, all⟩⟩
    by_cases room : flow.placed < pipe.received flow + pipe.capacity
    · exact ⟨.put 1, _, trivial, if_pos ⟨writing, by omega, by omega, by omega⟩⟩
    have positive := pipe.holds
    have nonempty : pipe.inside flow ≠ [] :=
      mt kept.inside_eq_nil_iff.mp (by omega)
    rcases kept.got with reading | complete | closed
    · exact ⟨.get 1, _, trivial, if_pos ⟨reading, by omega, nonempty⟩⟩
    · omega
    · exact absurd writing closed.1
  · by_cases reading : pipe.Reading flow
    · right
      by_cases empty : pipe.inside flow = []
      · exact ⟨.endOfFile, _, trivial, if_pos ⟨reading, writing, empty⟩⟩
      · exact ⟨.get 1, _, trivial, if_pos ⟨reading, by omega, empty⟩⟩
    · exact .inl ⟨writing, reading⟩

theorem Kept.finished (kept : pipe.Kept flow) (finished : pipe.Finished flow) :
    pipe.writer.target.size ≤ pipe.reader.target.size + pipe.capacity ∧
      pipe.Copied flow := by
  obtain ⟨notWriting, notReading⟩ := finished
  obtain ⟨all, complete⟩ := kept.written.resolve_left notWriting
  obtain ⟨wrote, returned⟩ := kept.writer.resolve_left notWriting
  obtain ⟨read, ended⟩ := kept.reader.resolve_left notReading
  have got := kept.got.resolve_left notReading
  have room := kept.room
  have received := kept.received_le
  have limit : pipe.received flow ≤ pipe.reader.target.size :=
    pipe.reader.moved_le pipe.unixBufferSize flow.got
  have count : min pipe.writer.target.size pipe.reader.target.size =
      pipe.received flow := by
    omega
  have wroteAll := @Party.counted pipe.unixBufferSize
    (pipe.writer.party flow.written) pipe.writer.accepted _ returned
  have readAll := @Party.counted pipe.unixBufferSize
    (pipe.reader.party flow.got) pipe.reader.accepted _ ended
  have stored := @Party.moved_reading pipe.unixBufferSize
    (pipe.reader.party flow.got) pipe.reader.accepted rfl
  refine ⟨by omega, ⟨wrote, returned, ?_⟩, ⟨read, ended, ?_⟩, ?_⟩
  · exact wroteAll.trans (congrArg _ complete)
  · rw [count]
    exact readAll
  · rw [count, ← kept.copied]
    exact stored

end Pipe

end ExtUnix.Transfer
