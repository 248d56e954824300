import ExtUnix.Data.Overlay
import ExtUnix.Transfer.Integrity

namespace ExtUnix.Transfer

open ExtUnix.Data
open ExtUnix.Runtime

/-! Positional transfers against a file: whatever counts the kernel chooses,
the result is the one a single complete system call would have had. -/

/-- An answer of a kernel that serves reads from fixed contents: any positive
count of the bytes there are, `0` at the end of the file, or `EINTR`. -/
def Serves (file : List UInt8) (answer : Answer) : Prop :=
  ∀ request off, request.off = some off → request.offered = none →
    0 < request.asked →
    (answer request).result = .failed .EINTR ∨
    (file.length ≤ off.toNat ∧ (answer request).result = .moved []) ∨
    (off.toNat < file.length ∧ ∃ count, 1 ≤ count ∧
      count ≤ min request.asked (file.length - off.toNat) ∧
      (answer request).result = .moved (slice file off.toNat count))

/-- An answer of a kernel that takes at least one byte of every write, or is
interrupted. -/
def Absorbs (answer : Answer) : Prop :=
  ∀ request chunk, request.offered = some chunk → chunk ≠ [] →
    0 < request.asked →
    (answer request).result = .failed .EINTR ∨
    ∃ bytes, bytes ≠ [] ∧ (answer request).result = .moved bytes

def written (file : List UInt8) (calls : List Call) : List UInt8 :=
  calls.foldl (fun contents call =>
    overlay 0 contents ((call.request.off.map BitVec.toNat).getD 0)
      call.result.bytes) file

section Runs

variable {unixBufferSize : Nat} {kind : Kind} {direction : Direction}
  {fd off : CamlInt} {target : Target} {answers : List Answer} {run : Run}

theorem Target.Accepts.off_nonneg
    (accepted : target.Accepts (direction.positional off)) :
    0 ≤ off.toInt := by
  have member : off ∈ (direction.positional off).off? := by
    cases direction <;> rfl
  cases target with
  | string buf ofs len =>
      simp only [Target.Accepts, Rejected, not_or, not_exists, not_and,
        Int.not_lt] at accepted
      exact accepted.1 off member
  | bigarray buf => exact accepted off member

theorem transfer_intact
    (ran : transfer unixBufferSize kind (direction.positional off) fd target
      answers = run)
    (accepted : target.Accepts (direction.positional off)) :
    Intact ((direction.positional off).stub (target.iobuf unixBufferSize))
      (intVal fd) (target.registers (direction.positional off)) target.buf
      run := by
  rw [← ran, transfer_accepted unixBufferSize kind fd answers accepted]
  exact loop_intact _ _ _ answers (Target.registers_fits accepted)

theorem call_off
    (ran : transfer unixBufferSize kind (direction.positional off) fd target
      answers = run)
    (accepted : target.Accepts (direction.positional off))
    {index : Nat} {call : Call} (found : run.calls[index]? = some call) :
    ∃ word, call.request.off = some word ∧
      word.toNat = off.toInt.toNat +
        (transferred (run.calls.take index)).length := by
  have placed := (transfer_intact ran accepted).placed index call found
  have within := placed.within
  have counted := (Target.registers_fits accepted).counted
  have nonneg := accepted.off_nonneg
  have bound := toInt_lt off
  have word := toNat_longVal nonneg
  have offsetEq : (direction.positional off).offset = longVal off := by
    cases direction <;> rfl
  have isSome : (direction.positional off).off?.isSome = true := by
    cases direction <;> rfl
  refine ⟨_, by rw [placed.off]; simp only [Operation.stub, isSome, if_true]; rfl, ?_⟩
  rw [Target.registers_off, offsetEq, BitVec.toNat_add, BitVec.toNat_ofNat]
  omega

/-- A call of a run is for at least one byte, and has the answer of its turn. -/
theorem call_answered {operation : Operation}
    (ran : transfer unixBufferSize kind operation fd target answers = run)
    (roomy : 0 < unixBufferSize) (accepted : target.Accepts operation)
    {index : Nat} {call : Call} (found : run.calls[index]? = some call) :
    Requested operation.direction call.request ∧
      ∃ answer, answers[index]? = some answer ∧
        call.result = (answer call.request).result := by
  subst ran
  exact ⟨call_requested roomy kind fd answers accepted call
      (List.mem_of_getElem? found),
    (transfer_consumes unixBufferSize kind fd answers accepted).inTurn index
      call found⟩

theorem transfer_empty (accepted : target.Accepts (direction.positional off))
    (nothing : target.size = 0) :
    transfer unixBufferSize kind (direction.positional off) fd target answers =
      ⟨.returned 0, target.buf, []⟩ := by
  have zero : (target.registers (direction.positional off)).len = 0 :=
    BitVec.eq_of_toNat_eq (by
      rw [Target.toNat_registers_len accepted, nothing]
      rfl)
  rw [transfer_accepted unixBufferSize kind fd answers accepted,
    loop_done _ _ _ answers target.buf zero, Target.registers_processed]
  rfl

/-- On a kernel that never fails, a retrying transfer ends with every byte moved
or on a count of `0`. -/
theorem finished_total
    (ran : transfer unixBufferSize kind (direction.positional off) fd target
      answers = run)
    (retries : kind.retries = true)
    (accepted : target.Accepts (direction.positional off))
    (requested : 0 < target.size)
    (healthy : ∀ call ∈ run.calls,
      ∀ errno, call.result = .failed errno → errno = .EINTR)
    (finished : run.ending ≠ .waiting) :
    run.ending.Returns (transferred run.calls).length ∧
      ((transferred run.calls).length = target.size ∨
        ∃ prior last, run.calls = prior ++ [last] ∧
          last.result = .moved []) := by
  subst ran
  obtain ⟨prior, last, calls, -, -, concludes⟩ :=
    (transfer_follows unixBufferSize kind fd answers accepted
      requested).documented finished
  generalize transfer unixBufferSize kind (direction.positional off) fd target
    answers = run at *
  cases result : last.result with
  | failed errno =>
      have interrupted := healthy last (by simp [calls]) errno result
      rw [result] at concludes
      exact absurd ⟨retries, interrupted⟩ concludes.1
  | moved bytes =>
      rw [result] at concludes
      obtain ⟨reason, returns⟩ := concludes
      have total : (transferred run.calls).length =
          (transferred prior).length + bytes.length := by
        simp [calls, result, Result.bytes]
      refine ⟨by rw [total]; exact returns, ?_⟩
      rcases reason with rfl | complete | single
      · exact .inr ⟨prior, last, calls, result⟩
      · exact .inl (total.trans complete)
      · rw [single] at retries
        cases retries

theorem Target.inside (accepted : target.Accepts (direction.positional off)) :
    target.start + target.size ≤ target.buf.data.length := by
  have inside := (Target.registers_fits accepted).inside
  rwa [Target.toNat_registers_ofs accepted, Target.toNat_registers_len accepted]
    at inside

inductive Served (file : List UInt8) (position asked : Nat) : Result → Prop
  | interrupted : Served file position asked (.failed .EINTR)
  | atEnd (past : file.length ≤ position) :
      Served file position asked (.moved [])
  | delivered (count : Nat) (positive : 1 ≤ count) (fits : count ≤ asked)
      (inside : position + count ≤ file.length) :
      Served file position asked (.moved (slice file position count))

theorem call_served {file : List UInt8}
    (ran : transfer unixBufferSize kind (Direction.reading.positional off) fd
      target answers = run)
    (roomy : 0 < unixBufferSize)
    (accepted : target.Accepts (Direction.reading.positional off))
    (serves : ∀ answer ∈ answers, Serves file answer)
    {index : Nat} {call : Call} (found : run.calls[index]? = some call) :
    Served file
      (off.toInt.toNat + (transferred (run.calls.take index)).length)
      call.request.asked call.result := by
  obtain ⟨word, positioned, place⟩ := call_off ran accepted found
  obtain ⟨requested, answer, given, equal⟩ :=
    call_answered ran roomy accepted found
  rw [equal, ← place]
  rcases serves answer (List.mem_of_getElem? given) call.request word positioned
      (requested.reading rfl) requested.asked with
    interrupted | ⟨past, empty⟩ | ⟨inFile, count, positive, enough, moved⟩
  · rw [interrupted]
    exact .interrupted
  · rw [empty]
    exact .atEnd past
  · rw [moved]
    exact .delivered count positive (by omega) (by omega)

theorem pread_transferred {file : List UInt8}
    (ran : transfer unixBufferSize kind (Direction.reading.positional off) fd
      target answers = run)
    (roomy : 0 < unixBufferSize)
    (accepted : target.Accepts (Direction.reading.positional off))
    (serves : ∀ answer ∈ answers, Serves file answer) :
    transferred run.calls =
      slice file off.toInt.toNat (transferred run.calls).length := by
  have whole : transferred run.calls =
      (run.calls.map fun call => call.result.bytes).flatten :=
    List.flatMap_def
  rw [whole]
  apply flatten_eq_slice
  intro index piece found
  rw [List.getElem?_map, Option.map_eq_some_iff] at found
  obtain ⟨call, foundCall, rfl⟩ := found
  have served := call_served ran roomy accepted serves foundCall
  rw [← List.map_take, ← List.flatMap_def]
  change call.result.bytes = slice file
    (off.toInt.toNat + (transferred (run.calls.take index)).length) _
  generalize call.result = result at served
  cases served with
  | interrupted => simp [Result.bytes]
  | atEnd past => simp [Result.bytes]
  | delivered count positive enough inside =>
      simp only [Result.bytes, length_slice file inside]

def ReadsFrom (file : List UInt8) (off : CamlInt) (target : Target)
    (run : Run) : Prop :=
  let count := min target.size (file.length - off.toInt.toNat)
  run.ending.Returns count ∧
    run.buf.data = splice target.buf.data target.start
      (slice file off.toInt.toNat count)

theorem pread_finished {file : List UInt8}
    (ran : transfer unixBufferSize kind (Direction.reading.positional off) fd
      target answers = run)
    (roomy : 0 < unixBufferSize) (retries : kind.retries = true)
    (accepted : target.Accepts (Direction.reading.positional off))
    (serves : ∀ answer ∈ answers, Serves file answer)
    (finished : run.ending ≠ .waiting) : ReadsFrom file off target run := by
  by_cases nothing : target.size = 0
  · rw [transfer_empty accepted nothing] at ran
    subst ran
    simp only [ReadsFrom, nothing, Nat.zero_min, slice_zero, splice_nil,
      and_true]
    exact ⟨0, rfl, rfl⟩
  have intact := transfer_intact ran accepted
  have contents := pread_transferred ran roomy accepted serves
  have healthy : ∀ call ∈ run.calls,
      ∀ errno, call.result = .failed errno → errno = .EINTR := by
    intro call member errno failed
    obtain ⟨index, found⟩ := List.getElem?_of_mem member
    have served := call_served ran roomy accepted serves found
    rw [failed] at served
    cases served
    rfl
  obtain ⟨returns, ends⟩ := finished_total ran retries accepted
    (Nat.pos_of_ne_zero nothing) healthy finished
  -- The kernel gave only bytes of the file, and `0` only at its end.
  have total : (transferred run.calls).length =
      min target.size (file.length - off.toInt.toNat) := by
    have bounded := intact.bounded
    rw [Target.toNat_registers_len accepted] at bounded
    have available := congrArg List.length contents
    rw [length_slice_eq_min] at available
    rcases ends with complete | ⟨prior, last, calls, empty⟩
    · omega
    · have found : run.calls[prior.length]? = some last := by simp [calls]
      have before : transferred (run.calls.take prior.length) =
          transferred run.calls := by
        simp [calls, empty, Result.bytes]
      have served := call_served ran roomy accepted serves found
      rw [before] at served
      generalize result : last.result = outcome at served
      rw [empty] at result
      cases served with
      | interrupted => cases result
      | atEnd past => omega
      | delivered count positive enough inside =>
          have width := congrArg List.length (Result.moved.inj result)
          rw [length_slice file inside, List.length_nil] at width
          omega
  have stored : run.buf.data = splice target.buf.data
      (target.registers (Direction.reading.positional off)).ofs.toNat
      (transferred run.calls) :=
    intact.stored
  refine ⟨total ▸ returns, ?_⟩
  rw [← total, ← contents, stored, Target.toNat_registers_ofs accepted]

theorem pwrite_written
    (ran : transfer unixBufferSize kind (Direction.writing.positional off) fd
      target answers = run)
    (accepted : target.Accepts (Direction.writing.positional off))
    (file : List UInt8) :
    written file run.calls =
      overlay 0 file off.toInt.toNat (transferred run.calls) := by
  let write (call : Call) : Nat × List UInt8 :=
    ((call.request.off.map BitVec.toNat).getD 0, call.result.bytes)
  have folded : written file run.calls = (run.calls.map write).foldl
      (fun contents write => overlay 0 contents write.1 write.2) file := by
    rw [List.foldl_map]
    rfl
  have pieces : ∀ calls : List Call,
      (calls.map write).flatMap Prod.snd = transferred calls := by
    intro calls
    rw [List.flatMap_map]
    rfl
  rw [folded, foldl_overlay, pieces]
  intro index piece found
  rw [List.getElem?_map, Option.map_eq_some_iff] at found
  obtain ⟨call, foundCall, rfl⟩ := found
  obtain ⟨word, positioned, place⟩ := call_off ran accepted foundCall
  rw [← List.map_take, pieces, ← place]
  simp [write, positioned]

def WritesTo (file : List UInt8) (off : CamlInt) (target : Target)
    (run : Run) : Prop :=
  run.ending.Returns target.size ∧ run.buf = target.buf ∧
    written file run.calls = overlay 0 file off.toInt.toNat
      (slice target.buf.data target.start target.size)

theorem pwrite_finished
    (ran : transfer unixBufferSize kind (Direction.writing.positional off) fd
      target answers = run)
    (roomy : 0 < unixBufferSize) (retries : kind.retries = true)
    (accepted : target.Accepts (Direction.writing.positional off))
    (absorbs : ∀ answer ∈ answers, Absorbs answer)
    (finished : run.ending ≠ .waiting) (file : List UInt8) :
    WritesTo file off target run := by
  by_cases nothing : target.size = 0
  · rw [transfer_empty accepted nothing] at ran
    subst ran
    refine ⟨⟨0, rfl, by simp [nothing]⟩, rfl, ?_⟩
    simp [nothing, written]
  have intact := transfer_intact ran accepted
  have absorbed : ∀ call ∈ run.calls, call.result = .failed .EINTR ∨
      ∃ bytes, bytes ≠ [] ∧ call.result = .moved bytes := by
    intro call member
    obtain ⟨index, found⟩ := List.getElem?_of_mem member
    obtain ⟨requested, answer, given, equal⟩ :=
      call_answered ran roomy accepted found
    obtain ⟨chunk, offered, nonempty⟩ := requested.writing rfl
    rw [equal]
    exact absorbs answer (List.mem_of_getElem? given) call.request chunk offered
      nonempty requested.asked
  have healthy : ∀ call ∈ run.calls,
      ∀ errno, call.result = .failed errno → errno = .EINTR := by
    intro call member errno failed
    rcases absorbed call member with interrupted | ⟨bytes, -, moved⟩
    · exact Result.failed.inj (failed.symm.trans interrupted)
    · exact absurd (failed.symm.trans moved) (by simp)
  obtain ⟨returns, ends⟩ := finished_total ran retries accepted
    (Nat.pos_of_ne_zero nothing) healthy finished
  have total : (transferred run.calls).length = target.size := by
    rcases ends with complete | ⟨prior, last, calls, empty⟩
    · exact complete
    · rcases absorbed last (by simp [calls]) with
        interrupted | ⟨bytes, nonempty, moved⟩
      · exact absurd (empty.symm.trans interrupted) (by simp)
      · exact absurd (Result.moved.inj (empty.symm.trans moved)).symm nonempty
  have sent := intact.sent rfl
  rw [total, Target.toNat_registers_ofs accepted] at sent
  refine ⟨total ▸ returns, Buffer.ext intact.stored, ?_⟩
  rw [pwrite_written ran accepted file, sent]

end Runs

section Schedules

variable {unixBufferSize : Nat} {kind : Kind} {fd off : CamlInt}
  {target : Target} {kernel : Nat → Answer}

theorem firstAnswers_forall {property : Answer → Prop}
    (holds : ∀ index, property (kernel index)) (count : Nat) :
    ∀ answer ∈ firstAnswers kernel count, property answer := by
  intro answer member
  obtain ⟨index, -, rfl⟩ := List.mem_map.mp member
  exact holds index

theorem positional_finishes {direction : Direction}
    (accepted : target.Accepts (direction.positional off))
    (finite : FinitelyInterrupted fun count => transfer unixBufferSize kind
      (direction.positional off) fd target (firstAnswers kernel count)) :
    Finishes fun count => transfer unixBufferSize kind
      (direction.positional off) fd target (firstAnswers kernel count) := by
  by_cases nothing : target.size = 0
  · exact ⟨0, by simp [transfer_empty accepted nothing]⟩
  · exact transfer_finishes unixBufferSize kind fd accepted
      (Nat.pos_of_ne_zero nothing) kernel finite

theorem pread_completes {file : List UInt8} (roomy : 0 < unixBufferSize)
    (retries : kind.retries = true) (accepted : target.Accepts (.pread off))
    (serves : ∀ index, Serves file (kernel index))
    (finite : FinitelyInterrupted fun count => transfer unixBufferSize kind
      (.pread off) fd target (firstAnswers kernel count)) :
    Completes (fun count => transfer unixBufferSize kind (.pread off) fd target
      (firstAnswers kernel count)) (ReadsFrom file off target) := by
  refine ⟨@positional_finishes _ _ _ _ _ _ .reading accepted finite, ?_⟩
  intro count finished
  exact pread_finished rfl roomy retries accepted
    (firstAnswers_forall serves count) finished

theorem pwrite_completes (roomy : 0 < unixBufferSize)
    (retries : kind.retries = true) (accepted : target.Accepts (.pwrite off))
    (absorbs : ∀ index, Absorbs (kernel index))
    (finite : FinitelyInterrupted fun count => transfer unixBufferSize kind
      (.pwrite off) fd target (firstAnswers kernel count))
    (file : List UInt8) :
    Completes (fun count => transfer unixBufferSize kind (.pwrite off) fd
      target (firstAnswers kernel count)) (WritesTo file off target) := by
  refine ⟨@positional_finishes _ _ _ _ _ _ .writing accepted finite, ?_⟩
  intro count finished
  exact pwrite_finished rfl roomy retries accepted
    (firstAnswers_forall absorbs count) finished file

end Schedules

end ExtUnix.Transfer
