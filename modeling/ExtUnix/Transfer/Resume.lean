import ExtUnix.Transfer.Pipe

namespace ExtUnix.Transfer

open ExtUnix.Data
open ExtUnix.Runtime

/-! A call that waits for the kernel, and what one more answer makes of it. -/

namespace Registers

theorem advance_advance (registers : Registers) (first second : Nat) :
    (registers.advance first).advance second =
      registers.advance (first + second) := by
  simp only [advance, BitVec.ofNat_add, BitVec.add_assoc, BitVec.sub_sub]

end Registers

def Run.after (calls : List Call) (run : Run) : Run :=
  { run with calls := calls ++ run.calls }

section Loops

variable {stub : Stub} {fd mode : BitVec 32} {registers : Registers}
  {buf : Buffer}

/-- Where a run waits, what it has not moved is left for further answers. -/
theorem loop_resume (answers : List Answer) (fits : Fits registers buf)
    (waiting : (loop stub fd mode answers registers buf).ending = .waiting) :
    let run := loop stub fd mode answers registers buf
    let next := registers.advance (transferred run.calls).length
    next.len ≠ 0 ∧ Fits next run.buf ∧ ∀ more,
      loop stub fd mode (answers ++ more) registers buf =
        (loop stub fd mode more next run.buf).after run.calls := by
  induction answers generalizing registers buf with
  | nil =>
      have remaining : registers.len ≠ 0 := by
        intro done
        rw [loop_done stub fd mode [] buf done] at waiting
        cases waiting
      rw [loop_waiting stub fd mode fits remaining]
      simp only [transferred_nil, List.length_nil, registers.advance_zero]
      exact ⟨remaining, fits, fun more => rfl⟩
  | cons answer rest induction =>
      have remaining : registers.len ≠ 0 := by
        intro done
        rw [loop_done stub fd mode _ buf done] at waiting
        cases waiting
      rcases loop_answer fd mode answer fits remaining with
        ⟨run, ended, -, same⟩ | ⟨stored, later, same⟩
      · rw [same] at waiting
        exact absurd waiting ended
      · rw [same] at waiting
        have resumed := induction later waiting
        simp only [Registers.advance_advance] at resumed
        simp only [List.cons_append, same, Run.prepend_calls, Run.prepend_buf,
          transferred_cons, List.length_append]
        refine ⟨resumed.1, resumed.2.1, fun more => ?_⟩
        rw [resumed.2.2 more]
        rfl

/-- What an answer makes of a call that goes on after interruptions: it waits
again until nothing is left to move, or nothing came. -/
def Settles (left : Nat) (ending : Ending) : Result → Prop
  | .moved bytes =>
      if bytes ≠ [] ∧ bytes.length < left then ending = .waiting
      else ∃ count, ending = .returned count
  | .failed errno => errno = .EINTR → ending = .waiting

theorem loop_settles (stub : Stub) (fd : BitVec 32) (answer : Answer)
    (retries : mode &&& bitNoIntr ≠ 0) (several : mode &&& bitOnce = 0)
    (fits : Fits registers buf) (remaining : registers.len ≠ 0) :
    let call := stub.call fd answer registers buf
    let run := loop stub fd mode [answer] registers buf
    run.calls = [call] ∧ Settles registers.len.toNat run.ending call.result := by
  intro call run
  have iteration := loop_iteration stub fd mode answer [] fits remaining
  generalize outcome : loop stub fd mode [answer] registers buf = ended
    at iteration
  have same : run = ended := outcome
  rw [same]
  cases iteration with
  | retried failed noIntr =>
      rw [loop_waiting stub fd mode fits remaining]
      refine ⟨rfl, ?_⟩
      rw [show call.result = .failed .EINTR from failed]
      exact fun _ => rfl
  | stopped errno failed kept progress tolerated =>
      refine ⟨rfl, ?_⟩
      rw [show call.result = .failed errno from failed]
      exact fun interrupted => absurd ⟨interrupted, retries⟩ kept
  | raised errno failed kept fatal =>
      refine ⟨rfl, ?_⟩
      rw [show call.result = .failed errno from failed]
      exact fun interrupted => absurd ⟨interrupted, retries⟩ kept
  | exhausted empty =>
      refine ⟨rfl, ?_⟩
      rw [show call.result = .moved [] from empty]
      simp [Settles]
  | once bytes stored delivered moved isOnce => exact absurd several isOnce
  | continued bytes stored delivered moved notOnce =>
      rw [show call.result = .moved bytes from delivered]
      have lengths := Registers.toNat_advance_len moved.length_le
      have nonempty := moved.nonempty
      by_cases short : bytes.length < registers.len.toNat
      · have more : (registers.advance bytes.length).len ≠ 0 := by
          intro zero
          rw [zero] at lengths
          simp at lengths
          omega
        rw [loop_waiting stub fd mode (moved.fits fits) more]
        exact ⟨rfl, by simp [Settles, nonempty, short]⟩
      · have done : (registers.advance bytes.length).len = 0 :=
          BitVec.eq_of_toNat_eq (by rw [lengths]; simp; omega)
        rw [loop_done stub fd mode [] stored done]
        exact ⟨rfl, by simp [Settles, short]⟩

end Loops

theorem Stub.chunk_none_iff (stub : Stub) (registers : Registers)
    (buf : Buffer) :
    stub.chunk registers buf = none ↔ stub.direction = .reading := by
  unfold chunk
  cases stub.direction <;> simp

theorem Stub.length_of_mem_chunk (stub : Stub) {registers : Registers}
    {buf : Buffer} (fits : Fits registers buf) {bytes : List UInt8}
    (offered : bytes ∈ stub.chunk registers buf) :
    bytes.length = stub.numbytes registers.len := by
  have inside := fits.inside
  have short := stub.numbytes_le registers.len
  unfold chunk at offered
  cases direction : stub.direction with
  | reading =>
      rw [direction] at offered
      cases offered
  | writing =>
      rw [direction] at offered
      cases offered
      exact length_slice _ (by omega)

/-- A call of a function that goes on after an interruption, on a range of its
buffer. -/
structure Caller (direction : Direction) where
  kind : Kind
  fd : CamlInt
  target : Target
  retries : kind.retries = true
  accepted : target.Accepts direction.sequential

namespace Caller

variable {direction : Direction}

theorem several (caller : Caller direction) : caller.kind ≠ .single := by
  intro single
  have retries := caller.retries
  rw [single] at retries
  cases retries

def party (caller : Caller direction) (answers : List Answer) : Party :=
  ⟨caller.kind, direction, caller.fd, caller.target, answers⟩

variable (unixBufferSize : Nat) (caller : Caller direction)
  (answers : List Answer)

def run : Run := (caller.party answers).run unixBufferSize

def moved : List UInt8 := (caller.party answers).moved unixBufferSize

def Waits : Prop := (caller.run unixBufferSize answers).ending = .waiting

instance : Decidable (caller.Waits unixBufferSize answers) :=
  inferInstanceAs (Decidable (_ = _))

/-- It waits or has returned: no error, and no bad argument. -/
def Steady : Prop :=
  caller.Waits unixBufferSize answers ∨
    ∃ count, (caller.run unixBufferSize answers).ending = .returned count

def stub : Stub :=
  direction.sequential.stub (caller.target.iobuf unixBufferSize)

def registers : Registers :=
  (caller.target.registers direction.sequential).advance
    (caller.moved unixBufferSize answers).length

def asked : Nat :=
  (caller.stub unixBufferSize).numbytes
    (caller.registers unixBufferSize answers).len

variable {unixBufferSize} {caller} {answers}

theorem run_eq (answers : List Answer) : caller.run unixBufferSize answers =
    loop (caller.stub unixBufferSize) (intVal caller.fd) caller.kind.mode
      answers (caller.target.registers direction.sequential)
      caller.target.buf :=
  transfer_accepted unixBufferSize caller.kind caller.fd answers caller.accepted

theorem intact (unixBufferSize : Nat) (caller : Caller direction)
    (answers : List Answer) :
    Intact (caller.stub unixBufferSize) (intVal caller.fd)
      (caller.target.registers direction.sequential) caller.target.buf
      (caller.run unixBufferSize answers) :=
  @Party.intact unixBufferSize (caller.party answers) caller.accepted

theorem moved_le (unixBufferSize : Nat) (caller : Caller direction)
    (answers : List Answer) :
    (caller.moved unixBufferSize answers).length ≤ caller.target.size := by
  rw [← Target.toNat_registers_len caller.accepted]
  exact (caller.intact unixBufferSize answers).bounded

theorem resumed (waits : caller.Waits unixBufferSize answers) :
    let registers := caller.registers unixBufferSize answers
    let run := caller.run unixBufferSize answers
    registers.len ≠ 0 ∧ Fits registers run.buf ∧ ∀ more,
      caller.run unixBufferSize (answers ++ more) =
        (loop (caller.stub unixBufferSize) (intVal caller.fd) caller.kind.mode
          more registers run.buf).after run.calls := by
  intro registers run
  have resumed := loop_resume answers
    (Target.registers_fits caller.accepted)
    ((congrArg Run.ending (run_eq answers)).symm.trans waits)
  rw [← run_eq answers] at resumed
  refine ⟨resumed.1, resumed.2.1, fun more => ?_⟩
  rw [run_eq]
  exact resumed.2.2 more

theorem toNat_registers_len (unixBufferSize : Nat) (caller : Caller direction)
    (answers : List Answer) :
    (caller.registers unixBufferSize answers).len.toNat =
      caller.target.size - (caller.moved unixBufferSize answers).length := by
  rw [← Target.toNat_registers_len caller.accepted]
  exact Registers.toNat_advance_len (caller.intact unixBufferSize answers).bounded

theorem moved_add_asked_le (unixBufferSize : Nat) (caller : Caller direction)
    (answers : List Answer) :
    (caller.moved unixBufferSize answers).length +
      caller.asked unixBufferSize answers ≤ caller.target.size := by
  have left := caller.toNat_registers_len unixBufferSize answers
  have moved := caller.moved_le unixBufferSize answers
  have asked := (caller.stub unixBufferSize).numbytes_le
    (caller.registers unixBufferSize answers).len
  rw [Caller.asked]
  omega

theorem asked_pos (roomy : 0 < unixBufferSize)
    (waits : caller.Waits unixBufferSize answers) :
    0 < caller.asked unixBufferSize answers := by
  refine Stub.numbytes_pos (fun size member => ?_) (resumed waits).1
  simp only [stub, Operation.stub] at member
  cases target : caller.target with
  | string buf ofs len =>
      rw [target] at member
      cases member
      exact roomy
  | bigarray buf =>
      rw [target] at member
      cases member

theorem answered (waits : caller.Waits unixBufferSize answers)
    (answer : Answer) :
    let moved := caller.moved unixBufferSize answers
    ∃ request : Request,
      request.asked = caller.asked unixBufferSize answers ∧
      (request.offered = none ↔ direction = .reading) ∧
      (∀ chunk ∈ request.offered, chunk.length = request.asked) ∧
      caller.moved unixBufferSize (answers ++ [answer]) =
        moved ++ (answer request).result.bytes ∧
      Settles (caller.target.size - moved.length)
        (caller.run unixBufferSize (answers ++ [answer])).ending
        (answer request).result := by
  intro moved
  obtain ⟨remaining, fits, prolonged⟩ := resumed waits
  obtain ⟨calls, settles⟩ := loop_settles (caller.stub unixBufferSize)
    (intVal caller.fd) answer ((Kind.noIntr_iff _).mpr caller.retries)
    (not_not.mp (mt (Kind.once_iff _).mp caller.several)) fits remaining
  rw [toNat_registers_len] at settles
  refine ⟨(caller.stub unixBufferSize).request (intVal caller.fd)
    (caller.registers unixBufferSize answers)
    ((caller.stub unixBufferSize).chunk
      (caller.registers unixBufferSize answers)
      (caller.run unixBufferSize answers).buf), rfl, ?_, ?_, ?_, ?_⟩
  · refine (Stub.chunk_none_iff _ _ _).trans ?_
    rw [stub, Party.stub_direction_sequential]
  · exact fun chunk => Stub.length_of_mem_chunk _ fits
  · change transferred (caller.run unixBufferSize (answers ++ [answer])).calls = _
    rw [prolonged, Run.after]
    simp only [calls, transferred_append, transferred_cons, transferred_nil,
      List.append_nil]
    rfl
  · rw [prolonged]
    exact settles

theorem unanswered (unixBufferSize : Nat) (caller : Caller direction) :
    caller.moved unixBufferSize [] = [] ∧ caller.Steady unixBufferSize [] ∧
      (caller.Waits unixBufferSize [] ∨ caller.target.size = 0) := by
  have size := Target.toNat_registers_len caller.accepted
  unfold moved Party.moved Steady Waits
  change transferred (caller.run unixBufferSize []).calls = [] ∧ _
  rw [run_eq]
  by_cases done :
      (caller.target.registers direction.sequential).len = 0
  · rw [loop_done _ _ _ _ _ done]
    rw [done] at size
    exact ⟨rfl, .inr ⟨_, rfl⟩, .inr size.symm⟩
  · rw [loop_waiting _ _ _ (Target.registers_fits caller.accepted) done]
    exact ⟨rfl, .inl rfl, .inl rfl⟩

theorem interrupted (waits : caller.Waits unixBufferSize answers) :
    caller.moved unixBufferSize (answers ++ [.interrupt]) =
        caller.moved unixBufferSize answers ∧
      caller.Waits unixBufferSize (answers ++ [.interrupt]) := by
  obtain ⟨request, -, -, -, moved, settles⟩ := answered waits .interrupt
  exact ⟨moved.trans (List.append_nil _), settles rfl⟩

theorem steady_of_settles {later : List Answer} {bytes : List UInt8}
    (moved : caller.moved unixBufferSize later =
      caller.moved unixBufferSize answers ++ bytes)
    (settles : Settles
      (caller.target.size - (caller.moved unixBufferSize answers).length)
      (caller.run unixBufferSize later).ending (.moved bytes)) :
    caller.Steady unixBufferSize later ∧
      (caller.Waits unixBufferSize later ∨ bytes = [] ∨
        (caller.moved unixBufferSize later).length = caller.target.size) := by
  have fits := caller.moved_le unixBufferSize later
  rw [moved, List.length_append] at fits ⊢
  by_cases more : bytes ≠ [] ∧ bytes.length <
      caller.target.size - (caller.moved unixBufferSize answers).length
  · rw [Settles, if_pos more] at settles
    exact ⟨.inl settles, .inl settles⟩
  · rw [Settles, if_neg more] at settles
    refine ⟨.inr settles, .inr ?_⟩
    rw [not_and_or, not_not] at more
    rcases more with empty | complete
    · exact .inl empty
    · right
      omega

theorem wrote {caller : Caller .writing}
    (waits : caller.Waits unixBufferSize answers) {count : Nat}
    (positive : 0 < count)
    (offered : count ≤ caller.asked unixBufferSize answers) :
    let later := answers ++ [.accept count]
    (caller.moved unixBufferSize later).length =
        (caller.moved unixBufferSize answers).length + count ∧
      caller.Steady unixBufferSize later ∧
      (caller.Waits unixBufferSize later ∨
        (caller.moved unixBufferSize later).length = caller.target.size) := by
  intro later
  obtain ⟨request, asked, reads, lengths, moved, settles⟩ :=
    answered waits (.accept count)
  obtain ⟨chunk, isChunk⟩ :=
    Option.ne_none_iff_exists'.mp (mt reads.mp nofun)
  have result : (Answer.accept count request).result =
      .moved (chunk.take (min count request.asked)) := by
    obtain ⟨fd, off, size, offered⟩ := request
    cases isChunk
    rfl
  have length : (chunk.take (min count request.asked)).length = count := by
    rw [List.length_take, lengths chunk isChunk]
    omega
  rw [result] at moved settles
  obtain ⟨steady, outcome⟩ := steady_of_settles moved settles
  refine ⟨?_, steady, outcome.imp_right fun ended => ended.resolve_left ?_⟩
  · rw [moved, List.length_append]
    exact congrArg _ length
  · intro empty
    change chunk.take (min count request.asked) = [] at empty
    rw [empty] at length
    exact absurd length (Nat.ne_of_lt positive)

theorem read {caller : Caller .reading}
    (waits : caller.Waits unixBufferSize answers) (bytes : List UInt8) :
    let later := answers ++ [.deliver bytes]
    let taken := bytes.take (caller.asked unixBufferSize answers)
    caller.moved unixBufferSize later =
        caller.moved unixBufferSize answers ++ taken ∧
      caller.Steady unixBufferSize later ∧
      (caller.Waits unixBufferSize later ∨ taken = [] ∨
        (caller.moved unixBufferSize later).length = caller.target.size) ∧
      (bytes = [] → ¬caller.Waits unixBufferSize later) := by
  intro later taken
  obtain ⟨request, asked, reads, -, moved, settles⟩ :=
    answered waits (.deliver bytes)
  have isReading := reads.mpr rfl
  have result : (Answer.deliver bytes request).result = .moved taken := by
    rw [show taken = bytes.take request.asked from by rw [asked]]
    obtain ⟨fd, off, size, offered⟩ := request
    cases isReading
    rfl
  rw [result] at moved settles
  obtain ⟨steady, outcome⟩ := steady_of_settles moved settles
  refine ⟨moved, steady, outcome, fun empty waiting => ?_⟩
  have nothing : taken = [] := by simp [taken, empty]
  rw [nothing, Settles, if_neg (by simp)] at settles
  obtain ⟨count, returned⟩ := settles
  cases returned.symm.trans waiting

end Caller

end ExtUnix.Transfer
