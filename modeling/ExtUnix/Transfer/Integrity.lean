import ExtUnix.Transfer.Contract

namespace ExtUnix.Transfer

open ExtUnix.Data
open ExtUnix.Runtime

/-! What a transfer does to the buffer, and where its calls work. -/

structure PlacedAt (stub : Stub) (fd : BitVec 32) (registers : Registers)
    (before : Nat) (call : Call) : Prop where
  fd : call.request.fd = fd
  pos : call.pos.toNat = registers.ofs.toNat + before
  within : before + call.request.asked ≤ registers.len.toNat
  off : call.request.off =
    if stub.positional then some (registers.off + BitVec.ofNat 64 before)
    else none

/-- The data invariant of a run of the loop. -/
structure Intact (stub : Stub) (fd : BitVec 32) (registers : Registers)
    (buf : Buffer) (run : Run) : Prop where
  contained : run.ending ≠ .outOfBounds
  bounded : (transferred run.calls).length ≤ registers.len.toNat
  stored : run.buf.data =
    match stub.direction with
    | .reading => splice buf.data registers.ofs.toNat (transferred run.calls)
    | .writing => buf.data
  sent : stub.direction = .writing → transferred run.calls =
    slice buf.data registers.ofs.toNat (transferred run.calls).length
  placed : ∀ (index : Nat) call, run.calls[index]? = some call →
    PlacedAt stub fd registers
      (transferred (run.calls.take index)).length call
  counted : ∀ count, run.ending = .returned count →
    count.toInt = registers.processed.toNat + (transferred run.calls).length

section Iterations

variable {stub : Stub} {fd : BitVec 32} {registers : Registers} {buf : Buffer}

theorem Stub.call_placed (answer : Answer) :
    PlacedAt stub fd registers 0 (stub.call fd answer registers buf) where
  fd := rfl
  pos := rfl
  within := by
    rw [Nat.zero_add]
    exact stub.numbytes_le registers.len
  off := by
    change (if stub.positional then some registers.off else none) = _
    simp

theorem Intact.unmoved {ending : Ending} {calls : List Call}
    (nothing : transferred calls = [])
    (atMostOne : ∀ (index : Nat) call, calls[index]? = some call →
      PlacedAt stub fd registers 0 call)
    (contained : ending ≠ .outOfBounds)
    (counted : ∀ count, ending = .returned count →
      count.toInt = registers.processed.toNat) :
    Intact stub fd registers buf ⟨ending, buf, calls⟩ where
  contained := contained
  bounded := by simp [nothing]
  stored := by
    simp only [nothing, splice_nil]
    cases stub.direction <;> rfl
  sent := by simp [nothing]
  placed := by
    intro index call found
    have prefixEmpty : transferred (calls.take index) = [] := by
      have whole := congrArg transferred (List.take_append_drop index calls)
      rw [transferred_append, nothing] at whole
      exact (List.append_eq_nil_iff.mp whole).1
    rw [prefixEmpty]
    exact atMostOne index call found
  counted := by simpa [nothing] using counted

theorem Moved.sent {bytes : List UInt8} {stored : Buffer}
    (moved : Moved stub registers buf bytes stored)
    (fits : Fits registers buf) (writing : stub.direction = .writing) :
    bytes = slice buf.data registers.ofs.toNat bytes.length := by
  have accepted := moved.accepted
  simp only [Stub.chunk, writing, Option.mem_def, Option.some.injEq,
    forall_eq'] at accepted
  have inside := fits.inside
  have bounded := moved.bounded
  have numbytes := stub.numbytes_le registers.len
  have taken := List.prefix_iff_eq_take.mp accepted
  rw [slice, List.take_take, Nat.min_eq_left bounded] at taken
  exact taken

theorem PlacedAt.shift {call : Call} {count before : Nat}
    (fits : Fits registers buf) (bounded : count ≤ registers.len.toNat)
    (placed : PlacedAt stub fd (registers.advance count) before call) :
    PlacedAt stub fd registers (count + before) call where
  fd := placed.fd
  pos := by
    rw [placed.pos, Registers.toNat_advance_ofs fits bounded, Nat.add_assoc]
  within := by
    have within := placed.within
    rw [Registers.toNat_advance_len bounded] at within
    omega
  off := by
    rw [placed.off]
    simp only [Registers.advance, BitVec.add_assoc, ← BitVec.ofNat_add]

theorem placed_prepend {answer : Answer} {run : Run}
    (later : ∀ (index : Nat) call, run.calls[index]? = some call →
      PlacedAt stub fd registers
        ((stub.call fd answer registers buf).result.bytes.length +
          (transferred (run.calls.take index)).length) call)
    (index : Nat) (call : Call)
    (found : (run.prepend (stub.call fd answer registers buf)).calls[index]? =
      some call) :
    PlacedAt stub fd registers (transferred ((run.prepend
      (stub.call fd answer registers buf)).calls.take index)).length call := by
  cases index with
  | zero =>
      simp only [Run.prepend_calls, List.getElem?_cons_zero,
        Option.some.injEq] at found
      subst found
      simpa using Stub.call_placed answer
  | succ index =>
      simp only [Run.prepend_calls, List.getElem?_cons_succ] at found
      simpa using later index call found

theorem Intact.prepend {bytes : List UInt8} {stored : Buffer}
    {answer : Answer} {run : Run} (fits : Fits registers buf)
    (delivered : (stub.call fd answer registers buf).result = .moved bytes)
    (moved : Moved stub registers buf bytes stored)
    (intact : Intact stub fd (registers.advance bytes.length) stored run) :
    Intact stub fd registers buf
      (run.prepend (stub.call fd answer registers buf)) := by
  have bounded := moved.length_le
  have inside := fits.inside
  have rest := intact.bounded
  have lenEq : (registers.advance bytes.length).len.toNat =
      registers.len.toNat - bytes.length :=
    Registers.toNat_advance_len bounded
  have ofsEq := Registers.toNat_advance_ofs fits bounded
  constructor
  · exact intact.contained
  · simp only [Run.prepend_calls, transferred_cons, delivered, Result.bytes,
      List.length_append]
    omega
  · have kept := intact.stored
    have data := moved.data
    simp only [Run.prepend_buf, Run.prepend_calls, transferred_cons, delivered,
      Result.bytes]
    cases direction : stub.direction with
    | reading =>
        simp only [direction] at kept data ⊢
        rw [kept, data, ofsEq, splice_append (by omega)]
    | writing =>
        simp only [direction] at kept data ⊢
        rw [kept, data]
  · intro writing
    have tail := intact.sent writing
    have data := moved.data
    simp only [writing] at data
    rw [data, ofsEq] at tail
    simp only [Run.prepend_calls, transferred_cons, delivered, Result.bytes,
      List.length_append]
    rw [slice_append, ← moved.sent fits writing, ← tail]
  · apply placed_prepend
    intro index call found
    rw [delivered]
    exact (intact.placed index call found).shift fits bounded
  · intro count returned
    have total := intact.counted count returned
    rw [Registers.toNat_advance_processed fits bounded] at total
    simp only [Run.prepend_calls, transferred_cons, delivered, Result.bytes,
      List.length_append]
    omega

/-- A retried call leaves nothing behind but its entry in the trace. -/
theorem Intact.prepend_failed {answer : Answer} {errno : Errno} {run : Run}
    (failed : (stub.call fd answer registers buf).result = .failed errno)
    (intact : Intact stub fd registers buf run) :
    Intact stub fd registers buf
      (run.prepend (stub.call fd answer registers buf)) := by
  have same : transferred (run.prepend
      (stub.call fd answer registers buf)).calls = transferred run.calls := by
    simp [failed, Result.bytes]
  refine ⟨intact.contained, ?_, ?_, ?_, ?_, ?_⟩
  · rw [same]
    exact intact.bounded
  · rw [same]
    exact intact.stored
  · rw [same]
    exact intact.sent
  · apply placed_prepend
    intro index call found
    rw [failed]
    simpa [Result.bytes] using intact.placed index call found
  · rw [same]
    exact intact.counted

end Iterations

theorem toInt_valLong {word : BitVec 64} (bound : word.toNat < 2 ^ 62) :
    (valLong word).toInt = word.toNat := by
  rw [valLong_eq_ofNat, toInt_ofNat_of_lt bound]

theorem loop_intact (stub : Stub) (fd mode : BitVec 32) (answers : List Answer)
    {registers : Registers} {buf : Buffer} (fits : Fits registers buf) :
    Intact stub fd registers buf
      (loop stub fd mode answers registers buf) := by
  induction answers generalizing registers buf with
  | nil =>
      have counted := fits.counted
      by_cases done : registers.len = 0
      · rw [loop_done stub fd mode [] buf done]
        apply Intact.unmoved rfl (by simp) (by simp)
        rintro count ⟨rfl⟩
        exact toInt_valLong (by omega)
      · rw [loop_waiting stub fd mode fits done]
        exact Intact.unmoved rfl (by simp) (by simp) (by simp)
  | cons answer rest induction =>
      have counted := fits.counted
      have onlyCall : ∀ (index : Nat) call,
          [stub.call fd answer registers buf][index]? = some call →
            PlacedAt stub fd registers 0 call := by
        intro index call found
        obtain rfl := List.mem_singleton.mp (List.mem_of_getElem? found)
        exact Stub.call_placed answer
      by_cases done : registers.len = 0
      · rw [loop_done stub fd mode _ buf done]
        apply Intact.unmoved rfl (by simp) (by simp)
        rintro count ⟨rfl⟩
        exact toInt_valLong (by omega)
      generalize outcome :
        loop stub fd mode (answer :: rest) registers buf = run
      have iteration := loop_iteration stub fd mode answer rest fits done
      rw [outcome] at iteration
      cases iteration with
      | retried failed noIntr =>
          exact (induction fits).prepend_failed failed
      | stopped errno failed kept progress tolerated =>
          apply Intact.unmoved (by simp [failed, Result.bytes]) onlyCall
            (by simp)
          rintro count ⟨rfl⟩
          exact toInt_valLong (by omega)
      | raised errno failed kept fatal =>
          exact Intact.unmoved (by simp [failed, Result.bytes]) onlyCall
            (by simp) (by simp)
      | exhausted empty =>
          apply Intact.unmoved (by simp [empty, Result.bytes]) onlyCall
            (by simp)
          rintro count ⟨rfl⟩
          exact toInt_valLong (by omega)
      | once bytes stored delivered moved isOnce =>
          have after := (moved.fits fits).counted
          refine Intact.prepend fits delivered moved
            (?_ : Intact _ _ _ _ ⟨_, stored, []⟩)
          apply Intact.unmoved rfl (by simp) (by simp)
          rintro count ⟨rfl⟩
          exact toInt_valLong (by omega)
      | continued bytes stored delivered moved notOnce =>
          exact (induction (moved.fits fits)).prepend fits delivered moved

theorem loop_ending_ne_invalidArgument (stub : Stub) (fd mode : BitVec 32)
    (answers : List Answer) (registers : Registers) (buf : Buffer)
    (message : String) :
    (loop stub fd mode answers registers buf).ending ≠
      .invalidArgument message := by
  induction answers generalizing registers buf with
  | nil =>
      by_cases done : registers.len = 0
      · simp [loop_done stub fd mode [] buf done]
      rw [loop, if_neg done]
      cases stub.offer buf registers.ofs (stub.numbytes registers.len) <;> simp
  | cons answer rest induction =>
      by_cases done : registers.len = 0
      · simp [loop_done stub fd mode _ buf done]
      rw [loop, if_neg done]
      cases stub.offer buf registers.ofs (stub.numbytes registers.len) with
      | none => simp
      | some offered =>
          simp only
          cases answer (stub.request fd registers offered) with
          | failed errno =>
              simp only
              split_ifs <;> simp [induction]
          | moved bytes bounded accepted =>
              simp only
              cases stub.accept buf registers.ofs bytes with
              | none => split_ifs <;> simp
              | some stored =>
                  simp only
                  split_ifs <;> simp [induction]

theorem toInt_offset_add {off : CamlInt} {before : Nat}
    (nonneg : 0 ≤ off.toInt) (small : before < 2 ^ 62) :
    (longVal off + BitVec.ofNat 64 before).toInt = off.toInt + before := by
  have bound := toInt_lt off
  have word : (BitVec.ofNat 64 before).toInt = before := by
    rw [BitVec.toInt_eq_toNat_cond, BitVec.toNat_ofNat]
    have : before % 2 ^ 64 = before := Nat.mod_eq_of_lt (by omega)
    rw [this, if_pos (by omega)]
  rw [BitVec.toInt_add, toInt_longVal, word, Int.bmod_eq_of_le] <;> omega

theorem Operation.off_of_mem {operation : Operation} {off : CamlInt}
    (positional : off ∈ operation.off?) :
    operation.offset = longVal off ∧ operation.off?.isSome = true := by
  cases operation <;> simp_all [off?, offset]

/-- The string functions reject exactly the argument triples that do not denote
a range of the buffer, without a system call.  On the others the answers of the
kernel are taken in turn, and every copy stays in the range; what it delivered is
what the range holds afterwards, in order, and what it accepted is what the range
holds; and the `i`-th positional call works at the offset advanced by what was
moved before it. -/
theorem stringCall_integrity (unixBufferSize : Nat) (kind : Kind)
    (operation : Operation) (fd : CamlInt) (buf : Buffer) (ofs len : CamlInt)
    (answers : List Answer) :
    let run := stringCall unixBufferSize kind operation fd buf ofs len answers
    let moved := transferred run.calls
    ((∃ message, run.ending = .invalidArgument message) ↔
      Rejected operation buf ofs len) ∧
    (Rejected operation buf ofs len → run.calls = [] ∧ run.buf = buf) ∧
    (¬Rejected operation buf ofs len →
      Consumes (stringCall unixBufferSize kind operation fd buf ofs len)
        answers ∧
      run.ending ≠ .outOfBounds ∧
      (∀ (index : Nat) call, run.calls[index]? = some call →
        let before := (transferred (run.calls.take index)).length
        call.request.fd = intVal fd ∧ ofs.toInt ≤ call.pos.toNat ∧
        call.pos.toNat + call.request.asked ≤ ofs.toInt + len.toInt ∧
        ∀ off ∈ operation.off?, ∃ word,
          call.request.off = some word ∧ word.toInt = off.toInt + before) ∧
      (match operation.direction with
        | .reading => run.buf.data = splice buf.data ofs.toInt.toNat moved
        | .writing => run.buf = buf ∧
            moved = slice buf.data ofs.toInt.toNat moved.length) ∧
      ∀ count, run.ending = .returned count →
        count.toInt = moved.length) := by
  intro run moved
  by_cases rejected : Rejected operation buf ofs len
  · obtain ⟨message, equal⟩ :=
      stringCall_rejected unixBufferSize kind fd answers rejected
    have runEq : run = invalidArg message buf := equal
    rw [runEq]
    exact ⟨⟨fun _ => rejected, fun _ => ⟨message, rfl⟩⟩,
      fun _ => ⟨rfl, rfl⟩, fun accepted => absurd rejected accepted⟩
  · have runEq := stringCall_accepted unixBufferSize kind fd answers rejected
    have fits := accepted_fits rejected
    have intact : Intact (operation.stub (some unixBufferSize)) (intVal fd)
        ⟨operation.offset, longVal ofs, longVal len, 0⟩ buf run := by
      rw [show run = _ from runEq]
      exact loop_intact _ _ _ answers fits
    refine ⟨⟨?_, fun impossible => absurd impossible rejected⟩,
      fun impossible => absurd impossible rejected, fun accepted => ?_⟩
    · rintro ⟨message, invalid⟩
      rw [show run = _ from runEq] at invalid
      exact absurd invalid (loop_ending_ne_invalidArgument _ _ _ _ _ _ _)
    have sizeBound := buf.size_lt
    simp only [Rejected, not_or, not_exists, not_and, Int.not_lt] at accepted
    obtain ⟨offNonneg, ofsNonneg, lenNonneg, inside⟩ := accepted
    have ofsWord := toNat_longVal ofsNonneg
    have lenWord := toNat_longVal lenNonneg
    refine ⟨stringCall_consumes unixBufferSize kind fd answers rejected,
      intact.contained, ?_, ?_, ?_⟩
    · intro index call found before
      have placed := intact.placed index call found
      have pos := placed.pos
      have within := placed.within
      simp only at pos within
      refine ⟨placed.fd, by omega, by omega, ?_⟩
      intro off positional
      obtain ⟨offsetEq, isSome⟩ := Operation.off_of_mem positional
      refine ⟨longVal off + BitVec.ofNat 64 before, ?_,
        toInt_offset_add (offNonneg off positional) (by omega)⟩
      rw [placed.off]
      simp only [Operation.stub, isSome, if_true, offsetEq]
      rfl
    · have stored := intact.stored
      have sent := intact.sent
      have startEq : (longVal ofs).toNat = ofs.toInt.toNat := by omega
      simp only [Operation.stub, startEq] at stored sent
      cases direction : operation.direction with
      | reading =>
          simp only [direction] at stored ⊢
          exact stored
      | writing =>
          simp only [direction] at stored sent ⊢
          exact ⟨Buffer.ext stored, sent trivial⟩
    · intro count returned
      simpa using intact.counted count returned

/-! `LargeFile`: the same loops, behind a check of the offset alone. -/

/-- Two runs a caller cannot tell apart, the text of `Invalid_argument`
aside. -/
def Run.Agrees (first second : Run) : Prop :=
  first.buf = second.buf ∧ first.calls = second.calls ∧
    (first.ending = second.ending ∨
      ∃ message message', first.ending = .invalidArgument message ∧
        second.ending = .invalidArgument message')

def Direction.positional (off : CamlInt) : Direction → Operation
  | .reading => .pread off
  | .writing => .pwrite off

theorem largeFileCall_eq (unixBufferSize : Nat) (kind : Kind)
    (direction : Direction) (fd off : CamlInt) (buf : Buffer)
    (ofs len : CamlInt) (answers : List Answer) :
    ∃ message,
      largeFileCall unixBufferSize kind direction fd (int64OfInt off) buf ofs
          len answers =
        if (int64OfInt off).slt 0 then invalidArg message buf
        else
          loop ((direction.positional off).stub (some unixBufferSize))
            (intVal fd) kind.mode answers
            ⟨longVal off, longVal ofs, longVal len, 0⟩ buf := by
  cases direction <;> cases kind <;> exact ⟨_, rfl⟩

theorem rejected_positional_iff (direction : Direction) (off : CamlInt)
    (buf : Buffer) (ofs len : CamlInt) :
    Rejected (direction.positional off) buf ofs len ↔
      off.toInt < 0 ∨ ofs.toInt < 0 ∨ len.toInt < 0 ∨
        (buf.data.length : Int) < ofs.toInt + len.toInt := by
  cases direction <;> simp [Rejected, Direction.positional, Operation.off?]

/-- A `LargeFile` function agrees with the function of the same name exactly
when the offset is rejected by both or the range lies in the buffer. -/
theorem largeFileCall_agrees_iff (unixBufferSize : Nat) (kind : Kind)
    (direction : Direction) (fd off : CamlInt) (buf : Buffer)
    (ofs len : CamlInt) (answers : List Answer) :
    let large := largeFileCall unixBufferSize kind direction fd
      (int64OfInt off) buf ofs len answers
    (large.Agrees (stringCall unixBufferSize kind (direction.positional off)
        fd buf ofs len answers) ∧
      large.ending ≠ .outOfBounds) ↔
    (off.toInt < 0 ∨
      (0 ≤ ofs.toInt ∧ 0 ≤ len.toInt ∧
        ofs.toInt + len.toInt ≤ buf.data.length)) := by
  intro large
  obtain ⟨message, largeEq⟩ := largeFileCall_eq unixBufferSize kind direction
    fd off buf ofs len answers
  have rejectedIff := rejected_positional_iff direction off buf ofs len
  by_cases negative : off.toInt < 0
  · -- Both functions raise before looking at the range.
    rw [if_pos (by rw [slt_zero_iff, toInt_int64OfInt]; exact negative)]
      at largeEq
    obtain ⟨message', equal⟩ := stringCall_rejected unixBufferSize kind fd
      answers (rejectedIff.mpr (.inl negative))
    rw [show large = _ from largeEq, equal]
    refine ⟨fun _ => .inl negative, fun _ => ⟨⟨rfl, rfl, .inr ?_⟩, by simp [invalidArg]⟩⟩
    exact ⟨message, message', rfl, rfl⟩
  rw [if_neg (by rw [slt_zero_iff, toInt_int64OfInt]; exact negative)]
    at largeEq
  by_cases rejected : Rejected (direction.positional off) buf ofs len
  · -- The range check is missing: `LargeFile` runs the loop.
    obtain ⟨message', equal⟩ :=
      stringCall_rejected unixBufferSize kind fd answers rejected
    rw [equal]
    refine ⟨?_, fun inRange => ?_⟩
    · rintro ⟨⟨-, -, same | ⟨text, -, raised, -⟩⟩, -⟩
      · rw [show large = _ from largeEq] at same
        exact absurd same (loop_ending_ne_invalidArgument _ _ _ _ _ _ _)
      · rw [show large = _ from largeEq] at raised
        exact absurd raised (loop_ending_ne_invalidArgument _ _ _ _ _ _ _)
    · have := rejectedIff.mp rejected
      omega
  · have equal := stringCall_accepted unixBufferSize kind fd answers rejected
    have offsetEq : (direction.positional off).offset = longVal off := by
      cases direction <;> rfl
    have fits := accepted_fits rejected
    rw [offsetEq] at equal fits
    have intact := loop_intact
      ((direction.positional off).stub (some unixBufferSize)) (intVal fd)
      kind.mode answers fits
    rw [show large = _ from largeEq, equal]
    refine ⟨fun _ => ?_, fun _ => ⟨⟨rfl, rfl, .inl rfl⟩, intact.contained⟩⟩
    rw [rejectedIff] at rejected
    omega

/-- Reading two bytes into a one-byte buffer: `all_pread` refuses, and
`LargeFile.all_pread` copies past the end of the buffer. -/
theorem largeFile_allPread_overruns :
    let buf : Buffer := ⟨[0], by decide⟩
    let answers := [Answer.deliver [1, 2]]
    let large := LargeFile.allPread 65536 0 (int64OfInt 0) buf 0 2 answers
    large.ending = .outOfBounds ∧
      ¬large.Agrees (allPread 65536 0 0 buf 0 2 answers) := by
  have overrun : (LargeFile.allPread 65536 0 (int64OfInt 0) ⟨[0], by decide⟩
      0 2 [Answer.deliver [1, 2]]).ending = .outOfBounds := by decide
  refine ⟨overrun, ?_⟩
  rintro ⟨-, -, same | ⟨message, -, raised, -⟩⟩
  · exact absurd same (by decide)
  · exact absurd (overrun.symm.trans raised) (by simp)

end ExtUnix.Transfer
