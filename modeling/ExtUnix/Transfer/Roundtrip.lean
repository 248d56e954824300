import ExtUnix.Transfer.File

namespace ExtUnix.Transfer

open ExtUnix.Data
open ExtUnix.Runtime

/-! A call that finishes is interrupted only finitely often. -/

theorem firstAnswers_append (kernel : Nat → Answer) (count more : Nat) :
    ∃ later, firstAnswers kernel (count + more) =
      firstAnswers kernel count ++ later := by
  refine ⟨((List.range more).map (count + ·)).map kernel, ?_⟩
  rw [firstAnswers, List.range_add, List.map_append]
  rfl

theorem transfer_extends (unixBufferSize : Nat) (kind : Kind)
    {operation : Operation} (fd : CamlInt) {target : Target}
    (accepted : target.Accepts operation) (kernel : Nat → Answer)
    (count more : Nat) :
    (transfer unixBufferSize kind operation fd target
        (firstAnswers kernel (count + more))).Extends
      (transfer unixBufferSize kind operation fd target
        (firstAnswers kernel count)) := by
  obtain ⟨later, answers⟩ := firstAnswers_append kernel count more
  rw [answers, transfer_accepted unixBufferSize kind fd _ accepted,
    transfer_accepted unixBufferSize kind fd _ accepted]
  exact loop_append_extends _ _ _ _ later _ _

theorem finitelyInterrupted_of_finishes {unixBufferSize : Nat} {kind : Kind}
    {operation : Operation} {fd : CamlInt} {target : Target}
    (accepted : target.Accepts operation) {kernel : Nat → Answer}
    (finishes : Finishes fun count => transfer unixBufferSize kind operation fd
      target (firstAnswers kernel count)) :
    FinitelyInterrupted fun count => transfer unixBufferSize kind operation fd
      target (firstAnswers kernel count) := by
  obtain ⟨enough, finished⟩ := finishes
  refine ⟨interrupts (transfer unixBufferSize kind operation fd target
    (firstAnswers kernel enough)).calls, fun count => ?_⟩
  have prolonged := (transfer_extends unixBufferSize kind fd accepted kernel
    count enough).1
  have settled := (transfer_extends unixBufferSize kind fd accepted kernel
    enough count).2 finished
  rw [Nat.add_comm, settled] at prolonged
  exact prolonged.sublist.countP_le

def Answer.serve (file : List UInt8) (count : Nat) : Answer := fun request =>
  Answer.deliver
    (slice file ((request.off.map BitVec.toNat).getD 0) count) request

theorem serve_serves {file : List UInt8} {count : Nat} (positive : 0 < count) :
    Serves file (Answer.serve file count) := by
  intro request off positioned reading asked
  right
  have result : (Answer.serve file count request).result =
      .moved ((slice file off.toNat count).take request.asked) := by
    obtain ⟨fd, word, size, offered⟩ := request
    cases positioned
    cases reading
    rfl
  rw [result]
  by_cases past : file.length ≤ off.toNat
  · refine .inl ⟨past, ?_⟩
    rw [slice, List.drop_eq_nil_of_le past, List.take_nil, List.take_nil]
  · refine .inr ⟨by omega,
      min (min count request.asked) (file.length - off.toNat), by omega,
      by omega, ?_⟩
    congr 1
    apply List.ext_getElem?
    intro index
    simp only [slice, List.getElem?_take, List.getElem?_drop]
    split_ifs with first second third <;> first | rfl | omega | skip
    exact List.getElem?_eq_none (by omega)

theorem accept_absorbs {count : Nat} (positive : 0 < count) :
    Absorbs (Answer.accept count) := by
  intro request chunk writing nonempty asked
  refine .inr ⟨chunk.take (min count request.asked), ?_, ?_⟩
  · have := List.length_pos_iff.mpr nonempty
    apply List.ne_nil_of_length_pos
    rw [List.length_take]
    omega
  · obtain ⟨fd, off, size, offered⟩ := request
    cases writing
    rfl

def interruptFirst (answer : Answer) : Nat → Answer
  | 0 => Answer.interrupt
  | _ + 1 => answer

theorem interruptFirst_serves {file : List UInt8} {answer : Answer}
    (serves : Serves file answer) (index : Nat) :
    Serves file (interruptFirst answer index) := by
  cases index with
  | zero => exact fun _ _ _ _ _ => .inl rfl
  | succ index => exact serves

theorem interruptFirst_absorbs {answer : Answer} (absorbs : Absorbs answer)
    (index : Nat) : Absorbs (interruptFirst answer index) := by
  cases index with
  | zero => exact fun _ _ _ _ _ => .inl rfl
  | succ index => exact absorbs

/-- The string and the bigarray functions read the same bytes of a file, with
the same count, whichever counts the two kernels choose. -/
theorem pread_schedule_independent (unixBufferSize : Nat) (file : List UInt8)
    (off : CamlInt) (fd fd' : CamlInt) (kind kind' : Kind) (buf : Buffer)
    (ofs len : CamlInt) (array : Buffer) (kernel kernel' : Nat → Answer)
    (roomy : 0 < unixBufferSize)
    (retries : kind.retries = true) (retries' : kind'.retries = true)
    (accepted : ¬Rejected (.pread off) buf ofs len)
    (sameSize : (array.data.length : Int) = len.toInt)
    (serves : ∀ index, Serves file (kernel index))
    (serves' : ∀ index, Serves file (kernel' index))
    (finite : FinitelyInterrupted fun count => stringCall unixBufferSize kind
      (.pread off) fd buf ofs len (firstAnswers kernel count))
    (finite' : FinitelyInterrupted fun count => bigarrayCall kind'
      (.pread off) fd' array (firstAnswers kernel' count)) :
    let count := min len.toInt.toNat (file.length - off.toInt.toNat)
    let delivered := slice file off.toInt.toNat count
    Completes (fun count => stringCall unixBufferSize kind (.pread off) fd buf
        ofs len (firstAnswers kernel count))
      (fun run => run.ending.Returns count ∧
        run.buf.data = splice buf.data ofs.toInt.toNat delivered ∧
        slice run.buf.data ofs.toInt.toNat len.toInt.toNat =
          delivered ++
            (slice buf.data ofs.toInt.toNat len.toInt.toNat).drop count) ∧
    Completes (fun count => bigarrayCall kind' (.pread off) fd' array
        (firstAnswers kernel' count))
      (fun run => run.ending.Returns count ∧
        run.buf.data = delivered ++ array.data.drop count) := by
  intro count delivered
  have nonneg : 0 ≤ off.toInt := by
    simp only [Rejected, not_or, not_exists, not_and, Int.not_lt] at accepted
    exact accepted.1 off rfl
  have width : delivered.length = count := by
    rw [length_slice_eq_min]
    omega
  constructor
  · have stringAccepted : (Target.string buf ofs len).Accepts (.pread off) :=
      accepted
    obtain ⟨finishes, outcome⟩ :=
      pread_completes roomy retries stringAccepted serves finite
    refine ⟨finishes, fun enough finished => ?_⟩
    obtain ⟨returns, stored⟩ := outcome enough finished
    have inside := @Target.inside .reading off _ stringAccepted
    simp only [Target.start, Target.size, Target.buf] at inside stored
    refine ⟨returns, stored, ?_⟩
    have prefixed := slice_splice_prefix inside
      (show delivered.length ≤ len.toInt.toNat by omega)
    rw [width] at prefixed
    exact (congrArg (slice · _ _) stored).trans prefixed
  · have arrayAccepted : (Target.bigarray array).Accepts (.pread off) := by
      rintro off' ⟨rfl⟩
      exact nonneg
    obtain ⟨finishes, outcome⟩ :=
      @pread_completes unixBufferSize kind' fd' off (.bigarray array) kernel'
        file roomy retries' arrayAccepted serves' finite'
    refine ⟨finishes, fun enough finished => ?_⟩
    obtain ⟨returns, stored⟩ := outcome enough finished
    have sizeEq : (Target.bigarray array).size = len.toInt.toNat := by
      simp only [Target.size]
      omega
    rw [sizeEq] at returns stored
    refine ⟨returns, stored.trans ?_⟩
    change splice array.data 0 delivered = _
    rw [splice, width]
    simp

/-- Three bytes from the second on, of a file of four: one by one after an
interruption into the string, at once into the bigarray. -/
theorem pread_schedule_independent_four :
    let file : List UInt8 := [1, 2, 3, 4]
    let buf : Buffer := ⟨[9, 9, 9, 9, 9, 9], by decide⟩
    let array : Buffer := ⟨[8, 8, 8, 8], by decide⟩
    let kernel := interruptFirst (Answer.serve file 1)
    let kernel' := interruptFirst (Answer.serve file 10)
    Completes (fun count => stringCall 2 .all (.pread 1) 0 buf 1 4
        (firstAnswers kernel count))
      (fun run => run.ending.Returns 3 ∧ run.buf.data = [9, 2, 3, 4, 9, 9]) ∧
    Completes (fun count => bigarrayCall .plain (.pread 1) 0 array
        (firstAnswers kernel' count))
      (fun run => run.ending.Returns 3 ∧ run.buf.data = [2, 3, 4, 8]) := by
  intro file buf array kernel kernel'
  have accepted : ¬Rejected (.pread 1) buf 1 4 := by
    rw [← rejected_iff]
    decide
  have stringAccepted : (Target.string buf 1 4).Accepts (.pread 1) := accepted
  have arrayAccepted : (Target.bigarray array).Accepts (.pread 1) := by
    rintro off ⟨rfl⟩
    decide
  obtain ⟨⟨finishes, read⟩, ⟨finishes', read'⟩⟩ :=
    pread_schedule_independent 2 file 1 0 0 .all .plain buf 1 4 array kernel
      kernel' (by decide) rfl rfl accepted (by decide)
      (interruptFirst_serves (serve_serves (by decide)))
      (interruptFirst_serves (serve_serves (by decide)))
      (@finitelyInterrupted_of_finishes 2 .all _ 0 _ stringAccepted kernel
        ⟨6, by decide⟩)
      (@finitelyInterrupted_of_finishes 2 .plain _ 0 _ arrayAccepted kernel'
        ⟨3, by decide⟩)
  exact ⟨⟨finishes, fun count finished =>
      ⟨(read count finished).1, (read count finished).2.1⟩⟩,
    ⟨finishes', fun count finished => read' count finished⟩⟩

/-- Writing a range and reading it back, under any two schedules, yields the
bytes written; the file differs from the old one in that range and in the zeros
before it only.  The calls have the answers of the two kernels in turn. -/
theorem pwrite_pread_roundtrip (unixBufferSize : Nat) (file : List UInt8)
    (off fd : CamlInt) (kind : Kind) (source : Target)
    (kernel : Nat → Answer) (roomy : 0 < unixBufferSize)
    (retries : kind.retries = true)
    (accepted : source.Accepts (.pwrite off))
    (absorbs : ∀ index, Absorbs (kernel index))
    (finite : FinitelyInterrupted fun count => transfer unixBufferSize kind
      (.pwrite off) fd source (firstAnswers kernel count)) :
    let start := off.toInt.toNat
    let piece := slice source.buf.data source.start source.size
    (∀ count, Consumes
      (transfer unixBufferSize kind (.pwrite off) fd source)
      (firstAnswers kernel count)) ∧
    Completes
      (fun count => transfer unixBufferSize kind (.pwrite off) fd source
        (firstAnswers kernel count))
      (fun run =>
        let file' := written file run.calls
        run.ending.Returns source.size ∧ run.buf = source.buf ∧
        (∀ index : Nat, file'[index]? =
          if start ≤ index ∧ index < start + source.size then
            piece[index - start]?
          else if index < file.length then file[index]?
          else if 0 < source.size ∧ index < start then some 0
          else none) ∧
        ∀ (fd' : CamlInt) (kind' : Kind) (target : Target)
          (kernel' : Nat → Answer), kind'.retries = true →
          target.Accepts (.pread off) → target.size = source.size →
          (∀ index, Serves file' (kernel' index)) →
          (FinitelyInterrupted fun count => transfer unixBufferSize kind'
            (.pread off) fd' target (firstAnswers kernel' count)) →
          (∀ count, Consumes
            (transfer unixBufferSize kind' (.pread off) fd' target)
            (firstAnswers kernel' count)) ∧
          Completes
            (fun count => transfer unixBufferSize kind' (.pread off) fd'
              target (firstAnswers kernel' count))
            (fun again => again.ending.Returns source.size ∧
              again.buf.data =
                splice target.buf.data target.start piece ∧
              slice again.buf.data target.start target.size = piece)) := by
  intro start piece
  have width : piece.length = source.size :=
    length_slice _ (@Target.inside .writing off source accepted)
  obtain ⟨finishes, outcome⟩ :=
    pwrite_completes roomy retries accepted absorbs finite file
  refine ⟨fun count => transfer_consumes unixBufferSize kind fd _ accepted,
    finishes, fun count finished => ?_⟩
  obtain ⟨returns, unchanged, contents⟩ := outcome count finished
  change written file _ = overlay 0 file start piece at contents
  refine ⟨returns, unchanged, ?_, ?_⟩
  · intro index
    rw [contents]
    by_cases nothing : source.size = 0
    · rw [List.eq_nil_of_length_eq_zero (width.trans nothing), overlay_nil,
        nothing, if_neg (by omega), if_neg (show ¬(0 < 0 ∧ _) by omega)]
      split_ifs with inFile
      · rfl
      · exact List.getElem?_eq_none (by omega)
    · rw [getElem?_overlay 0 file start
        (List.ne_nil_of_length_pos (by omega)), width]
      simp only [Nat.pos_of_ne_zero nothing, true_and]
  · intro fd' kind' target kernel' retries' accepted' sameSize serves' finite'
    obtain ⟨finishes', outcome'⟩ :=
      pread_completes roomy retries' accepted' serves' finite'
    refine ⟨fun count' =>
        transfer_consumes unixBufferSize kind' fd' _ accepted',
      finishes', fun count' finished' => ?_⟩
    obtain ⟨returns', stored⟩ := outcome' count' finished'
    have readBack : slice (overlay 0 file start piece) start source.size =
        piece := by
      rw [← width]
      exact slice_overlay 0 file start piece
    have available : min target.size
        ((overlay 0 file start piece).length - start) = source.size := by
      rw [sameSize, ← length_slice_eq_min, readBack, width]
    change Ending.Returns _ (min target.size (_ - start)) at returns'
    change _ = splice _ _ (slice _ start (min target.size (_ - start)))
      at stored
    rw [contents, available] at returns' stored
    rw [readBack] at stored
    have inside := @Target.inside .reading off target accepted'
    refine ⟨returns', stored, ?_⟩
    rw [stored, sameSize, ← width]
    exact slice_splice_self (by omega)

/-- Three bytes written past the end of a two-byte file, one at a time after an
interruption, and read back two at a time. -/
theorem pwrite_pread_roundtrip_three :
    let file : List UInt8 := [1, 2]
    let source := Target.string ⟨[5, 6, 7, 8], by decide⟩ 1 3
    let target := Target.bigarray ⟨[0, 0, 0], by decide⟩
    let kernel := interruptFirst (Answer.accept 1)
    let run := transfer 2 .plain (.pwrite 4) 0 source (firstAnswers kernel 6)
    let kernel' := interruptFirst
      (Answer.serve (written file run.calls) 2)
    run.ending = .returned 3 ∧
    written file run.calls = [1, 2, 0, 0, 6, 7, 8] ∧
    Completes
      (fun count => transfer 2 .all (.pread 4) 0 target
        (firstAnswers kernel' count))
      (fun again => again.ending.Returns 3 ∧ again.buf.data = [6, 7, 8]) := by
  intro file source target kernel run kernel'
  have accepted : source.Accepts (.pwrite 4) := by
    change ¬Rejected _ _ _ _
    rw [← rejected_iff]
    decide
  have targetAccepted : target.Accepts (.pread 4) := by
    rintro off ⟨rfl⟩
    decide
  have returned : run.ending = .returned 3 := by decide
  obtain ⟨-, -, outcome⟩ :=
    pwrite_pread_roundtrip 2 file 4 0 .plain source kernel (by decide) rfl
      accepted (interruptFirst_absorbs (accept_absorbs (by decide)))
      (finitelyInterrupted_of_finishes accepted ⟨6, by decide⟩)
  obtain ⟨-, -, -, reading⟩ := outcome 6 (by decide)
  refine ⟨returned, by decide, ?_⟩
  obtain ⟨-, finishes, read⟩ := reading 0 .all target kernel' rfl targetAccepted
    (by decide) (interruptFirst_serves (serve_serves (by decide)))
    (finitelyInterrupted_of_finishes targetAccepted ⟨4, by decide⟩)
  exact ⟨finishes, fun count finished =>
    ⟨(read count finished).1, (read count finished).2.1⟩⟩

end ExtUnix.Transfer
