import ExtUnix.Transfer.Interface

namespace ExtUnix.Transfer

open ExtUnix.Data
open ExtUnix.Runtime

/-! One iteration of the transfer loop, for registers that fit the buffer. -/

/-- The range still to be transferred lies in the buffer, and none of the
registers is about to wrap around. -/
structure Fits (registers : Registers) (buf : Buffer) : Prop where
  inside : registers.ofs.toNat + registers.len.toNat ≤ buf.data.length
  counted : registers.processed.toNat + registers.len.toNat < 2 ^ 62
  placed : registers.off.toNat + registers.len.toNat < 2 ^ 63

namespace Registers

variable {registers : Registers} {buf : Buffer} {count : Nat}

theorem toNat_advance_len (bounded : count ≤ registers.len.toNat) :
    (registers.advance count).len.toNat = registers.len.toNat - count := by
  have := registers.len.isLt
  simp only [advance, BitVec.toNat_sub, BitVec.toNat_ofNat]
  omega

theorem toNat_advance_ofs (fits : Fits registers buf)
    (bounded : count ≤ registers.len.toNat) :
    (registers.advance count).ofs.toNat = registers.ofs.toNat + count := by
  have := fits.inside
  have := buf.size_lt
  simp only [advance, BitVec.toNat_add, BitVec.toNat_ofNat]
  omega

theorem toNat_advance_processed (fits : Fits registers buf)
    (bounded : count ≤ registers.len.toNat) :
    (registers.advance count).processed.toNat =
      registers.processed.toNat + count := by
  have := fits.counted
  simp only [advance, BitVec.toNat_add, BitVec.toNat_ofNat]
  omega

theorem toNat_advance_off (fits : Fits registers buf)
    (bounded : count ≤ registers.len.toNat) :
    (registers.advance count).off.toNat = registers.off.toNat + count := by
  have := fits.placed
  simp only [advance, BitVec.toNat_add, BitVec.toNat_ofNat]
  omega

theorem advance_fits (fits : Fits registers buf)
    (bounded : count ≤ registers.len.toNat) {stored : Buffer}
    (sameSize : stored.data.length = buf.data.length) :
    Fits (registers.advance count) stored := by
  obtain ⟨inside, counted, placed⟩ := fits
  constructor
  · rw [toNat_advance_ofs ⟨inside, counted, placed⟩ bounded,
      toNat_advance_len bounded, sameSize]
    omega
  · rw [toNat_advance_processed ⟨inside, counted, placed⟩ bounded,
      toNat_advance_len bounded]
    omega
  · rw [toNat_advance_off ⟨inside, counted, placed⟩ bounded,
      toNat_advance_len bounded]
    omega

theorem advance_zero (registers : Registers) :
    registers.advance 0 = registers := by
  cases registers
  simp [advance]

end Registers

theorem Stub.numbytes_le (stub : Stub) (len : BitVec 64) :
    stub.numbytes len ≤ len.toNat := by
  unfold numbytes
  split
  · split <;> omega
  · exact Nat.le_refl _

theorem Stub.numbytes_pos {stub : Stub} {len : BitVec 64}
    (roomy : ∀ size ∈ stub.iobuf, 0 < size) (remaining : len ≠ 0) :
    0 < stub.numbytes len := by
  have positive : 0 < len.toNat := by
    have := mt (fun zero => BitVec.eq_of_toNat_eq (y := 0#64) zero) remaining
    simp only [BitVec.toNat_ofNat, Nat.zero_mod] at this
    omega
  unfold numbytes
  split
  · rename_i size equal
    have := roomy size (by simp [equal])
    split <;> omega
  · exact positive

def Stub.chunk (stub : Stub) (registers : Registers) (buf : Buffer) :
    Option (List UInt8) :=
  match stub.direction with
  | .reading => none
  | .writing =>
      some (slice buf.data registers.ofs.toNat (stub.numbytes registers.len))

theorem Stub.offer_of_fits (stub : Stub) {registers : Registers} {buf : Buffer}
    (fits : Fits registers buf) :
    stub.offer buf registers.ofs (stub.numbytes registers.len) =
      some (stub.chunk registers buf) := by
  have bounded := stub.numbytes_le registers.len
  have inside := fits.inside
  unfold offer chunk
  cases stub.direction with
  | reading => rfl
  | writing =>
      rw [load_of_le (by omega)]
      rfl

def Stub.call (stub : Stub) (fd : BitVec 32) (answer : Answer)
    (registers : Registers) (buf : Buffer) : Call :=
  let request := stub.request fd registers (stub.chunk registers buf)
  ⟨request, registers.ofs, (answer request).result⟩

/-- A call that moved at least one byte, and the buffer after it. -/
structure Moved (stub : Stub) (registers : Registers) (buf : Buffer)
    (bytes : List UInt8) (stored : Buffer) : Prop where
  nonempty : bytes ≠ []
  bounded : bytes.length ≤ stub.numbytes registers.len
  accepted : ∀ chunk ∈ stub.chunk registers buf, bytes <+: chunk
  data : stored.data =
    match stub.direction with
    | .reading => splice buf.data registers.ofs.toNat bytes
    | .writing => buf.data

namespace Moved

variable {stub : Stub} {registers : Registers} {buf stored : Buffer}
  {bytes : List UInt8}

theorem length_le (moved : Moved stub registers buf bytes stored) :
    bytes.length ≤ registers.len.toNat :=
  Nat.le_trans moved.bounded (stub.numbytes_le registers.len)

theorem fits (moved : Moved stub registers buf bytes stored)
    (before : Fits registers buf) :
    Fits (registers.advance bytes.length) stored := by
  apply Registers.advance_fits before moved.length_le
  have inside := before.inside
  have bounded := moved.length_le
  rw [moved.data]
  cases stub.direction with
  | reading => exact length_splice (by omega)
  | writing => rfl

end Moved

inductive Iteration (stub : Stub) (fd mode : BitVec 32) (answer : Answer)
    (next : Registers → Buffer → Run) (registers : Registers)
    (buf : Buffer) : Run → Prop
  | retried
      (failed : (stub.call fd answer registers buf).result = .failed .EINTR)
      (noIntr : mode &&& bitNoIntr ≠ 0) :
      Iteration stub fd mode answer next registers buf
        ((next registers buf).prepend (stub.call fd answer registers buf))
  | stopped (errno : Errno)
      (failed : (stub.call fd answer registers buf).result = .failed errno)
      (kept : ¬(errno = .EINTR ∧ mode &&& bitNoIntr ≠ 0))
      (progress : 0 < registers.processed)
      (tolerated : (errno = .EAGAIN ∨ errno = .EWOULDBLOCK) ∨
        mode &&& bitNoError ≠ 0) :
      Iteration stub fd mode answer next registers buf
        ⟨.returned (valLong registers.processed), buf,
          [stub.call fd answer registers buf]⟩
  | raised (errno : Errno)
      (failed : (stub.call fd answer registers buf).result = .failed errno)
      (kept : ¬(errno = .EINTR ∧ mode &&& bitNoIntr ≠ 0))
      (fatal : ¬(0 < registers.processed ∧
        ((errno = .EAGAIN ∨ errno = .EWOULDBLOCK) ∨
          mode &&& bitNoError ≠ 0))) :
      Iteration stub fd mode answer next registers buf
        ⟨.unixError errno stub.name, buf, [stub.call fd answer registers buf]⟩
  | exhausted
      (empty : (stub.call fd answer registers buf).result = .moved []) :
      Iteration stub fd mode answer next registers buf
        ⟨.returned (valLong registers.processed), buf,
          [stub.call fd answer registers buf]⟩
  | once (bytes : List UInt8) (stored : Buffer)
      (delivered :
        (stub.call fd answer registers buf).result = .moved bytes)
      (moved : Moved stub registers buf bytes stored)
      (isOnce : mode &&& bitOnce ≠ 0) :
      Iteration stub fd mode answer next registers buf
        ⟨.returned (valLong (registers.advance bytes.length).processed),
          stored, [stub.call fd answer registers buf]⟩
  | continued (bytes : List UInt8) (stored : Buffer)
      (delivered :
        (stub.call fd answer registers buf).result = .moved bytes)
      (moved : Moved stub registers buf bytes stored)
      (notOnce : mode &&& bitOnce = 0) :
      Iteration stub fd mode answer next registers buf
        ((next (registers.advance bytes.length) stored).prepend
          (stub.call fd answer registers buf))

theorem loop_done (stub : Stub) (fd mode : BitVec 32) (answers : List Answer)
    {registers : Registers} (buf : Buffer) (done : registers.len = 0) :
    loop stub fd mode answers registers buf =
      ⟨.returned (valLong registers.processed), buf, []⟩ := by
  cases answers <;> simp [loop, done]

theorem loop_waiting (stub : Stub) (fd mode : BitVec 32)
    {registers : Registers} {buf : Buffer} (fits : Fits registers buf)
    (remaining : registers.len ≠ 0) :
    loop stub fd mode [] registers buf = ⟨.waiting, buf, []⟩ := by
  rw [loop, if_neg remaining, stub.offer_of_fits fits]

section Loops

variable {stub : Stub} {fd mode : BitVec 32} {registers : Registers}
  {buf : Buffer}

theorem Stub.accept_of_fits (stub : Stub) (fits : Fits registers buf)
    {bytes : List UInt8} (short : bytes.length ≤ registers.len.toNat) :
    ∃ stored, stub.accept buf registers.ofs bytes = some stored ∧
      stored.data.length = buf.data.length := by
  have inside := fits.inside
  unfold Stub.accept
  cases stub.direction with
  | reading =>
      obtain ⟨stored, equal, data⟩ :=
        @store_of_le buf registers.ofs bytes (by omega)
      exact ⟨stored, equal, by rw [data, length_splice (by omega)]⟩
  | writing => exact ⟨buf, rfl, rfl⟩

theorem Stub.call_result (stub : Stub) (fd : BitVec 32) (answer : Answer)
    (registers : Registers) (buf : Buffer) :
    (stub.call fd answer registers buf).result =
      (answer (stub.request fd registers
        (stub.chunk registers buf))).result := rfl

theorem loop_failed (mode : BitVec 32) (fits : Fits registers buf)
    (remaining : registers.len ≠ 0) {answer : Answer} {errno : Errno}
    (failed : (stub.call fd answer registers buf).result = .failed errno)
    (rest : List Answer) :
    loop stub fd mode (answer :: rest) registers buf =
      if errno = .EINTR ∧ mode &&& bitNoIntr ≠ 0 then
        (loop stub fd mode rest registers buf).prepend
          (stub.call fd answer registers buf)
      else if 0 < registers.processed ∧
          ((errno = .EAGAIN ∨ errno = .EWOULDBLOCK) ∨
            mode &&& bitNoError ≠ 0) then
        ⟨.returned (valLong registers.processed), buf,
          [stub.call fd answer registers buf]⟩
      else
        ⟨.unixError errno stub.name, buf,
          [stub.call fd answer registers buf]⟩ := by
  have result := stub.call_result fd answer registers buf
  rw [loop, if_neg remaining, stub.offer_of_fits fits]
  rw [failed] at result
  simp only [Stub.call]
  generalize answer (stub.request fd registers (stub.chunk registers buf)) =
    reply at result
  cases reply with
  | moved bytes bounded accepted => cases result
  | failed other =>
      cases result
      simp only [and_or_left, ite_or]

theorem loop_moved (mode : BitVec 32) (fits : Fits registers buf)
    (remaining : registers.len ≠ 0) {answer : Answer} {bytes : List UInt8}
    (moved : (stub.call fd answer registers buf).result = .moved bytes) :
    ∃ stored, stub.accept buf registers.ofs bytes = some stored ∧
      Fits (registers.advance bytes.length) stored ∧ ∀ rest,
      loop stub fd mode (answer :: rest) registers buf =
        if bytes = [] then
          ⟨.returned (valLong registers.processed), buf,
            [stub.call fd answer registers buf]⟩
        else if mode &&& bitOnce ≠ 0 then
          ⟨.returned (valLong (registers.advance bytes.length).processed),
            stored, [stub.call fd answer registers buf]⟩
        else
          (loop stub fd mode rest (registers.advance bytes.length)
            stored).prepend (stub.call fd answer registers buf) := by
  have result := stub.call_result fd answer registers buf
  rw [moved] at result
  cases replied :
      answer (stub.request fd registers (stub.chunk registers buf)) with
  | failed errno =>
      rw [replied] at result
      cases result
  | moved others bounded accepted =>
      rw [replied] at result
      cases result
      have short : bytes.length ≤ registers.len.toNat :=
        Nat.le_trans bounded (stub.numbytes_le registers.len)
      obtain ⟨stored, storedEq, sameSize⟩ := stub.accept_of_fits fits short
      refine ⟨stored, storedEq, Registers.advance_fits fits short sameSize,
        fun rest => ?_⟩
      rw [loop, if_neg remaining, stub.offer_of_fits fits]
      simp only [Stub.call, replied, storedEq, List.length_eq_zero_iff]

theorem loop_answer (fd mode : BitVec 32) (answer : Answer)
    (fits : Fits registers buf) (remaining : registers.len ≠ 0) :
    let call := stub.call fd answer registers buf
    let next := registers.advance call.result.bytes.length
    (∃ run : Run, run.ending ≠ .waiting ∧ run.calls = [call] ∧ ∀ rest,
      loop stub fd mode (answer :: rest) registers buf = run) ∨
    ∃ stored, Fits next stored ∧ ∀ rest,
      loop stub fd mode (answer :: rest) registers buf =
        (loop stub fd mode rest next stored).prepend call := by
  intro call next
  cases result : call.result with
  | failed errno =>
      have same : next = registers := by
        change registers.advance call.result.bytes.length = registers
        rw [result]
        exact registers.advance_zero
      have unfolded := loop_failed mode fits remaining result
      by_cases retry : errno = .EINTR ∧ mode &&& bitNoIntr ≠ 0
      · simp only [if_pos retry] at unfolded
        rw [same]
        exact .inr ⟨buf, fits, unfolded⟩
      · simp only [if_neg retry] at unfolded
        refine .inl ⟨_, ?_, ?_, unfolded⟩
        · split_ifs <;> simp
        · split_ifs <;> rfl
  | moved bytes =>
      obtain ⟨stored, -, later, unfolded⟩ :=
        loop_moved mode fits remaining result
      have same : next = registers.advance bytes.length := by
        change registers.advance call.result.bytes.length = _
        rw [result]
        rfl
      by_cases empty : bytes = []
      · simp only [if_pos empty] at unfolded
        exact .inl ⟨_, by simp, rfl, unfolded⟩
      by_cases once : mode &&& bitOnce ≠ 0
      · simp only [if_neg empty, if_pos once] at unfolded
        exact .inl ⟨_, by simp, rfl, unfolded⟩
      · simp only [if_neg empty, if_neg once] at unfolded
        rw [same]
        exact .inr ⟨stored, later, unfolded⟩

end Loops

/-- The step lemma every property of whole runs is derived from. -/
theorem loop_iteration (stub : Stub) (fd mode : BitVec 32) (answer : Answer)
    (rest : List Answer) {registers : Registers} {buf : Buffer}
    (fits : Fits registers buf) (remaining : registers.len ≠ 0) :
    Iteration stub fd mode answer (loop stub fd mode rest) registers buf
      (loop stub fd mode (answer :: rest) registers buf) := by
  rw [loop, if_neg remaining, stub.offer_of_fits fits]
  simp only
  have resultEq : (stub.call fd answer registers buf).result =
      (answer (stub.request fd registers
        (stub.chunk registers buf))).result := rfl
  have callEq : stub.call fd answer registers buf =
      ⟨stub.request fd registers (stub.chunk registers buf), registers.ofs,
        (answer (stub.request fd registers
          (stub.chunk registers buf))).result⟩ := rfl
  rw [← callEq]
  cases replied :
      answer (stub.request fd registers (stub.chunk registers buf)) with
  | failed errno =>
      rw [replied] at resultEq
      simp only
      split_ifs with retry again noError
      · obtain ⟨rfl, noIntr⟩ := retry
        exact .retried resultEq noIntr
      · exact .stopped errno resultEq retry again.1 (.inl again.2)
      · exact .stopped errno resultEq retry noError.1 (.inr noError.2)
      · refine .raised errno resultEq retry ?_
        rintro ⟨progress, blocking | tolerant⟩
        · exact again ⟨progress, blocking⟩
        · exact noError ⟨progress, tolerant⟩
  | moved bytes bounded accepted =>
      rw [replied] at resultEq
      simp only
      have inside := fits.inside
      have short : bytes.length ≤ registers.len.toNat :=
        Nat.le_trans bounded (stub.numbytes_le registers.len)
      obtain ⟨stored, storedEq, data⟩ : ∃ stored,
          stub.accept buf registers.ofs bytes = some stored ∧
            stored.data =
              match stub.direction with
              | .reading => splice buf.data registers.ofs.toNat bytes
              | .writing => buf.data := by
        unfold Stub.accept
        cases stub.direction with
        | reading => exact store_of_le (by omega)
        | writing => exact ⟨buf, rfl, rfl⟩
      by_cases empty : bytes.length = 0
      · rw [if_pos empty]
        rw [List.length_eq_zero_iff] at empty
        subst empty
        exact .exhausted resultEq
      · have moved : Moved stub registers buf bytes stored :=
          ⟨fun nil => empty (by simp [nil]), bounded, accepted, data⟩
        rw [if_neg empty, storedEq]
        simp only
        split_ifs with isOnce
        · exact .once bytes stored resultEq moved isOnce
        · exact .continued bytes stored resultEq moved (not_not.mp isOnce)

theorem loop_calls_forall {stub : Stub} {fd mode : BitVec 32}
    {property : Call → Prop} {answers : List Answer} {registers : Registers}
    {buf : Buffer} (fits : Fits registers buf)
    (holds : ∀ answer ∈ answers, ∀ registers buf, Fits registers buf →
      registers.len ≠ 0 → property (stub.call fd answer registers buf)) :
    ∀ call ∈ (loop stub fd mode answers registers buf).calls,
      property call := by
  induction answers generalizing registers buf with
  | nil =>
      intro call member
      by_cases done : registers.len = 0
      · simp [loop_done stub fd mode [] buf done] at member
      · simp [loop_waiting stub fd mode fits done] at member
  | cons answer rest induction =>
      intro call member
      by_cases done : registers.len = 0
      · simp [loop_done stub fd mode _ buf done] at member
      have head := holds answer (by simp) registers buf fits done
      have tail : ∀ later ∈ rest, ∀ registers buf, Fits registers buf →
          registers.len ≠ 0 → property (stub.call fd later registers buf) :=
        fun later inRest => holds later (by simp [inRest])
      generalize outcome :
        loop stub fd mode (answer :: rest) registers buf = run at member
      have iteration := loop_iteration stub fd mode answer rest fits done
      rw [outcome] at iteration
      cases iteration with
      | retried failed noIntr =>
          rcases List.mem_cons.mp member with rfl | later
          · exact head
          · exact induction fits tail call later
      | stopped errno failed kept progress tolerated =>
          exact List.mem_singleton.mp member ▸ head
      | raised errno failed kept fatal =>
          exact List.mem_singleton.mp member ▸ head
      | exhausted empty => exact List.mem_singleton.mp member ▸ head
      | once bytes stored delivered moved isOnce =>
          exact List.mem_singleton.mp member ▸ head
      | continued bytes stored delivered moved notOnce =>
          rcases List.mem_cons.mp member with rfl | later
          · exact head
          · exact induction (moved.fits fits) tail call later

/-- One run extends another: it makes the same calls first, and is the same run
if the other is finished. -/
def Run.Extends (longer shorter : Run) : Prop :=
  shorter.calls <+: longer.calls ∧
    (shorter.ending ≠ .waiting → longer = shorter)

theorem Run.Extends.refl (run : Run) : run.Extends run :=
  ⟨List.prefix_rfl, fun _ => rfl⟩

theorem Run.Extends.prepend {longer shorter : Run} (call : Call)
    (extends_ : longer.Extends shorter) :
    (longer.prepend call).Extends (shorter.prepend call) := by
  refine ⟨List.cons_prefix_cons.mpr ⟨rfl, extends_.1⟩, fun finished => ?_⟩
  rw [extends_.2 finished]

theorem loop_append_extends (stub : Stub) (fd mode : BitVec 32)
    (answers later : List Answer) (registers : Registers) (buf : Buffer) :
    (loop stub fd mode (answers ++ later) registers buf).Extends
      (loop stub fd mode answers registers buf) := by
  induction answers generalizing registers buf with
  | nil =>
      by_cases done : registers.len = 0
      · rw [loop_done stub fd mode _ buf done, loop_done stub fd mode _ buf done]
        exact .refl _
      rw [List.nil_append, loop, loop, if_neg done, if_neg done]
      cases stub.offer buf registers.ofs (stub.numbytes registers.len) with
      | none => exact .refl _
      | some offered => exact ⟨List.nil_prefix, fun finished => absurd rfl finished⟩
  | cons answer rest induction =>
      by_cases done : registers.len = 0
      · rw [loop_done stub fd mode _ buf done, loop_done stub fd mode _ buf done]
        exact .refl _
      rw [List.cons_append, loop, loop, if_neg done, if_neg done]
      cases stub.offer buf registers.ofs (stub.numbytes registers.len) with
      | none => exact .refl _
      | some offered =>
          simp only
          cases answer (stub.request fd registers offered) with
          | failed errno =>
              simp only
              split_ifs
              · exact (induction registers buf).prepend _
              all_goals exact .refl _
          | moved bytes bounded accepted =>
              simp only
              cases stub.accept buf registers.ofs bytes with
              | none => split_ifs <;> exact .refl _
              | some stored =>
                  simp only
                  split_ifs
                  · exact .refl _
                  · exact .refl _
                  · exact (induction _ stored).prepend _

/-- Each call of a run is given the answer that is next.  A run that has ended
leaves the others unread, and one that waits has had them all. -/
structure Consumes (runs : List Answer → Run) (answers : List Answer) :
    Prop where
  inTurn : ∀ (index : Nat) call, (runs answers).calls[index]? = some call →
    ∃ answer, answers[index]? = some answer ∧
      call.result = (answer call.request).result
  unread : (runs answers).ending ≠ .waiting → ∀ others,
    runs (answers.take (runs answers).calls.length ++ others) = runs answers
  exhausted : (runs answers).ending = .waiting →
    (runs answers).calls.length = answers.length

namespace Consumes

variable {runs next : List Answer → Run} {run : Run} {answer : Answer}
  {call : Call}

theorem uncalled (same : ∀ answers, runs answers = run)
    (ended : run.ending ≠ .waiting) (calls : run.calls = [])
    (answers : List Answer) : Consumes runs answers where
  inTurn index call found := by
    rw [same, calls] at found
    cases found
  unread _ others := by rw [same, same]
  exhausted waiting := absurd (same answers ▸ waiting) ended

theorem last (same : ∀ rest, runs (answer :: rest) = run)
    (ended : run.ending ≠ .waiting) (calls : run.calls = [call])
    (result : call.result = (answer call.request).result)
    (rest : List Answer) : Consumes runs (answer :: rest) where
  inTurn index found isCall := by
    rw [same, calls] at isCall
    cases index with
    | zero =>
        cases isCall
        exact ⟨answer, rfl, result⟩
    | succ index => cases isCall
  unread _ others := by
    rw [same, calls]
    exact same _
  exhausted waiting := absurd (same rest ▸ waiting) ended

theorem prepend {rest : List Answer}
    (same : ∀ rest, runs (answer :: rest) = (next rest).prepend call)
    (result : call.result = (answer call.request).result)
    (consumes : Consumes next rest) : Consumes runs (answer :: rest) where
  inTurn index found isCall := by
    rw [same, Run.prepend_calls] at isCall
    cases index with
    | zero =>
        cases isCall
        exact ⟨answer, rfl, result⟩
    | succ index => exact consumes.inTurn index found isCall
  unread ended others := by
    rw [same, Run.prepend_ending] at ended
    rw [same, Run.prepend_calls, List.length_cons, List.take_succ_cons,
      List.cons_append, same, consumes.unread ended others]
  exhausted waiting := by
    rw [same, Run.prepend_ending] at waiting
    rw [same, Run.prepend_calls, List.length_cons, List.length_cons,
      consumes.exhausted waiting]

end Consumes

theorem loop_consumes (stub : Stub) (fd mode : BitVec 32)
    (answers : List Answer) {registers : Registers} {buf : Buffer}
    (fits : Fits registers buf) :
    Consumes (fun answers => loop stub fd mode answers registers buf)
      answers := by
  induction answers generalizing registers buf with
  | nil =>
      by_cases done : registers.len = 0
      · exact .uncalled (fun answers => loop_done stub fd mode answers buf done)
          (by simp) rfl []
      · have waits := loop_waiting stub fd mode fits done
        refine ⟨fun index call found => ?_, fun ended => ?_, fun _ => ?_⟩
        · rw [waits] at found
          cases found
        · exact absurd (congrArg Run.ending waits) ended
        · rw [waits]
          rfl
  | cons answer rest induction =>
      by_cases done : registers.len = 0
      · exact .uncalled (fun answers => loop_done stub fd mode answers buf done)
          (by simp) rfl _
      rcases loop_answer fd mode answer fits done with
        ⟨run, ended, calls, same⟩ | ⟨stored, later, same⟩
      · exact .last same ended calls rfl rest
      · exact .prepend same rfl (induction later)

end ExtUnix.Transfer
