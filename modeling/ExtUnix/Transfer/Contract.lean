import ExtUnix.Transfer.Accepted

namespace ExtUnix.Transfer

open ExtUnix.Data
open ExtUnix.Runtime

/-! The documented meaning of the four kinds of operation, and the proof that
every transfer loop has it. -/

def transferred (calls : List Call) : List UInt8 :=
  calls.flatMap fun call => call.result.bytes

@[simp] theorem transferred_nil : transferred [] = [] := rfl

@[simp] theorem transferred_cons (call : Call) (calls : List Call) :
    transferred (call :: calls) = call.result.bytes ++ transferred calls := by
  simp [transferred]

@[simp] theorem transferred_append (first second : List Call) :
    transferred (first ++ second) = transferred first ++ transferred second := by
  simp [transferred]

def Kind.retries : Kind → Bool
  | .all | .plain => true
  | .single | .intr => false

/-- A result after which the documentation has the operation go on. -/
def Kind.GoesOn (kind : Kind) : Result → Prop
  | .moved bytes => kind ≠ .single ∧ bytes ≠ []
  | .failed errno => kind.retries ∧ errno = .EINTR

def Ending.Returns (ending : Ending) (total : Nat) : Prop :=
  ∃ count, ending = .returned count ∧ count.toInt = total

/-- How the documentation has an operation for `len` bytes end on a result that
comes after `total` bytes were transferred. -/
def Kind.Concludes (kind : Kind) (name : String) (len total : Nat)
    (result : Result) (ending : Ending) : Prop :=
  match result with
  | .moved bytes =>
      (bytes = [] ∨ total + bytes.length = len ∨ kind = .single) ∧
        ending.Returns (total + bytes.length)
  | .failed errno =>
      ¬(kind.retries ∧ errno = .EINTR) ∧
        match kind with
        | .single => ending = .unixError errno name
        | .all =>
            if 0 < total ∧ (errno = .EAGAIN ∨ errno = .EWOULDBLOCK) then
              ending.Returns total
            else ending = .unixError errno name
        | .plain | .intr =>
            if 0 < total then ending.Returns total
            else ending = .unixError errno name

/-- A finished call: some calls after which the operation went on, and the one
that concluded it. -/
def Documented (kind : Kind) (name : String) (len : Nat) (run : Run) : Prop :=
  ∃ prior last, run.calls = prior ++ [last] ∧
    (∀ call ∈ prior, kind.GoesOn call.result) ∧
    (transferred prior).length < len ∧
    kind.Concludes name len (transferred prior).length last.result run.ending

/-- A run that still waits for the kernel after `answered` answers. -/
structure Pending (kind : Kind) (len answered : Nat) (run : Run) : Prop where
  waiting : run.ending = .waiting
  answered : run.calls.length = answered
  goesOn : ∀ call ∈ run.calls, kind.GoesOn call.result
  short : (transferred run.calls).length < len

/-- The loop invariant: `Documented` and `Pending`, when `done` bytes were
transferred before the first of the run's calls. -/
def Follows (kind : Kind) (name : String) (done remaining answered : Nat)
    (run : Run) : Prop :=
  Pending kind remaining answered run ∨
    ∃ prior last, run.calls = prior ++ [last] ∧
      (∀ call ∈ prior, kind.GoesOn call.result) ∧
      (transferred prior).length < remaining ∧
      kind.Concludes name (done + remaining)
        (done + (transferred prior).length) last.result run.ending

theorem Follows.concluded {kind : Kind} {name : String}
    {done remaining answered : Nat} {ending : Ending} {buf : Buffer}
    {call : Call} (positive : 0 < remaining)
    (concludes : kind.Concludes name (done + remaining) done call.result
      ending) :
    Follows kind name done remaining answered ⟨ending, buf, [call]⟩ :=
  .inr ⟨[], call, rfl, by simp, by simpa using positive, by simpa using concludes⟩

theorem Follows.prepend {kind : Kind} {name : String}
    {done remaining answered : Nat} {run : Run} {call : Call}
    (short : call.result.bytes.length < remaining)
    (goesOn : kind.GoesOn call.result)
    (follows : Follows kind name (done + call.result.bytes.length)
      (remaining - call.result.bytes.length) answered run) :
    Follows kind name done remaining (answered + 1) (run.prepend call) := by
  rcases follows with pending | ⟨prior, last, calls, allGoOn, below, concludes⟩
  · left
    refine ⟨pending.waiting, ?_, ?_, ?_⟩
    · simp [pending.answered]
    · simpa using ⟨goesOn, pending.goesOn⟩
    · have := pending.short
      simp only [Run.prepend_calls, transferred_cons, List.length_append]
      omega
  · right
    refine ⟨call :: prior, last, by simp [calls], by simpa using ⟨goesOn, allGoOn⟩,
      ?_, ?_⟩
    · simp only [transferred_cons, List.length_append]
      omega
    · simp only [transferred_cons, List.length_append, Run.prepend_ending,
        ← Nat.add_assoc]
      rwa [show done + call.result.bytes.length +
        (remaining - call.result.bytes.length) = done + remaining by omega]
        at concludes

theorem Kind.noIntr_iff (kind : Kind) :
    kind.mode &&& bitNoIntr ≠ 0 ↔ kind.retries = true := by
  cases kind <;> decide

theorem Kind.noError_iff (kind : Kind) :
    kind.mode &&& bitNoError ≠ 0 ↔ kind = .plain ∨ kind = .intr := by
  cases kind <;> decide

theorem Kind.once_iff (kind : Kind) :
    kind.mode &&& bitOnce ≠ 0 ↔ kind = .single := by
  cases kind <;> decide

theorem returns_valLong {word : BitVec 64} {total : Nat}
    (equal : word.toNat = total) (bound : total < 2 ^ 62) :
    (Ending.returned (valLong word)).Returns total := by
  refine ⟨_, rfl, ?_⟩
  rw [valLong_eq_ofNat, equal, toInt_ofNat_of_lt bound]

theorem Kind.concludes_stopped {kind : Kind} {name : String} {len total : Nat}
    {errno : Errno} {ending : Ending} (progress : 0 < total)
    (kept : ¬(kind.retries ∧ errno = .EINTR)) (several : kind ≠ .single)
    (tolerated : (errno = .EAGAIN ∨ errno = .EWOULDBLOCK) ∨
      (kind = .plain ∨ kind = .intr))
    (returns : ending.Returns total) :
    kind.Concludes name len total (.failed errno) ending := by
  refine ⟨kept, ?_⟩
  cases kind with
  | single => exact absurd rfl several
  | all =>
      rw [if_pos ⟨progress, by simpa using tolerated⟩]
      exact returns
  | plain | intr =>
      rw [if_pos progress]
      exact returns

theorem Kind.concludes_raised {kind : Kind} {name : String} {len total : Nat}
    {errno : Errno} (kept : ¬(kind.retries ∧ errno = .EINTR))
    (fatal : ¬(0 < total ∧ ((errno = .EAGAIN ∨ errno = .EWOULDBLOCK) ∨
      (kind = .plain ∨ kind = .intr)))) :
    kind.Concludes name len total (.failed errno) (.unixError errno name) := by
  refine ⟨kept, ?_⟩
  cases kind with
  | single => rfl
  | all => rw [if_neg (by simpa using fatal)]
  | plain | intr =>
      simp only
      rw [if_neg fun progress => fatal ⟨progress, .inr (by decide)⟩]
      trivial

theorem processed_pos_iff {registers : Registers} :
    0 < registers.processed ↔ 0 < registers.processed.toNat := by
  rw [BitVec.lt_def]
  rfl

theorem loop_follows (stub : Stub) (fd : BitVec 32) (kind : Kind)
    (answers : List Answer) {registers : Registers} {buf : Buffer}
    (fits : Fits registers buf) (remaining : registers.len ≠ 0)
    (fresh : kind = .single → registers.processed = 0) :
    Follows kind stub.name registers.processed.toNat registers.len.toNat
      answers.length (loop stub fd kind.mode answers registers buf) := by
  induction answers generalizing registers buf with
  | nil =>
      rw [loop_waiting stub fd kind.mode fits remaining]
      left
      refine ⟨rfl, rfl, by simp, ?_⟩
      have nonzero : registers.len.toNat ≠ 0 := fun zero =>
        remaining (BitVec.eq_of_toNat_eq zero)
      simpa using Nat.pos_of_ne_zero nonzero
  | cons answer rest induction =>
      have positive : 0 < registers.len.toNat :=
        Nat.pos_of_ne_zero fun zero => remaining (BitVec.eq_of_toNat_eq zero)
      have counted := fits.counted
      generalize outcome :
        loop stub fd kind.mode (answer :: rest) registers buf = run
      have iteration :=
        loop_iteration stub fd kind.mode answer rest fits remaining
      rw [outcome] at iteration
      cases iteration with
      | retried failed noIntr =>
          apply Follows.prepend
          · rw [failed]
            exact positive
          · rw [failed]
            exact ⟨kind.noIntr_iff.mp noIntr, rfl⟩
          · rw [failed]
            exact induction fits remaining fresh
      | stopped errno failed kept progress tolerated =>
          apply Follows.concluded positive
          rw [failed]
          rw [kind.noIntr_iff, and_comm] at kept
          rw [kind.noError_iff] at tolerated
          rw [processed_pos_iff] at progress
          apply Kind.concludes_stopped progress kept ?_ tolerated
            (returns_valLong rfl (by omega))
          intro single
          rw [fresh single] at progress
          exact absurd progress (by decide)
      | raised errno failed kept fatal =>
          apply Follows.concluded positive
          rw [failed]
          rw [kind.noIntr_iff, and_comm] at kept
          rw [kind.noError_iff, processed_pos_iff] at fatal
          exact Kind.concludes_raised kept fatal
      | exhausted empty =>
          apply Follows.concluded positive
          rw [empty]
          exact ⟨.inl rfl, returns_valLong rfl (by simp; omega)⟩
      | once bytes stored delivered moved isOnce =>
          apply Follows.concluded positive
          rw [delivered]
          have bounded := moved.length_le
          refine ⟨.inr (.inr (kind.once_iff.mp isOnce)), ?_⟩
          exact returns_valLong
            (Registers.toNat_advance_processed fits bounded) (by omega)
      | continued bytes stored delivered moved notOnce =>
          have bounded := moved.length_le
          have several : kind ≠ .single := fun single =>
            (kind.once_iff.mpr single) notOnce
          have processed := Registers.toNat_advance_processed fits bounded
          have advancedLen : (registers.advance bytes.length).len.toNat =
              registers.len.toNat - bytes.length :=
            Registers.toNat_advance_len bounded
          by_cases complete : bytes.length = registers.len.toNat
          · have done : (registers.advance bytes.length).len = 0 :=
              BitVec.eq_of_toNat_eq (by rw [advancedLen]; simp; omega)
            rw [loop_done stub fd kind.mode rest stored done]
            apply Follows.concluded positive
            rw [delivered]
            exact ⟨.inr (.inl (by omega)), returns_valLong processed (by omega)⟩
          · have more : (registers.advance bytes.length).len ≠ 0 := by
              intro zero
              rw [zero] at advancedLen
              simp at advancedLen
              omega
            have followed := induction (moved.fits fits) more
              (fun single => absurd single several)
            rw [processed, advancedLen] at followed
            apply Follows.prepend
            · rw [delivered]
              exact Nat.lt_of_le_of_ne bounded complete
            · rw [delivered]
              exact ⟨several, moved.nonempty⟩
            · rw [delivered]
              exact followed

theorem transfer_follows (unixBufferSize : Nat) (kind : Kind)
    {operation : Operation} (fd : CamlInt) {target : Target}
    (answers : List Answer) (accepted : target.Accepts operation)
    (requested : 0 < target.size) :
    Follows kind operation.name 0 target.size answers.length
      (transfer unixBufferSize kind operation fd target answers) := by
  have remaining : (target.registers operation).len ≠ 0 := by
    intro zero
    have size := Target.toNat_registers_len accepted
    rw [zero] at size
    simp at size
    omega
  have followed := loop_follows
    (operation.stub (target.iobuf unixBufferSize)) (intVal fd) kind answers
    (Target.registers_fits accepted) remaining (fun _ => by simp)
  rw [Target.toNat_registers_len accepted, Target.registers_processed]
    at followed
  rw [transfer_accepted unixBufferSize kind fd answers accepted]
  exact followed

theorem Follows.documented {kind : Kind} {name : String} {len answered : Nat}
    {run : Run} (follows : Follows kind name 0 len answered run)
    (finished : run.ending ≠ .waiting) : Documented kind name len run := by
  rcases follows with pending | ⟨prior, last, calls, goesOn, short, concludes⟩
  · exact absurd pending.waiting finished
  · exact ⟨prior, last, calls, goesOn, short, by simpa using concludes⟩

theorem Ending.Returns.unique {ending : Ending} {first second : Nat}
    (left : ending.Returns first) (right : ending.Returns second) :
    first = second := by
  obtain ⟨count, rfl, firstCount⟩ := left
  obtain ⟨_, equal, secondCount⟩ := right
  cases equal
  omega

theorem Kind.Concludes.failed_cases {kind : Kind} {name : String}
    {len total : Nat} {errno : Errno} {ending : Ending}
    (concludes : kind.Concludes name len total (.failed errno) ending) :
    ending = .unixError errno name ∨ (0 < total ∧ ending.Returns total) := by
  obtain ⟨-, ends⟩ := concludes
  cases kind with
  | single => exact .inl ends
  | all =>
      simp only at ends
      split_ifs at ends with tolerated
      · exact .inr ⟨tolerated.1, ends⟩
      · exact .inl ends
  | plain | intr =>
      simp only at ends
      split_ifs at ends with progress
      · exact .inr ⟨progress, ends⟩
      · exact .inl ends

theorem Documented.single_call {name : String} {len : Nat} {run : Run}
    (documented : Documented .single name len run) :
    run.calls.length = 1 := by
  obtain ⟨prior, last, calls, goesOn, -, -⟩ := documented
  cases prior with
  | nil => simp [calls]
  | cons call rest =>
      have impossible := goesOn call (by simp)
      cases result : call.result <;>
        simp [Kind.GoesOn, Kind.retries, result] at impossible

theorem Documented.returns_zero {kind : Kind} {name : String} {len : Nat}
    {run : Run} (documented : Documented kind name len run)
    (zero : run.ending.Returns 0) :
    ∃ last, run.calls.getLast? = some last ∧ last.result = .moved [] := by
  obtain ⟨prior, last, calls, -, -, concludes⟩ := documented
  refine ⟨last, by simp [calls], ?_⟩
  cases result : last.result with
  | moved bytes =>
      rw [result] at concludes
      have total := zero.unique concludes.2
      have empty : bytes = [] := List.eq_nil_of_length_eq_zero (by omega)
      rw [empty]
  | failed errno =>
      rw [result] at concludes
      rcases concludes.failed_cases with raised | ⟨progress, returns⟩
      · obtain ⟨_, returned, _⟩ := zero
        rw [raised] at returned
        cases returned
      · have := zero.unique returns
        omega

def interrupts (calls : List Call) : Nat :=
  calls.countP fun call => call.result = .failed .EINTR

theorem length_le_interrupts_add {kind : Kind} {calls : List Call}
    (goesOn : ∀ call ∈ calls, kind.GoesOn call.result) :
    calls.length ≤ interrupts calls + (transferred calls).length := by
  induction calls with
  | nil => simp
  | cons call rest induction =>
      have tail := induction fun later member => goesOn later (by simp [member])
      have head := goesOn call (by simp)
      simp only [interrupts, List.length_cons, List.countP_cons,
        transferred_cons, List.length_append] at tail ⊢
      cases result : call.result with
      | moved bytes =>
          rw [result] at head
          have : 0 < bytes.length := List.length_pos_iff.mpr head.2
          simp only [Result.bytes]
          omega
      | failed errno =>
          rw [result] at head
          have : errno = .EINTR := head.2
          simp [this, Result.bytes]
          omega

def firstAnswers (kernel : Nat → Answer) (count : Nat) : List Answer :=
  (List.range count).map kernel

/-- The kernel interrupts the call only finitely often.  `runs count` is the
call after `count` answers. -/
def FinitelyInterrupted (runs : Nat → Run) : Prop :=
  ∃ bound, ∀ count, interrupts (runs count).calls ≤ bound

def Finishes (runs : Nat → Run) : Prop :=
  ∃ count, (runs count).ending ≠ .waiting

/-- Total correctness: the call finishes, and only with the given result. -/
def Completes (runs : Nat → Run) (post : Run → Prop) : Prop :=
  Finishes runs ∧ ∀ count, (runs count).ending ≠ .waiting → post (runs count)

/-- A kernel whose interruptions of a transfer are bounded answers it in the
end: every other call moves at least one byte or concludes it. -/
theorem transfer_finishes (unixBufferSize : Nat) (kind : Kind)
    {operation : Operation} (fd : CamlInt) {target : Target}
    (accepted : target.Accepts operation) (requested : 0 < target.size)
    (kernel : Nat → Answer)
    (finite : FinitelyInterrupted fun count =>
      transfer unixBufferSize kind operation fd target
        (firstAnswers kernel count)) :
    Finishes fun count => transfer unixBufferSize kind operation fd target
      (firstAnswers kernel count) := by
  obtain ⟨bound, finite⟩ := finite
  refine ⟨bound + target.size, fun waiting => ?_⟩
  have interrupted := finite (bound + target.size)
  rcases transfer_follows unixBufferSize kind fd
      (firstAnswers kernel (bound + target.size)) accepted requested with
    pending | ⟨prior, last, calls, goesOn, short, concludes⟩
  · have counted := length_le_interrupts_add pending.goesOn
    have answered := pending.answered
    have short := pending.short
    simp only [firstAnswers, List.length_map, List.length_range] at answered
    simp only [firstAnswers] at counted interrupted short answered
    omega
  · rw [waiting] at concludes
    cases result : last.result with
    | moved bytes =>
        rw [result] at concludes
        obtain ⟨_, ⟨_, impossible, _⟩⟩ := concludes
        cases impossible
    | failed errno =>
        rw [result] at concludes
        rcases concludes.failed_cases with impossible | ⟨_, _, impossible, _⟩
        · cases impossible
        · cases impossible

/-- Every transfer function, string or bigarray, does what its documentation
says: the answers of the kernel are taken in turn, a finished call is concluded
as its kind prescribes, `single` makes one system call, `0` is only returned on a
count of `0`, and the call finishes whenever the kernel interrupts it finitely
often. -/
theorem transfer_contract (unixBufferSize : Nat) (kind : Kind)
    (operation : Operation) (fd : CamlInt) (target : Target)
    (accepted : target.Accepts operation) (requested : 0 < target.size) :
    (∀ answers,
      let run := transfer unixBufferSize kind operation fd target answers
      Consumes (transfer unixBufferSize kind operation fd target) answers ∧
      (run.ending ≠ .waiting →
        Documented kind operation.name target.size run ∧
        (kind = .single → run.calls.length = 1) ∧
        (run.ending.Returns 0 →
          ∃ last, run.calls.getLast? = some last ∧
            last.result = .moved []))) ∧
    (∀ kernel : Nat → Answer,
      let runs := fun count => transfer unixBufferSize kind operation fd
        target (firstAnswers kernel count)
      FinitelyInterrupted runs → Finishes runs) := by
  constructor
  · intro answers run
    refine ⟨transfer_consumes unixBufferSize kind fd answers accepted,
      fun finished => ?_⟩
    have documented := (transfer_follows unixBufferSize kind fd answers
      accepted requested).documented finished
    refine ⟨documented, ?_, documented.returns_zero⟩
    rintro rfl
    exact documented.single_call
  · intro kernel runs finite
    exact transfer_finishes unixBufferSize kind fd accepted requested kernel
      finite

/-- A bigarray of three bytes, an interruption, two bytes and the end of the
file. -/
theorem transfer_contract_allRead :
    let target := Target.bigarray ⟨[0, 0, 0], by decide⟩
    let answers := [Answer.interrupt, .deliver [7, 8], .deliver []]
    let run := transfer 65536 .all .read 0 target answers
    run.ending = .returned 2 ∧
      Consumes (transfer 65536 .all .read 0 target) answers ∧
      Documented .all "read" 3 run := by
  intro target answers run
  have accepted : target.Accepts .read := by
    intro off member
    cases member
  obtain ⟨contract, -⟩ :=
    transfer_contract 65536 .all .read 0 target accepted (by decide)
  obtain ⟨consumes, documented⟩ := contract answers
  exact ⟨by decide, consumes, (documented (by decide)).1⟩

end ExtUnix.Transfer
