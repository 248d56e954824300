import ExtUnix.Transfer.Iteration

namespace ExtUnix.Transfer

open ExtUnix.Data
open ExtUnix.Runtime

/-! Which arguments the checked functions accept, and the loop an accepted call
runs. -/

theorem outOfRange_iff (buf : Buffer) (ofs len : CamlInt) :
    outOfRange buf ofs len = true ↔
      ofs.toInt < 0 ∨ len.toInt < 0 ∨
        (buf.data.length : Int) < ofs.toInt + len.toInt := by
  simp only [outOfRange, Bool.or_eq_true, slt_zero_iff, or_assoc]
  apply or_congr_right
  by_cases negative : len.toInt < 0
  · simp [negative]
  · rw [BitVec.slt_iff_toInt_lt, buf.toInt_length_sub (by omega)]
    omega

/-- The arguments of a string operation that raise `Invalid_argument`, as
mathematical integers. -/
def Rejected (operation : Operation) (buf : Buffer) (ofs len : CamlInt) :
    Prop :=
  (∃ off ∈ operation.off?, off.toInt < 0) ∨
    ofs.toInt < 0 ∨ len.toInt < 0 ∨
      (buf.data.length : Int) < ofs.toInt + len.toInt

/-- The loop an operation runs, with the bounce buffer of its variant. -/
def Operation.stub (operation : Operation) (iobuf : Option Nat) : Stub where
  direction := operation.direction
  iobuf := iobuf
  positional := operation.off?.isSome
  name := operation.name

def Operation.offset : Operation → BitVec 64
  | .read | .write => 0
  | .pread off | .pwrite off => longVal off

theorem stringCall_eq (unixBufferSize : Nat) (kind : Kind)
    (operation : Operation) (fd : CamlInt) (buf : Buffer) (ofs len : CamlInt)
    (answers : List Answer) :
    ∃ message,
      stringCall unixBufferSize kind operation fd buf ofs len answers =
        if operation.off?.any (·.slt 0) || outOfRange buf ofs len then
          invalidArg message buf
        else
          loop (operation.stub (some unixBufferSize)) (intVal fd) kind.mode
            answers ⟨operation.offset, longVal ofs, longVal len, 0⟩ buf := by
  cases operation <;> cases kind <;> exact ⟨_, rfl⟩

theorem rejected_iff (operation : Operation) (buf : Buffer)
    (ofs len : CamlInt) :
    (operation.off?.any (·.slt 0) || outOfRange buf ofs len) = true ↔
      Rejected operation buf ofs len := by
  rw [Bool.or_eq_true, outOfRange_iff, Option.any_eq_true]
  simp only [slt_zero_iff]
  rfl

theorem stringCall_rejected (unixBufferSize : Nat) (kind : Kind)
    {operation : Operation} (fd : CamlInt) {buf : Buffer} {ofs len : CamlInt}
    (answers : List Answer) (rejected : Rejected operation buf ofs len) :
    ∃ message,
      stringCall unixBufferSize kind operation fd buf ofs len answers =
        invalidArg message buf := by
  obtain ⟨message, equal⟩ :=
    stringCall_eq unixBufferSize kind operation fd buf ofs len answers
  rw [if_pos ((rejected_iff operation buf ofs len).mpr rejected)] at equal
  exact ⟨message, equal⟩

theorem stringCall_accepted (unixBufferSize : Nat) (kind : Kind)
    {operation : Operation} (fd : CamlInt) {buf : Buffer} {ofs len : CamlInt}
    (answers : List Answer) (accepted : ¬Rejected operation buf ofs len) :
    stringCall unixBufferSize kind operation fd buf ofs len answers =
      loop (operation.stub (some unixBufferSize)) (intVal fd) kind.mode
        answers ⟨operation.offset, longVal ofs, longVal len, 0⟩ buf := by
  obtain ⟨message, equal⟩ :=
    stringCall_eq unixBufferSize kind operation fd buf ofs len answers
  rw [if_neg (mt (rejected_iff operation buf ofs len).mp accepted)] at equal
  exact equal

theorem toNat_offset_lt {operation : Operation}
    (nonneg : ∀ off ∈ operation.off?, 0 ≤ off.toInt) :
    operation.offset.toNat < 2 ^ 62 := by
  cases operation with
  | read => decide
  | write => decide
  | pread off | pwrite off =>
      have word := toNat_longVal (nonneg off rfl)
      have bound := toInt_lt off
      simp only [Operation.offset]
      omega

theorem accepted_fits {operation : Operation} {buf : Buffer}
    {ofs len : CamlInt} (accepted : ¬Rejected operation buf ofs len) :
    Fits ⟨operation.offset, longVal ofs, longVal len, 0⟩ buf := by
  simp only [Rejected, not_or, not_exists, not_and, Int.not_lt] at accepted
  obtain ⟨offNonneg, ofsNonneg, lenNonneg, inside⟩ := accepted
  have ofsWord := toNat_longVal ofsNonneg
  have lenWord := toNat_longVal lenNonneg
  have offBound := toNat_offset_lt offNonneg
  have sizeBound := buf.size_lt
  constructor <;> simp only [show (0 : BitVec 64).toNat = 0 from rfl] <;> omega

theorem bigarrayCall_eq (kind : Kind) (operation : Operation) (fd : CamlInt)
    (buf : Buffer) (answers : List Answer) :
    ∃ message,
      bigarrayCall kind operation fd buf answers =
        if operation.off?.any (·.slt 0) then invalidArg message buf
        else
          loop (operation.stub none) (intVal fd) kind.mode answers
            ⟨operation.offset, 0, BitVec.ofNat 64 buf.data.length, 0⟩ buf := by
  cases operation <;> cases kind <;>
    first
      | exact ⟨_, rfl⟩
      | exact ⟨"", rfl⟩

theorem bigarrayCall_accepted (kind : Kind) {operation : Operation}
    (fd : CamlInt) (buf : Buffer) (answers : List Answer)
    (nonneg : ∀ off ∈ operation.off?, 0 ≤ off.toInt) :
    bigarrayCall kind operation fd buf answers =
      loop (operation.stub none) (intVal fd) kind.mode answers
        ⟨operation.offset, 0, BitVec.ofNat 64 buf.data.length, 0⟩ buf := by
  obtain ⟨message, equal⟩ := bigarrayCall_eq kind operation fd buf answers
  rw [if_neg ?_] at equal
  · exact equal
  · rw [Option.any_eq_true]
    rintro ⟨off, member, negative⟩
    have := nonneg off member
    rw [slt_zero_iff] at negative
    omega

theorem toNat_ofNat_size (buf : Buffer) :
    (BitVec.ofNat 64 buf.data.length).toNat = buf.data.length := by
  have := buf.size_lt
  rw [BitVec.toNat_ofNat]
  omega

theorem bigarray_fits {operation : Operation} (buf : Buffer)
    (nonneg : ∀ off ∈ operation.off?, 0 ≤ off.toInt) :
    Fits ⟨operation.offset, 0, BitVec.ofNat 64 buf.data.length, 0⟩ buf := by
  have offBound := toNat_offset_lt nonneg
  have sizeBound := buf.size_lt
  constructor <;>
    simp only [toNat_ofNat_size, show (0 : BitVec 64).toNat = 0 from rfl] <;>
    omega

namespace Target

def buf : Target → Buffer
  | .string buf _ _ => buf
  | .bigarray buf => buf

def size : Target → Nat
  | .string _ _ len => len.toInt.toNat
  | .bigarray buf => buf.data.length

def start : Target → Nat
  | .string _ ofs _ => ofs.toInt.toNat
  | .bigarray _ => 0

def Accepts (target : Target) (operation : Operation) : Prop :=
  match target with
  | .string buf ofs len => ¬Rejected operation buf ofs len
  | .bigarray _ => ∀ off ∈ operation.off?, 0 ≤ off.toInt

def iobuf (unixBufferSize : Nat) : Target → Option Nat
  | .string _ _ _ => some unixBufferSize
  | .bigarray _ => none

def registers (target : Target) (operation : Operation) : Registers :=
  match target with
  | .string _ ofs len => ⟨operation.offset, longVal ofs, longVal len, 0⟩
  | .bigarray buf =>
      ⟨operation.offset, 0, BitVec.ofNat 64 buf.data.length, 0⟩

variable {target : Target} {operation : Operation}

theorem registers_fits (accepted : target.Accepts operation) :
    Fits (target.registers operation) target.buf := by
  cases target with
  | string buf ofs len => exact accepted_fits accepted
  | bigarray buf => exact bigarray_fits buf accepted

theorem toNat_registers_len (accepted : target.Accepts operation) :
    (target.registers operation).len.toNat = target.size := by
  cases target with
  | string buf ofs len =>
      simp only [Accepts, Rejected, not_or, Int.not_lt] at accepted
      have word := toNat_longVal accepted.2.2.1
      simp only [registers, size]
      omega
  | bigarray buf => exact toNat_ofNat_size buf

theorem toNat_registers_ofs (accepted : target.Accepts operation) :
    (target.registers operation).ofs.toNat = target.start := by
  cases target with
  | string buf ofs len =>
      simp only [Accepts, Rejected, not_or, Int.not_lt] at accepted
      have word := toNat_longVal accepted.2.1
      simp only [registers, start]
      omega
  | bigarray buf => rfl

@[simp] theorem registers_processed :
    (target.registers operation).processed = 0 := by
  cases target <;> rfl

@[simp] theorem registers_off :
    (target.registers operation).off = operation.offset := by
  cases target <;> rfl

end Target

theorem transfer_accepted (unixBufferSize : Nat) (kind : Kind)
    {operation : Operation} (fd : CamlInt) {target : Target}
    (answers : List Answer) (accepted : target.Accepts operation) :
    transfer unixBufferSize kind operation fd target answers =
      loop (operation.stub (target.iobuf unixBufferSize)) (intVal fd) kind.mode
        answers (target.registers operation) target.buf := by
  cases target with
  | string buf ofs len =>
      exact stringCall_accepted unixBufferSize kind fd answers accepted
  | bigarray buf => exact bigarrayCall_accepted kind fd buf answers accepted

theorem stringCall_consumes (unixBufferSize : Nat) (kind : Kind)
    {operation : Operation} (fd : CamlInt) {buf : Buffer} {ofs len : CamlInt}
    (answers : List Answer) (accepted : ¬Rejected operation buf ofs len) :
    Consumes (stringCall unixBufferSize kind operation fd buf ofs len)
      answers := by
  have same : stringCall unixBufferSize kind operation fd buf ofs len = _ :=
    funext fun answers =>
      stringCall_accepted unixBufferSize kind fd answers accepted
  rw [same]
  exact loop_consumes _ _ _ answers (accepted_fits accepted)

theorem transfer_consumes (unixBufferSize : Nat) (kind : Kind)
    {operation : Operation} (fd : CamlInt) {target : Target}
    (answers : List Answer) (accepted : target.Accepts operation) :
    Consumes (transfer unixBufferSize kind operation fd target) answers := by
  have same : transfer unixBufferSize kind operation fd target = _ :=
    funext fun answers =>
      transfer_accepted unixBufferSize kind fd answers accepted
  rw [same]
  exact loop_consumes _ _ _ answers (Target.registers_fits accepted)

structure Requested (direction : Direction) (request : Request) : Prop where
  asked : 0 < request.asked
  reading : direction = .reading → request.offered = none
  writing : direction = .writing →
    ∃ chunk, request.offered = some chunk ∧ chunk ≠ []

theorem call_requested {unixBufferSize : Nat} (roomy : 0 < unixBufferSize)
    (kind : Kind) {operation : Operation} (fd : CamlInt) {target : Target}
    (answers : List Answer) (accepted : target.Accepts operation) :
    ∀ call ∈ (transfer unixBufferSize kind operation fd target answers).calls,
      Requested operation.direction call.request := by
  rw [transfer_accepted unixBufferSize kind fd answers accepted]
  refine loop_calls_forall (Target.registers_fits accepted) ?_
  intro answer member registers buf fits remaining
  have positive : ∀ size ∈ target.iobuf unixBufferSize, 0 < size := by
    cases target <;> simp [Target.iobuf, roomy]
  let stub := operation.stub (target.iobuf unixBufferSize)
  have asked : 0 < stub.numbytes registers.len :=
    Stub.numbytes_pos positive remaining
  refine ⟨asked, fun reads => ?_, fun writes => ?_⟩
  · change (operation.stub (target.iobuf unixBufferSize)).chunk registers buf =
      none
    simp [Stub.chunk, Operation.stub, reads]
  · have inside : registers.ofs.toNat + stub.numbytes registers.len ≤
        buf.data.length :=
      Nat.le_trans (Nat.add_le_add_left (stub.numbytes_le registers.len) _)
        fits.inside
    refine ⟨slice buf.data registers.ofs.toNat (stub.numbytes registers.len),
      ?_, List.ne_nil_of_length_pos ?_⟩
    · change (operation.stub (target.iobuf unixBufferSize)).chunk registers
        buf = _
      simp [stub, Stub.chunk, Operation.stub, writes]
    · exact Nat.lt_of_lt_of_eq asked (length_slice buf.data inside).symm

end ExtUnix.Transfer
