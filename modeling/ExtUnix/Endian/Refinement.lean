import ExtUnix.Data.Machine
import ExtUnix.Endian.Bigarray
import ExtUnix.Endian.Meaning

namespace ExtUnix.Endian

open ExtUnix.Data
open ExtUnix.Runtime

/-! The accessors of `BA` against those of strings. -/

def Bigarray.Holds (array : Bigarray) (memory : Memory 64 UInt8)
    (buffer : Buffer) : Prop :=
  array.contents memory = buffer

def Bigarray.Frames (array : Bigarray) (before after : Memory 64 UInt8) :
    Prop :=
  ∀ address, array.size ≤ (address - array.data).toNat →
    after address = before address

def BA.outside (layout : Layout) : Bigarray → CamlInt → Bool :=
  match layout with
  | .uint8 | .int8 => outsideByte
  | _ => outsideWord (BitVec.ofNat 63 layout.width)

theorem get_stubs (host : ByteOrder) (order : Order) (layout : Layout) :
    ∃ conv,
      get host order layout = checkedGet layout.outside
        (getStub layout.type conv layout.box host) ∧
      BA.get host order layout = BA.checkedGet (BA.outside layout)
        (BA.getStub layout.type conv layout.box host) := by
  cases order <;> cases layout <;> exact ⟨_, rfl, rfl⟩

theorem set_stubs (host : ByteOrder) (order : Order) (layout : Layout) :
    ∃ conv,
      set host order layout = checkedSet layout.outside
        (setStub ⟨layout.width, false⟩ conv layout.box host) ∧
      BA.set host order layout = BA.checkedSet (BA.outside layout)
        (BA.setStub ⟨layout.width, false⟩ conv layout.box host) := by
  cases order <;> cases layout <;> exact ⟨_, rfl, rfl⟩

theorem setStub_of_store (type : CType) (conv : type.Value → type.Value)
    {box : Box} {host : ByteOrder} {buffer stored : Buffer} {off : CamlInt}
    {value : box.Value}
    (succeeded : store buffer (longVal off) (host.digits type.bytes
      (BitVec.toNat (conv (box.ctype.convert type (box.unbox value))))) =
        some stored) :
    setStub type conv box host buffer off value = (stored, .done ()) := by
  unfold setStub
  simp only [succeeded]

section Accessors

variable {array : Bigarray} {memory : Memory 64 UInt8} {buffer : Buffer}

theorem Bigarray.Holds.data (held : array.Holds memory buffer) :
    buffer.data = memory.read array.data array.size := by
  rw [← held]
  rfl

theorem Bigarray.Holds.length (held : array.Holds memory buffer) :
    buffer.data.length = array.size := by
  rw [held.data, Memory.length_read]

theorem Bigarray.Holds.outside (held : array.Holds memory buffer)
    (layout : Layout) (off : CamlInt) :
    BA.outside layout array off = layout.outside buffer off := by
  have dim : array.dim = buffer.length := by
    rw [dim, Buffer.length, held.length]
  cases layout <;>
    simp only [BA.outside, Layout.outside, BA.outsideByte, BA.outsideWord,
      outsideByte, outsideWord, dim]

theorem Bigarray.Holds.get (held : array.Holds memory buffer)
    (host : ByteOrder) (order : Order) (layout : Layout) (off : CamlInt) :
    BA.get host order layout memory array off =
      Endian.get host order layout buffer off := by
  obtain ⟨conv, string, bigarray⟩ := get_stubs host order layout
  rw [string, bigarray, BA.checkedGet, checkedGet, held.outside layout off]
  split_ifs with outside
  · rfl
  · obtain ⟨start, fits⟩ :=
      Layout.inside_of_not_outside (Bool.eq_false_of_not_eq_true outside)
    have inside : (longVal off).toNat + layout.width ≤ buffer.data.length := by
      omega
    have same : slice buffer.data (longVal off).toNat layout.width =
        memory.read (array.data + longVal off) layout.width := by
      rw [held.data]
      apply Memory.slice_read
      rw [← held.length]
      exact inside
    rw [BA.getStub, getStub, load_of_le inside]
    simp only [same]

theorem Bigarray.Holds.set (held : array.Holds memory buffer)
    (host : ByteOrder) (order : Order) (layout : Layout) (off : CamlInt)
    (value : layout.box.Value) :
    let written := BA.set host order layout memory array off value
    let stored := Endian.set host order layout buffer off value
    written.2 = stored.2 ∧ array.Holds written.1 stored.1 ∧
      array.Frames memory written.1 := by
  obtain ⟨conv, string, bigarray⟩ := set_stubs host order layout
  rw [string, bigarray, BA.checkedSet, checkedSet, held.outside layout off]
  split_ifs with outside
  · exact ⟨rfl, held, fun _ _ => rfl⟩
  · obtain ⟨start, fits⟩ :=
      Layout.inside_of_not_outside (Bool.eq_false_of_not_eq_true outside)
    let x := conv (layout.box.ctype.convert ⟨layout.width, false⟩
      (layout.box.unbox value))
    let bytes := host.digits layout.width (BitVec.toNat x)
    have inside : (longVal off).toNat + bytes.length ≤ array.size := by
      rw [ByteOrder.length_digits, ← held.length]
      omega
    obtain ⟨stored, storedEq, data⟩ := @store_of_le buffer (longVal off) bytes
      (by rw [held.length]; exact inside)
    rw [setStub_of_store ⟨layout.width, false⟩ conv storedEq]
    refine ⟨rfl, ?_, ?_⟩
    · apply Buffer.ext
      rw [data, held.data]
      exact Memory.read_write memory array.data (longVal off)
        (by have := array.size_lt; omega) inside
    · intro address beyond
      exact Memory.write_outside memory array.data (longVal off)
        (inside.trans beyond)

end Accessors

inductive Operation where
  | get (order : Order) (layout : Layout) (off : CamlInt)
  | set (order : Order) (layout : Layout) (off : CamlInt)
      (value : layout.box.Value)

inductive Observation where
  | got (layout : Layout) (access : Access layout.box.Value)
  | wrote (access : Access Unit)

def step (host : ByteOrder) (buffer : Buffer) :
    Operation → Buffer × Observation
  | .get order layout off =>
      (buffer, .got layout (get host order layout buffer off))
  | .set order layout off value =>
      let (stored, ended) := set host order layout buffer off value
      (stored, .wrote ended)

def BA.step (host : ByteOrder) (array : Bigarray) (memory : Memory 64 UInt8) :
    Operation → Memory 64 UInt8 × Observation
  | .get order layout off =>
      (memory, .got layout (BA.get host order layout memory array off))
  | .set order layout off value =>
      let (written, ended) := BA.set host order layout memory array off value
      (written, .wrote ended)

theorem Bigarray.Holds.step {array : Bigarray} {memory : Memory 64 UInt8}
    {buffer : Buffer} (held : array.Holds memory buffer) (host : ByteOrder)
    (operation : Operation) :
    let written := BA.step host array memory operation
    let stored := Endian.step host buffer operation
    array.Holds written.1 stored.1 ∧ written.2 = stored.2 := by
  cases operation with
  | get order layout off =>
      exact ⟨held, congrArg _ (held.get host order layout off)⟩
  | set order layout off value =>
      obtain ⟨ended, holds, -⟩ := held.set host order layout off value
      exact ⟨holds, congrArg _ ended⟩

/-- A bigarray and a string that hold the same bytes cannot be told apart by
their accessors, one at a time or in a run. -/
theorem bigarray_refines_string (host : ByteOrder) {array : Bigarray}
    {memory : Memory 64 UInt8} {buffer : Buffer}
    (held : array.Holds memory buffer) :
    (∀ order layout off,
      BA.get host order layout memory array off =
        get host order layout buffer off) ∧
    (∀ order layout off (value : layout.box.Value),
      let written := BA.set host order layout memory array off value
      let stored := set host order layout buffer off value
      written.2 = stored.2 ∧ array.Holds written.1 stored.1 ∧
        array.Frames memory written.1) ∧
    ∀ operations,
      let written := run (BA.step host array) memory operations
      let stored := run (step host) buffer operations
      array.Holds written.1 stored.1 ∧ written.2 = stored.2 :=
  ⟨held.get host, held.set host,
    run_simulates (fun memory buffer => array.Holds memory buffer)
      (fun _ _ operation held => held.step host operation) held⟩

theorem bigarray_refines_string_four :
    let array : Bigarray := ⟨4096, 4, by decide⟩
    let memory : Memory 64 UInt8 := fun address => UInt8.ofNat address.toNat
    let buffer : Buffer := ⟨[0, 1, 2, 3], by decide⟩
    BA.get .little .bigEndian .uint16 memory array 1 = .done 0x102 ∧
      get .little .bigEndian .uint16 buffer 1 = .done 0x102 ∧
      (run (BA.step .little array) memory
        [.set .littleEndian .int8 4 5, .get .hostEndian .int32 0]).2 =
      (run (step .little) buffer
        [.set .littleEndian .int8 4 5, .get .hostEndian .int32 0]).2 := by
  intro array memory buffer
  have held : array.Holds memory buffer := by
    apply Buffer.ext
    decide
  obtain ⟨gets, -, runs⟩ := bigarray_refines_string .little held
  have read : get .little .bigEndian .uint16 buffer 1 = .done 0x102 := by
    decide
  exact ⟨(gets _ _ _).trans read, read, (runs _).2⟩

end ExtUnix.Endian
