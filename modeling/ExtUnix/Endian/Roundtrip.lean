import ExtUnix.Data.Record
import ExtUnix.Endian.Meaning

namespace ExtUnix.Endian

open ExtUnix.Data
open ExtUnix.Runtime

/-! Records: several values set at disjoint offsets of one buffer. -/

structure Write where
  order : Order
  layout : Layout
  off : CamlInt
  value : layout.box.Value

namespace Write

def run (host : ByteOrder) (write : Write) (buf : Buffer) :
    Buffer × Access Unit :=
  set host write.order write.layout buf write.off write.value

def InBounds (buf : Buffer) (write : Write) : Prop :=
  0 ≤ write.off.toInt ∧
    write.off.toInt + write.layout.width ≤ buf.data.length

def Disjoint (first second : Write) : Prop :=
  first.off.toInt + first.layout.width ≤ second.off.toInt ∨
    second.off.toInt + second.layout.width ≤ first.off.toInt

def piece (host : ByteOrder) (write : Write) : Nat × List UInt8 :=
  (write.off.toInt.toNat, (write.order.byteOrder host).digits
    write.layout.width (write.layout.toWord write.value).toNat)

variable {host : ByteOrder} {buf : Buffer} {write : Write}

theorem length_piece : (write.piece host).2.length = write.layout.width := by
  simp [piece]

theorem InBounds.within (inBounds : write.InBounds buf) :
    Within buf.data.length (write.piece host) := by
  obtain ⟨nonneg, inside⟩ := inBounds
  rw [Within, length_piece, piece]
  omega

theorem Disjoint.apart {first second : Write}
    (firstIn : first.InBounds buf) (secondIn : second.InBounds buf)
    (disjoint : first.Disjoint second) :
    Apart (first.piece host) (second.piece host) := by
  obtain ⟨firstNonneg, -⟩ := firstIn
  obtain ⟨secondNonneg, -⟩ := secondIn
  rw [Apart, length_piece, length_piece]
  rcases disjoint with before | after
  · left
    simp only [piece]
    omega
  · right
    simp only [piece]
    omega

end Write

/-- The setters one after the other, up to the first exception. -/
def runAll (host : ByteOrder) : List Write → Buffer → Buffer × Access Unit
  | [], buf => (buf, .done ())
  | write :: rest, buf =>
      match write.run host buf with
      | (stored, .done ()) => runAll host rest stored
      | failed => failed

theorem runAll_done {host : ByteOrder} {writes : List Write} {buf : Buffer}
    (inBounds : ∀ write ∈ writes, write.InBounds buf) :
    ∃ final : Buffer, runAll host writes buf = (final, .done ()) ∧
      final.data = spliceAll buf.data (writes.map (Write.piece host)) := by
  induction writes generalizing buf with
  | nil => exact ⟨buf, rfl, rfl⟩
  | cons write rest induction =>
      have fits := inBounds write (by simp)
      obtain ⟨stored, equal, data⟩ := set_done host write.order write.value
        (Layout.outside_eq_false fits.1 fits.2)
      have ran : write.run host buf = (stored, .done ()) := equal
      have width : stored.data.length = buf.data.length := by
        rw [data]
        exact length_splice (@Write.InBounds.within host buf write fits)
      obtain ⟨final, finalEq, finalData⟩ := @induction stored
        fun later member => by
          have laterFits := inBounds later (by simp [member])
          rwa [Write.InBounds, ← width] at laterFits
      refine ⟨final, ?_, ?_⟩
      · simp only [runAll, ran, finalEq]
      · rw [finalData, data]
        rfl

/-- The accessors reject exactly the ranges that leave the buffer.  A record of
values set at disjoint ranges does not depend on the order of the setters, keeps
the bytes outside the ranges, and returns every value, reduced to its type. -/
theorem record_roundtrip (host : ByteOrder) (buf : Buffer) :
    (∀ (order : Order) (layout : Layout) (off : CamlInt),
      let outside := off.toInt < 0 ∨
        (buf.data.length : Int) < off.toInt + layout.width
      ((∃ message, get host order layout buf off = .invalidArgument message) ↔
        outside) ∧
      ∀ value,
        ((∃ message, (set host order layout buf off value).2 =
          .invalidArgument message) ↔ outside) ∧
        (outside → (set host order layout buf off value).1 = buf)) ∧
    ∀ writes : List Write, (∀ write ∈ writes, write.InBounds buf) →
      writes.Pairwise Write.Disjoint →
      ∃ final : Buffer,
        (∀ reordered, reordered.Perm writes →
          runAll host reordered buf = (final, .done ())) ∧
        final.data.length = buf.data.length ∧
        (∀ index : Nat,
          (∀ write ∈ writes, (index : Int) < write.off.toInt ∨
            write.off.toInt + write.layout.width ≤ index) →
          final.data[index]? = buf.data[index]?) ∧
        ∀ write ∈ writes, ∃ value,
          get host write.order write.layout final write.off = .done value ∧
          write.layout.box.toInt value =
            write.layout.reduce (write.layout.box.toInt write.value) := by
  constructor
  · intro order layout off outside
    have outsideIff := layout.outside_iff buf off
    cases check : layout.outside buf off with
    | true =>
        have isOutside : outside := outsideIff.mp check
        refine ⟨⟨fun _ => isOutside, fun _ => ?_⟩, fun value => ?_⟩
        · rw [get_eq, check]
          exact ⟨_, rfl⟩
        · rw [set_eq, check]
          exact ⟨⟨fun _ => isOutside, fun _ => ⟨_, rfl⟩⟩, fun _ => rfl⟩
    | false =>
        have isInside : ¬outside := mt outsideIff.mpr (by simp [check])
        refine ⟨⟨?_, fun impossible => absurd impossible isInside⟩,
          fun value => ⟨⟨?_, fun impossible => absurd impossible isInside⟩,
            fun impossible => absurd impossible isInside⟩⟩
        · rintro ⟨message, raised⟩
          rw [get_done host order check] at raised
          cases raised
        · rintro ⟨message, raised⟩
          obtain ⟨stored, equal, -⟩ := set_done host order value check
          rw [equal] at raised
          cases raised
  · intro writes inBounds disjoint
    let pieces := writes.map (Write.piece host)
    have within : ∀ piece ∈ pieces, Within buf.data.length piece := by
      intro piece member
      obtain ⟨write, inWrites, rfl⟩ := List.mem_map.mp member
      exact (inBounds write inWrites).within
    have apart : pieces.Pairwise Apart := by
      rw [List.pairwise_map]
      refine disjoint.imp_of_mem ?_
      intro first second firstIn secondIn separate
      exact separate.apart (inBounds first firstIn) (inBounds second secondIn)
    obtain ⟨final, -, data⟩ := @runAll_done host writes buf inBounds
    have width : final.data.length = buf.data.length := by
      rw [data, length_spliceAll within]
    refine ⟨final, ?_, width, ?_, ?_⟩
    · intro reordered perm
      obtain ⟨other, otherEq, otherData⟩ := @runAll_done host reordered buf
        fun write member => inBounds write (perm.mem_iff.mp member)
      have same : other = final := Buffer.ext (by
        rw [otherData, data]
        exact spliceAll_perm within apart (perm.map _))
      rw [otherEq, same]
    · intro index outside
      rw [data]
      apply getElem?_spliceAll_outside within
      intro piece member
      obtain ⟨write, inWrites, rfl⟩ := List.mem_map.mp member
      have nonneg := (inBounds write inWrites).1
      have position := outside write inWrites
      rw [Write.length_piece]
      simp only [Write.piece]
      omega
    · intro write member
      obtain ⟨nonneg, inside⟩ := inBounds write member
      have read := slice_spliceAll within apart (List.mem_map_of_mem member)
      rw [← data, Write.length_piece] at read
      refine ⟨_, get_done host write.order
        (Layout.outside_eq_false nonneg (by omega)), ?_⟩
      rw [show slice final.data write.off.toInt.toNat write.layout.width =
          (write.piece host).2 from read, Write.piece, word_digits]
      exact write.layout.toInt_ofWord_toWord write.value

/-- A big endian `uint16` and a little endian `int8`, both out of range for
their types, with one byte between them. -/
theorem record_roundtrip_two :
    let buf : Buffer := ⟨[1, 2, 3, 4], by decide⟩
    let first : Write := ⟨.bigEndian, .uint16, 0, (0x10203 : BitVec 63)⟩
    let second : Write := ⟨.littleEndian, .int8, 3, (200 : BitVec 63)⟩
    ∃ final : Buffer,
      runAll .little [second, first] buf = (final, .done ()) ∧
      runAll .little [first, second] buf = (final, .done ()) ∧
      final.data[2]? = some 3 ∧
      (∃ value : CamlInt, BigEndian.getUint16 .little final 0 = .done value ∧
        value.toInt = 0x203) ∧
      ∃ value : CamlInt, LittleEndian.getInt8 .little final 3 = .done value ∧
        value.toInt = -56 := by
  intro buf first second
  have inBounds : ∀ write ∈ [first, second], write.InBounds buf := by
    intro write member
    rcases List.mem_pair.mp member with rfl | rfl
    · exact ⟨by decide, by decide⟩
    · exact ⟨by decide, by decide⟩
  have disjoint : [first, second].Pairwise Write.Disjoint := by
    rw [List.pairwise_pair]
    exact .inl (by decide)
  obtain ⟨final, ran, -, kept, read⟩ :=
    (record_roundtrip .little buf).2 [first, second] inBounds disjoint
  obtain ⟨value, equal, reduced⟩ := read first (by simp)
  obtain ⟨value', equal', reduced'⟩ := read second (by simp)
  refine ⟨final, ran _ (List.Perm.swap first second []), ran _ (.refl _),
    kept 2 ?_, ⟨value, equal, reduced.trans (by decide)⟩,
    ⟨value', equal', reduced'.trans (by decide)⟩⟩
  intro write member
  rcases List.mem_pair.mp member with rfl | rfl
  · exact .inr (by decide)
  · exact .inl (by decide)

end ExtUnix.Endian
