import ExtUnix.Endian.Interface

namespace ExtUnix.Endian

open ExtUnix.Data
open ExtUnix.Runtime

theorem toInt_valLong_eq_bmod (word : BitVec 64) :
    (valLong word).toInt = word.toInt.bmod (2 ^ 63) := by
  rw [valLong, BitVec.toInt_setWidth, BitVec.toInt_eq_toNat_bmod,
    Int.bmod_bmod_of_dvd (by decide)]

namespace Box

theorem toInt_unbox (box : Box) (value : box.Value) :
    box.ctype.toInt (box.unbox value) = box.toInt value := by
  cases box with
  | int => exact toInt_longVal value
  | int32 => rfl
  | int64 => rfl

theorem convert_unbox (box : Box) (type : CType) (value : box.Value) :
    box.ctype.convert type (box.unbox value) =
      BitVec.ofInt (8 * type.bytes) (box.toInt value) := by
  rw [CType.convert, toInt_unbox]
  rfl

theorem toInt_ofC (box : Box) (value : box.ctype.Value) :
    box.toInt (box.ofC value) = (box.ctype.toInt value).bmod (2 ^ box.bits) := by
  cases box with
  | int => exact toInt_valLong_eq_bmod value
  | int32 => exact (BitVec.toInt_bmod_cancel (w := 32) value).symm
  | int64 => exact (BitVec.toInt_bmod_cancel (w := 64) value).symm

theorem toInt_ofC_convert (box : Box) (type : CType) (value : type.Value) :
    box.toInt (box.ofC (type.convert box.ctype value)) =
      (type.toInt value).bmod (2 ^ box.bits) := by
  rw [toInt_ofC]
  cases box <;>
    · simp only [CType.convert, CType.ofInt, CType.toInt, ctype, int64T, int32T,
        if_true, bits, BitVec.toInt_ofInt]
      exact Int.bmod_bmod_of_dvd (by decide)

end Box

namespace Layout

def toWord (layout : Layout) (value : layout.box.Value) :
    BitVec (8 * layout.width) :=
  BitVec.ofInt _ (layout.box.toInt value)

def ofWord (layout : Layout) (word : BitVec (8 * layout.width)) :
    layout.box.Value :=
  layout.box.ofC (layout.type.convert layout.box.ctype word)

/-- The integer that `width` bytes stand for, once they are read as a number. -/
def interpret (layout : Layout) (number : Nat) : Int :=
  match layout with
  | .uint8 | .uint16 | .uint31 => number
  | .int8 => (number : Int).bmod (2 ^ 8)
  | .int16 => (number : Int).bmod (2 ^ 16)
  | .int31 | .int32 => (number : Int).bmod (2 ^ 32)
  | .int64 => (number : Int).bmod (2 ^ 64)
  | .uint63 | .int63 => (number : Int).bmod (2 ^ 63)

/-- The value that remains of an integer stored as the layout. -/
def reduce (layout : Layout) (value : Int) : Int :=
  match layout with
  | .uint8 => value % 2 ^ 8
  | .uint16 => value % 2 ^ 16
  | .uint31 => value % 2 ^ 32
  | .int8 => value.bmod (2 ^ 8)
  | .int16 => value.bmod (2 ^ 16)
  | .int31 => value.bmod (2 ^ 32)
  | .int32 | .uint63 | .int63 | .int64 => value

theorem bmod_camlInt {number : Int} (lower : -2 ^ 62 ≤ number)
    (upper : number < 2 ^ 62) : number.bmod (2 ^ 63) = number := by
  rw [Int.bmod_eq_of_le] <;> omega

theorem toInt_bmod_camlInt {width : Nat} (small : width ≤ 32)
    (word : BitVec width) :
    word.toInt.bmod (2 ^ 63) = (word.toNat : Int).bmod (2 ^ width) := by
  have narrow : 2 ^ (width - 1) ≤ 2 ^ 62 :=
    Nat.pow_le_pow_right (by decide) (by omega)
  have lower := word.le_toInt
  have upper := word.toInt_lt
  rw [← BitVec.toInt_eq_toNat_bmod]
  apply bmod_camlInt
  · exact Int.le_trans (by exact_mod_cast Int.neg_le_neg (by exact_mod_cast narrow)) lower
  · exact Int.lt_of_lt_of_le upper (by exact_mod_cast narrow)

theorem toNat_bmod_camlInt {width : Nat} (small : width ≤ 32)
    (word : BitVec width) :
    (word.toNat : Int).bmod (2 ^ 63) = word.toNat := by
  have narrow : 2 ^ width ≤ 2 ^ 62 :=
    Nat.pow_le_pow_right (by decide) (by omega)
  have bound := word.isLt
  apply bmod_camlInt <;> omega

theorem toInt_ofWord (layout : Layout) (word : BitVec (8 * layout.width)) :
    layout.box.toInt (layout.ofWord word) =
      layout.interpret word.toNat := by
  rw [ofWord, Box.toInt_ofC_convert]
  cases layout with
  | uint8 | uint16 | uint31 => exact toNat_bmod_camlInt (by decide) word
  | int8 | int16 | int31 => exact toInt_bmod_camlInt (by decide) word
  | int32 =>
      exact (BitVec.toInt_bmod_cancel word).trans
        (BitVec.toInt_eq_toNat_bmod word)
  | int64 =>
      exact (BitVec.toInt_bmod_cancel word).trans
        (BitVec.toInt_eq_toNat_bmod word)
  | uint63 => rfl
  | int63 =>
      change (BitVec.toInt word).bmod (2 ^ 63) = _
      rw [BitVec.toInt_eq_toNat_bmod]
      exact Int.bmod_bmod_of_dvd (by decide)

theorem toNat_toWord (layout : Layout) (value : layout.box.Value) :
    ((layout.toWord value).toNat : Int) =
      layout.box.toInt value % 2 ^ (8 * layout.width) := by
  have positive : (0 : Int) < 2 ^ (8 * layout.width) := by
    exact_mod_cast Nat.two_pow_pos _
  rw [toWord, BitVec.toNat_ofInt]
  push_cast
  rw [Int.toNat_of_nonneg (Int.emod_nonneg _ (by omega))]

theorem toNat_toWord_bmod (layout : Layout) (value : layout.box.Value)
    {divisor : Nat} (divides : divisor ∣ 2 ^ (8 * layout.width)) :
    ((layout.toWord value).toNat : Int).bmod divisor =
      (layout.box.toInt value).bmod divisor := by
  rw [toNat_toWord, ← Int.emod_bmod,
    Int.emod_emod_of_dvd _ (by exact_mod_cast divides), Int.emod_bmod]

theorem toInt_ofWord_toWord (layout : Layout) (value : layout.box.Value) :
    layout.box.toInt (layout.ofWord (layout.toWord value)) =
      layout.reduce (layout.box.toInt value) := by
  rw [toInt_ofWord]
  unfold interpret reduce
  cases layout
  case uint8 | uint16 | uint31 => exact toNat_toWord _ value
  case int8 | int16 | int31 => exact toNat_toWord_bmod _ value (by decide)
  case int32 | uint63 | int63 | int64 =>
    exact (toNat_toWord_bmod _ value (by decide)).trans
      (BitVec.toInt_bmod_cancel value)

end Layout

theorem Converted.toWord_ofWord (converted : Converted)
    (word : BitVec (8 * converted.layout.width)) :
    converted.layout.toWord (converted.layout.ofWord word) = word := by
  rw [Layout.toWord, Layout.toInt_ofWord]
  cases converted with
  | uint16 | uint31 => exact BitVec.ofInt_natCast _ _ |>.trans (by simp)
  | int16 | int31 | int32 | int64 =>
      exact (congrArg (BitVec.ofInt _)
        (BitVec.toInt_eq_toNat_bmod word).symm).trans BitVec.ofInt_toInt

/-- `conv` turns the word the host makes of some bytes into the word that
`order` makes of them. -/
def Decodes (host order : ByteOrder) {count : Nat}
    (conv : BitVec (8 * count) → BitVec (8 * count)) : Prop :=
  ∀ bytes : List UInt8, bytes.length = count →
    conv (host.word count bytes) = order.word count bytes

def Encodes (host order : ByteOrder) {count : Nat}
    (conv : BitVec (8 * count) → BitVec (8 * count)) : Prop :=
  ∀ word, host.digits count (conv word).toNat = order.digits count word.toNat

theorem word_digits (order : ByteOrder) {count : Nat}
    (word : BitVec (8 * count)) :
    order.word count (order.digits count word.toNat) = word := by
  apply BitVec.eq_of_toNat_eq
  rw [order.toNat_word (order.length_digits count _), order.value_digits,
    ← two_pow_eight_mul, Nat.mod_eq_of_lt word.isLt]

theorem Encodes.decodes {host order : ByteOrder} {count : Nat}
    {conv : BitVec (8 * count) → BitVec (8 * count)}
    (encodes : Encodes host order conv) (word : BitVec (8 * count)) :
    order.word count (host.digits count (conv word).toNat) = word := by
  rw [encodes word, word_digits]

theorem id_decodes (host : ByteOrder) (count : Nat) :
    Decodes host host (id : BitVec (8 * count) → BitVec (8 * count)) :=
  fun _ _ => rfl

theorem id_encodes (host : ByteOrder) (count : Nat) :
    Encodes host host (id : BitVec (8 * count) → BitVec (8 * count)) :=
  fun _ => rfl

theorem htobe_decodes (host : ByteOrder) (count : Nat) :
    Decodes host .big (@htobe host count) := by
  intro bytes sized
  cases host with
  | big => rfl
  | little => exact swapBytes_word .big (by decide) sized

theorem htobe_encodes (host : ByteOrder) (count : Nat) :
    Encodes host .big (@htobe host count) := by
  intro word
  cases host with
  | big => rfl
  | little => exact digits_swapBytes .big (by decide) word

theorem htole_decodes (host : ByteOrder) (count : Nat) :
    Decodes host .little (@htole host count) := by
  intro bytes sized
  cases host with
  | big => exact swapBytes_word .little (by decide) sized
  | little => rfl

theorem htole_encodes (host : ByteOrder) (count : Nat) :
    Encodes host .little (@htole host count) := by
  intro word
  cases host with
  | big => exact digits_swapBytes .little (by decide) word
  | little => rfl

theorem byte_decodes (host order : ByteOrder) :
    Decodes host order (id : BitVec (8 * 1) → BitVec (8 * 1)) := by
  intro bytes sized
  obtain ⟨byte, rfl⟩ := List.length_eq_one_iff.mp sized
  cases host <;> cases order <;> rfl

theorem byte_encodes (host order : ByteOrder) :
    Encodes host order (id : BitVec (8 * 1) → BitVec (8 * 1)) := by
  intro word
  cases host <;> cases order <;> rfl

def Order.byteOrder (host : ByteOrder) : Order → ByteOrder
  | .bigEndian => .big
  | .littleEndian => .little
  | .hostEndian => host

def Layout.outside (layout : Layout) : Buffer → CamlInt → Bool :=
  match layout with
  | .uint8 | .int8 => outsideByte
  | _ => outsideWord (BitVec.ofNat 63 layout.width)

theorem get_stub (host : ByteOrder) (order : Order) (layout : Layout) :
    ∃ conv, Decodes host (order.byteOrder host) conv ∧
      get host order layout = checkedGet layout.outside
        (getStub layout.type conv layout.box host) := by
  cases order <;> cases layout <;>
    first
      | exact ⟨_, byte_decodes host _, rfl⟩
      | exact ⟨_, id_decodes host _, rfl⟩
      | exact ⟨_, htobe_decodes host _, rfl⟩
      | exact ⟨_, htole_decodes host _, rfl⟩

/-- The setters of both signs share the stub of the unsigned type. -/
theorem set_stub (host : ByteOrder) (order : Order) (layout : Layout) :
    ∃ conv, Encodes host (order.byteOrder host) conv ∧
      set host order layout = checkedSet layout.outside
        (setStub ⟨layout.width, false⟩ conv layout.box host) := by
  cases order <;> cases layout <;>
    first
      | exact ⟨_, byte_encodes host _, rfl⟩
      | exact ⟨_, id_encodes host _, rfl⟩
      | exact ⟨_, htobe_encodes host _, rfl⟩
      | exact ⟨_, htole_encodes host _, rfl⟩

theorem fromHost_stub (host order : ByteOrder) (converted : Converted) :
    ∃ conv, Encodes host order conv ∧
      fromHost host order converted = convStub converted.layout.type conv
        converted.layout.box := by
  cases order <;> cases converted <;>
    first
      | exact ⟨_, htobe_encodes host _, rfl⟩
      | exact ⟨_, htole_encodes host _, rfl⟩

theorem toHost_stub (host order : ByteOrder) (converted : Converted) :
    ∃ conv, Decodes host order conv ∧
      toHost host order converted = convStub converted.layout.type conv
        converted.layout.box := by
  cases order <;> cases converted <;>
    first
      | exact ⟨_, htobe_decodes host _, rfl⟩
      | exact ⟨_, htole_decodes host _, rfl⟩

theorem convStub_eq (layout : Layout)
    (conv : layout.type.Value → layout.type.Value) (value : layout.box.Value) :
    convStub layout.type conv layout.box value =
      layout.ofWord (conv (layout.toWord value)) := by
  rw [convStub, Box.convert_unbox]
  rfl

theorem get_eq (host : ByteOrder) (order : Order) (layout : Layout)
    (str : Buffer) (off : CamlInt) :
    get host order layout str off =
      if layout.outside str off then .invalidArgument "index out of bounds"
      else
        match load str (longVal off) layout.width with
        | none => .outOfBounds
        | some bytes =>
            .done (layout.ofWord
              ((order.byteOrder host).word layout.width bytes)) := by
  obtain ⟨conv, decodes, equal⟩ := get_stub host order layout
  rw [equal, checkedGet, getStub]
  split_ifs with outside
  · rfl
  · cases loaded : load str (longVal off) layout.width with
    | none => rfl
    | some bytes =>
        have sized : bytes.length = layout.width := by
          unfold load at loaded
          split_ifs at loaded with inside
          cases loaded
          exact length_slice _ inside
        simp only [decodes bytes sized]
        rfl

theorem set_eq (host : ByteOrder) (order : Order) (layout : Layout)
    (str : Buffer) (off : CamlInt) (value : layout.box.Value) :
    set host order layout str off value =
      if layout.outside str off then
        (str, .invalidArgument "index out of bounds")
      else
        match store str (longVal off) ((order.byteOrder host).digits
            layout.width (layout.toWord value).toNat) with
        | none => (str, .outOfBounds)
        | some stored => (stored, .done ()) := by
  obtain ⟨conv, encodes, equal⟩ := set_stub host order layout
  have bytes := encodes (layout.toWord value)
  rw [Layout.toWord] at bytes ⊢
  rw [equal, checkedSet, setStub, Box.convert_unbox]
  exact congrArg (fun written =>
    if layout.outside str off then
      (str, Access.invalidArgument "index out of bounds")
    else
      match store str (longVal off) written with
      | none => (str, .outOfBounds)
      | some stored => (stored, .done ())) bytes

theorem outsideByte_iff (str : Buffer) (off : CamlInt) :
    outsideByte str off = true ↔
      off.toInt < 0 ∨ (str.data.length : Int) < off.toInt + 1 := by
  rw [outsideByte, Bool.or_eq_true, slt_zero_iff, BitVec.sle_iff_toInt_le,
    str.toInt_length, Int.lt_add_one_iff]

theorem outsideWord_iff {width : Nat} (small : width ≤ 8) (str : Buffer)
    (off : CamlInt) :
    outsideWord (BitVec.ofNat 63 width) str off = true ↔
      off.toInt < 0 ∨ (str.data.length : Int) < off.toInt + width := by
  have word : (BitVec.ofNat 63 width).toInt = width :=
    toInt_ofNat_of_lt (by omega)
  rw [outsideWord, Bool.or_eq_true, slt_zero_iff, BitVec.slt_iff_toInt_lt,
    str.toInt_length_sub (by omega), word, Int.sub_lt_iff]

theorem Layout.outside_iff (layout : Layout) (str : Buffer) (off : CamlInt) :
    layout.outside str off = true ↔
      off.toInt < 0 ∨ (str.data.length : Int) < off.toInt + layout.width := by
  cases layout
  case uint8 | int8 => exact outsideByte_iff str off
  all_goals exact outsideWord_iff (by decide) str off

section InBounds

variable {layout : Layout} {str : Buffer} {off : CamlInt}

theorem Layout.inside_of_not_outside (inside : layout.outside str off = false) :
    (longVal off).toNat = off.toInt.toNat ∧
      off.toInt.toNat + layout.width ≤ str.data.length := by
  have bounds := mt (layout.outside_iff str off).mpr (by simp [inside])
  have word := @toNat_longVal off (by omega)
  omega

theorem get_done (host : ByteOrder) (order : Order)
    (inside : layout.outside str off = false) :
    get host order layout str off =
      .done (layout.ofWord ((order.byteOrder host).word layout.width
        (slice str.data off.toInt.toNat layout.width))) := by
  obtain ⟨start, fits⟩ := Layout.inside_of_not_outside inside
  rw [get_eq, inside, load_of_le (by omega), start]
  rfl

theorem set_done (host : ByteOrder) (order : Order) (value : layout.box.Value)
    (inside : layout.outside str off = false) :
    ∃ stored : Buffer,
      set host order layout str off value = (stored, .done ()) ∧
      stored.data = splice str.data off.toInt.toNat
        ((order.byteOrder host).digits layout.width
          (layout.toWord value).toNat) := by
  obtain ⟨start, fits⟩ := Layout.inside_of_not_outside inside
  obtain ⟨stored, storedEq, data⟩ := @store_of_le str (longVal off)
    ((order.byteOrder host).digits layout.width (layout.toWord value).toNat)
    (by rw [ByteOrder.length_digits]; omega)
  rw [start] at data
  refine ⟨stored, ?_, data⟩
  rw [set_eq, inside, storedEq]
  rfl

end InBounds

def Order.ofByteOrder : ByteOrder → Order
  | .big => .bigEndian
  | .little => .littleEndian

@[simp] theorem Order.byteOrder_ofByteOrder (host order : ByteOrder) :
    (Order.ofByteOrder order).byteOrder host = order := by
  cases order <;> rfl

theorem Layout.outside_eq_false {layout : Layout} {str : Buffer}
    {off : CamlInt} (nonneg : 0 ≤ off.toInt)
    (inside : off.toInt + layout.width ≤ str.data.length) :
    layout.outside str off = false := by
  rw [← Bool.not_eq_true, layout.outside_iff]
  omega

theorem Layout.digits_toWord (order : ByteOrder) (layout : Layout)
    (value : layout.box.Value) :
    order.digits layout.width (layout.toWord value).toNat =
      order.digits layout.width
        (layout.box.toInt value % 256 ^ layout.width).toNat := by
  have stored := layout.toNat_toWord value
  have base : (2 : Int) ^ (8 * layout.width) = 256 ^ layout.width := by
    exact_mod_cast two_pow_eight_mul layout.width
  rw [base] at stored
  rw [← stored, Int.toNat_natCast]

theorem set_fromHost (host order : ByteOrder) (converted : Converted)
    (str : Buffer) (off : CamlInt) (value : converted.layout.box.Value) :
    set host .hostEndian converted.layout str off
        (fromHost host order converted value) =
      set host (.ofByteOrder order) converted.layout str off value := by
  obtain ⟨conv, encodes, equal⟩ := fromHost_stub host order converted
  have bytes := encodes (converted.layout.toWord value)
  rw [set_eq, set_eq, equal, convStub_eq, converted.toWord_ofWord,
    Order.byteOrder_ofByteOrder]
  rw [← bytes]
  rfl

theorem toHost_get (host order : ByteOrder) (converted : Converted)
    (str : Buffer) (off : CamlInt) :
    (get host .hostEndian converted.layout str off).map
        (toHost host order converted) =
      get host (.ofByteOrder order) converted.layout str off := by
  obtain ⟨conv, decodes, equal⟩ := toHost_stub host order converted
  cases outside : converted.layout.outside str off with
  | true =>
      rw [get_eq, get_eq, outside]
      rfl
  | false =>
      obtain ⟨-, fits⟩ := Layout.inside_of_not_outside outside
      rw [get_done host _ outside, get_done host _ outside, Access.map, equal,
        convStub_eq, converted.toWord_ofWord, Order.byteOrder_ofByteOrder]
      congr 2
      exact decodes _ (length_slice _ fits)

theorem toHost_fromHost (host order : ByteOrder) (converted : Converted)
    (value : converted.layout.box.Value) :
    toHost host order converted (fromHost host order converted value) =
      converted.layout.ofWord (converted.layout.toWord value) := by
  obtain ⟨conv, encodes, fromEq⟩ := fromHost_stub host order converted
  obtain ⟨conv', decodes, toEq⟩ := toHost_stub host order converted
  rw [fromEq, toEq, convStub_eq, convStub_eq, converted.toWord_ofWord]
  congr 1
  have swapped := decodes (host.digits converted.layout.width
    (conv (converted.layout.toWord value)).toNat) (host.length_digits _ _)
  rw [word_digits] at swapped
  exact swapped.trans (encodes.decodes _)

/-- Whatever the host's own byte order: a getter reads the bytes at the offset
as base 256 digits in the order of its module, a setter writes the digits of
the value in that order, and converting from and to host order makes up for the
difference between `HostEndian` and the module. -/
theorem byte_order_meaning (host order : ByteOrder) :
    (∀ (layout : Layout) (str : Buffer) (off : CamlInt), 0 ≤ off.toInt →
      off.toInt + layout.width ≤ str.data.length →
      (∃ value, get host (.ofByteOrder order) layout str off = .done value ∧
        layout.box.toInt value = layout.interpret
          (order.value (slice str.data off.toInt.toNat layout.width))) ∧
      ∀ value, ∃ stored : Buffer,
        set host (.ofByteOrder order) layout str off value =
          (stored, .done ()) ∧
        stored.data = splice str.data off.toInt.toNat
          (order.digits layout.width
            (layout.box.toInt value % 256 ^ layout.width).toNat)) ∧
    (∀ (converted : Converted) (str : Buffer) (off : CamlInt) value,
      set host .hostEndian converted.layout str off
          (fromHost host order converted value) =
        set host (.ofByteOrder order) converted.layout str off value) ∧
    (∀ (converted : Converted) (str : Buffer) (off : CamlInt),
      (get host .hostEndian converted.layout str off).map
          (toHost host order converted) =
        get host (.ofByteOrder order) converted.layout str off) ∧
    (∀ (converted : Converted) value,
      converted.layout.box.toInt
          (toHost host order converted (fromHost host order converted value)) =
        converted.layout.reduce (converted.layout.box.toInt value)) := by
  refine ⟨?_, set_fromHost host order, toHost_get host order, ?_⟩
  · intro layout str off nonneg inBounds
    have inside := Layout.outside_eq_false nonneg inBounds
    obtain ⟨-, fits⟩ := Layout.inside_of_not_outside inside
    refine ⟨⟨_, get_done host _ inside, ?_⟩, fun value => ?_⟩
    · rw [Layout.toInt_ofWord, Order.byteOrder_ofByteOrder,
        order.toNat_word (length_slice _ fits)]
    · obtain ⟨stored, equal, data⟩ :=
        set_done host (.ofByteOrder order) value inside
      rw [Order.byteOrder_ofByteOrder, Layout.digits_toWord] at data
      exact ⟨stored, equal, data⟩
  · intro converted value
    rw [toHost_fromHost, Layout.toInt_ofWord_toWord]

/-- The second and third byte of a string as a big endian `int16`, on a little
endian host. -/
theorem byte_order_meaning_int16 :
    let str : Buffer := ⟨[0x12, 0xFF, 0xFE], by decide⟩
    ∃ value : CamlInt, BigEndian.getInt16 .little str 1 = .done value ∧
      value.toInt = -2 := by
  intro str
  obtain ⟨value, equal, meaning⟩ :=
    ((byte_order_meaning .little .big).1 .int16 str 1 (by decide)
      (by decide)).1
  exact ⟨value, equal, meaning.trans (by decide)⟩

end ExtUnix.Endian
