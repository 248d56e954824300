import ExtUnix.Data.Memory
import ExtUnix.Endian.Interface

namespace ExtUnix.Endian

open ExtUnix.Data
open ExtUnix.Runtime

/-! `endianba.c` on a 64-bit platform and the modules `BigEndian`,
`LittleEndian` and `HostEndian` of `BA`. -/

/-- A bigarray of bytes with C layout: `Caml_ba_data_val` and the dimension,
which is a non-negative OCaml `int`. -/
structure Bigarray where
  data : BitVec 64
  size : Nat
  size_lt : size < 2 ^ 62

def Bigarray.dim (array : Bigarray) : CamlInt := BitVec.ofNat 63 array.size

def Bigarray.contents (array : Bigarray) (memory : Memory 64 UInt8) : Buffer :=
  ⟨memory.read array.data array.size, by
    rw [Memory.length_read]
    exact array.size_lt⟩

namespace BA

abbrev Getter (box : Box) :=
  Memory 64 UInt8 → Bigarray → CamlInt → Access box.Value

abbrev Setter (box : Box) :=
  Memory 64 UInt8 → Bigarray → CamlInt → box.Value →
    Memory 64 UInt8 × Access Unit

section Macros

variable (type : CType) (conv : type.Value → type.Value) (box : Box)

/-- `GET(name, type, conv, Val_type)`. -/
def getStub (host : ByteOrder) : Getter box := fun memory vBuf vOff =>
  let buf := vBuf.data
  let off := longVal vOff
  let x : type.Value :=
    host.word type.bytes (memory.read (buf + off) type.bytes)
  .done (box.ofC (type.convert box.ctype (conv x)))

/-- `SET(name, type, conv, Type_val)`. -/
def setStub (host : ByteOrder) : Setter box := fun memory vBuf vOff vX =>
  let buf := vBuf.data
  let off := longVal vOff
  let x := conv (box.ctype.convert type (box.unbox vX))
  (memory.write (buf + off) (host.digits type.bytes (BitVec.toNat x)), .done ())

end Macros

section Stubs

variable (host : ByteOrder)

def getBu16 : Getter .int := getStub uint16T (be16toh host) .int host
def getBs16 : Getter .int := getStub int16T (be16toh host) .int host
def getBu31 : Getter .int := getStub uint32T (be32toh host) .int host
def getBs31 : Getter .int := getStub int32T (be32toh host) .int host
def getBs32 : Getter .int32 := getStub int32T (be32toh host) .int32 host
def getBu63 : Getter .int := getStub uint64T (be64toh host) .int host
def getBs63 : Getter .int := getStub int64T (be64toh host) .int host
def getBs64 : Getter .int64 := getStub int64T (be64toh host) .int64 host
def setB16 : Setter .int := setStub uint16T (htobe16 host) .int host
def setB31 : Setter .int := setStub uint32T (htobe32 host) .int host
def setB32 : Setter .int32 := setStub uint32T (htobe32 host) .int32 host
def setB63 : Setter .int := setStub uint64T (htobe64 host) .int host
def setB64 : Setter .int64 := setStub uint64T (htobe64 host) .int64 host

def getLu16 : Getter .int := getStub uint16T (le16toh host) .int host
def getLs16 : Getter .int := getStub int16T (le16toh host) .int host
def getLu31 : Getter .int := getStub uint32T (le32toh host) .int host
def getLs31 : Getter .int := getStub int32T (le32toh host) .int host
def getLs32 : Getter .int32 := getStub int32T (le32toh host) .int32 host
def getLu63 : Getter .int := getStub uint64T (le64toh host) .int host
def getLs63 : Getter .int := getStub int64T (le64toh host) .int host
def getLs64 : Getter .int64 := getStub int64T (le64toh host) .int64 host
def setL16 : Setter .int := setStub uint16T (htole16 host) .int host
def setL31 : Setter .int := setStub uint32T (htole32 host) .int host
def setL32 : Setter .int32 := setStub uint32T (htole32 host) .int32 host
def setL63 : Setter .int := setStub uint64T (htole64 host) .int host
def setL64 : Setter .int64 := setStub uint64T (htole64 host) .int64 host

def getU8 : Getter .int := getStub uint8T id .int host
def getS8 : Getter .int := getStub int8T id .int host
def getHu16 : Getter .int := getStub uint16T id .int host
def getHs16 : Getter .int := getStub int16T id .int host
def getHu31 : Getter .int := getStub uint32T id .int host
def getHs31 : Getter .int := getStub int32T id .int host
def getHs32 : Getter .int32 := getStub int32T id .int32 host
def getHu63 : Getter .int := getStub uint64T id .int host
def getHs63 : Getter .int := getStub int64T id .int host
def getHs64 : Getter .int64 := getStub int64T id .int64 host
def set8 : Setter .int := setStub uint8T id .int host
def setH16 : Setter .int := setStub uint16T id .int host
def setH31 : Setter .int := setStub uint32T id .int host
def setH32 : Setter .int32 := setStub uint32T id .int32 host
def setH63 : Setter .int := setStub uint64T id .int host
def setH64 : Setter .int64 := setStub uint64T id .int64 host

end Stubs

def outsideByte (buf : Bigarray) (off : CamlInt) : Bool :=
  off.slt 0 || buf.dim.sle off

def outsideWord (width : CamlInt) (buf : Bigarray) (off : CamlInt) : Bool :=
  off.slt 0 || (buf.dim - width).slt off

def checkedGet (outside : Bigarray → CamlInt → Bool) (unsafeGet : Getter box) :
    Getter box := fun memory buf off =>
  if outside buf off then .invalidArgument "index out of bounds"
  else unsafeGet memory buf off

def checkedSet (outside : Bigarray → CamlInt → Bool) (unsafeSet : Setter box) :
    Setter box := fun memory buf off v =>
  if outside buf off then (memory, .invalidArgument "index out of bounds")
  else unsafeSet memory buf off v

namespace BigEndian

variable (host : ByteOrder)

def unsafeGetUint8 : Getter .int := getU8 host
def unsafeGetInt8 : Getter .int := getS8 host
def unsafeGetUint16 : Getter .int := getBu16 host
def unsafeGetInt16 : Getter .int := getBs16 host
def unsafeGetUint31 : Getter .int := getBu31 host
def unsafeGetInt31 : Getter .int := getBs31 host
def unsafeGetInt32 : Getter .int32 := getBs32 host
def unsafeGetUint63 : Getter .int := getBu63 host
def unsafeGetInt63 : Getter .int := getBs63 host
def unsafeGetInt64 : Getter .int64 := getBs64 host
def unsafeSetUint8 : Setter .int := set8 host
def unsafeSetInt8 : Setter .int := set8 host
def unsafeSetUint16 : Setter .int := setB16 host
def unsafeSetInt16 : Setter .int := setB16 host
def unsafeSetUint31 : Setter .int := setB31 host
def unsafeSetInt31 : Setter .int := setB31 host
def unsafeSetInt32 : Setter .int32 := setB32 host
def unsafeSetUint63 : Setter .int := setB63 host
def unsafeSetInt63 : Setter .int := setB63 host
def unsafeSetInt64 : Setter .int64 := setB64 host

def getUint8 : Getter .int :=
  checkedGet outsideByte (unsafeGetUint8 host)
def getInt8 : Getter .int :=
  checkedGet outsideByte (unsafeGetInt8 host)
def getUint16 : Getter .int :=
  checkedGet (outsideWord 2) (unsafeGetUint16 host)
def getInt16 : Getter .int :=
  checkedGet (outsideWord 2) (unsafeGetInt16 host)
def getUint31 : Getter .int :=
  checkedGet (outsideWord 4) (unsafeGetUint31 host)
def getInt31 : Getter .int :=
  checkedGet (outsideWord 4) (unsafeGetInt31 host)
def getInt32 : Getter .int32 :=
  checkedGet (outsideWord 4) (unsafeGetInt32 host)
def getUint63 : Getter .int :=
  checkedGet (outsideWord 8) (unsafeGetUint63 host)
def getInt63 : Getter .int :=
  checkedGet (outsideWord 8) (unsafeGetInt63 host)
def getInt64 : Getter .int64 :=
  checkedGet (outsideWord 8) (unsafeGetInt64 host)
def setUint8 : Setter .int :=
  checkedSet outsideByte (unsafeSetUint8 host)
def setInt8 : Setter .int :=
  checkedSet outsideByte (unsafeSetInt8 host)
def setUint16 : Setter .int :=
  checkedSet (outsideWord 2) (unsafeSetUint16 host)
def setInt16 : Setter .int :=
  checkedSet (outsideWord 2) (unsafeSetInt16 host)
def setUint31 : Setter .int :=
  checkedSet (outsideWord 4) (unsafeSetUint31 host)
def setInt31 : Setter .int :=
  checkedSet (outsideWord 4) (unsafeSetInt31 host)
def setInt32 : Setter .int32 :=
  checkedSet (outsideWord 4) (unsafeSetInt32 host)
def setUint63 : Setter .int :=
  checkedSet (outsideWord 8) (unsafeSetUint63 host)
def setInt63 : Setter .int :=
  checkedSet (outsideWord 8) (unsafeSetInt63 host)
def setInt64 : Setter .int64 :=
  checkedSet (outsideWord 8) (unsafeSetInt64 host)

end BigEndian

namespace LittleEndian

variable (host : ByteOrder)

def unsafeGetUint8 : Getter .int := getU8 host
def unsafeGetInt8 : Getter .int := getS8 host
def unsafeGetUint16 : Getter .int := getLu16 host
def unsafeGetInt16 : Getter .int := getLs16 host
def unsafeGetUint31 : Getter .int := getLu31 host
def unsafeGetInt31 : Getter .int := getLs31 host
def unsafeGetInt32 : Getter .int32 := getLs32 host
def unsafeGetUint63 : Getter .int := getLu63 host
def unsafeGetInt63 : Getter .int := getLs63 host
def unsafeGetInt64 : Getter .int64 := getLs64 host
def unsafeSetUint8 : Setter .int := set8 host
def unsafeSetInt8 : Setter .int := set8 host
def unsafeSetUint16 : Setter .int := setL16 host
def unsafeSetInt16 : Setter .int := setL16 host
def unsafeSetUint31 : Setter .int := setL31 host
def unsafeSetInt31 : Setter .int := setL31 host
def unsafeSetInt32 : Setter .int32 := setL32 host
def unsafeSetUint63 : Setter .int := setL63 host
def unsafeSetInt63 : Setter .int := setL63 host
def unsafeSetInt64 : Setter .int64 := setL64 host

def getUint8 : Getter .int :=
  checkedGet outsideByte (unsafeGetUint8 host)
def getInt8 : Getter .int :=
  checkedGet outsideByte (unsafeGetInt8 host)
def getUint16 : Getter .int :=
  checkedGet (outsideWord 2) (unsafeGetUint16 host)
def getInt16 : Getter .int :=
  checkedGet (outsideWord 2) (unsafeGetInt16 host)
def getUint31 : Getter .int :=
  checkedGet (outsideWord 4) (unsafeGetUint31 host)
def getInt31 : Getter .int :=
  checkedGet (outsideWord 4) (unsafeGetInt31 host)
def getInt32 : Getter .int32 :=
  checkedGet (outsideWord 4) (unsafeGetInt32 host)
def getUint63 : Getter .int :=
  checkedGet (outsideWord 8) (unsafeGetUint63 host)
def getInt63 : Getter .int :=
  checkedGet (outsideWord 8) (unsafeGetInt63 host)
def getInt64 : Getter .int64 :=
  checkedGet (outsideWord 8) (unsafeGetInt64 host)
def setUint8 : Setter .int :=
  checkedSet outsideByte (unsafeSetUint8 host)
def setInt8 : Setter .int :=
  checkedSet outsideByte (unsafeSetInt8 host)
def setUint16 : Setter .int :=
  checkedSet (outsideWord 2) (unsafeSetUint16 host)
def setInt16 : Setter .int :=
  checkedSet (outsideWord 2) (unsafeSetInt16 host)
def setUint31 : Setter .int :=
  checkedSet (outsideWord 4) (unsafeSetUint31 host)
def setInt31 : Setter .int :=
  checkedSet (outsideWord 4) (unsafeSetInt31 host)
def setInt32 : Setter .int32 :=
  checkedSet (outsideWord 4) (unsafeSetInt32 host)
def setUint63 : Setter .int :=
  checkedSet (outsideWord 8) (unsafeSetUint63 host)
def setInt63 : Setter .int :=
  checkedSet (outsideWord 8) (unsafeSetInt63 host)
def setInt64 : Setter .int64 :=
  checkedSet (outsideWord 8) (unsafeSetInt64 host)

end LittleEndian

namespace HostEndian

variable (host : ByteOrder)

def unsafeGetUint8 : Getter .int := getU8 host
def unsafeGetInt8 : Getter .int := getS8 host
def unsafeGetUint16 : Getter .int := getHu16 host
def unsafeGetInt16 : Getter .int := getHs16 host
def unsafeGetUint31 : Getter .int := getHu31 host
def unsafeGetInt31 : Getter .int := getHs31 host
def unsafeGetInt32 : Getter .int32 := getHs32 host
def unsafeGetUint63 : Getter .int := getHu63 host
def unsafeGetInt63 : Getter .int := getHs63 host
def unsafeGetInt64 : Getter .int64 := getHs64 host
def unsafeSetUint8 : Setter .int := set8 host
def unsafeSetInt8 : Setter .int := set8 host
def unsafeSetUint16 : Setter .int := setH16 host
def unsafeSetInt16 : Setter .int := setH16 host
def unsafeSetUint31 : Setter .int := setH31 host
def unsafeSetInt31 : Setter .int := setH31 host
def unsafeSetInt32 : Setter .int32 := setH32 host
def unsafeSetUint63 : Setter .int := setH63 host
def unsafeSetInt63 : Setter .int := setH63 host
def unsafeSetInt64 : Setter .int64 := setH64 host

def getUint8 : Getter .int :=
  checkedGet outsideByte (unsafeGetUint8 host)
def getInt8 : Getter .int :=
  checkedGet outsideByte (unsafeGetInt8 host)
def getUint16 : Getter .int :=
  checkedGet (outsideWord 2) (unsafeGetUint16 host)
def getInt16 : Getter .int :=
  checkedGet (outsideWord 2) (unsafeGetInt16 host)
def getUint31 : Getter .int :=
  checkedGet (outsideWord 4) (unsafeGetUint31 host)
def getInt31 : Getter .int :=
  checkedGet (outsideWord 4) (unsafeGetInt31 host)
def getInt32 : Getter .int32 :=
  checkedGet (outsideWord 4) (unsafeGetInt32 host)
def getUint63 : Getter .int :=
  checkedGet (outsideWord 8) (unsafeGetUint63 host)
def getInt63 : Getter .int :=
  checkedGet (outsideWord 8) (unsafeGetInt63 host)
def getInt64 : Getter .int64 :=
  checkedGet (outsideWord 8) (unsafeGetInt64 host)
def setUint8 : Setter .int :=
  checkedSet outsideByte (unsafeSetUint8 host)
def setInt8 : Setter .int :=
  checkedSet outsideByte (unsafeSetInt8 host)
def setUint16 : Setter .int :=
  checkedSet (outsideWord 2) (unsafeSetUint16 host)
def setInt16 : Setter .int :=
  checkedSet (outsideWord 2) (unsafeSetInt16 host)
def setUint31 : Setter .int :=
  checkedSet (outsideWord 4) (unsafeSetUint31 host)
def setInt31 : Setter .int :=
  checkedSet (outsideWord 4) (unsafeSetInt31 host)
def setInt32 : Setter .int32 :=
  checkedSet (outsideWord 4) (unsafeSetInt32 host)
def setUint63 : Setter .int :=
  checkedSet (outsideWord 8) (unsafeSetUint63 host)
def setInt63 : Setter .int :=
  checkedSet (outsideWord 8) (unsafeSetInt63 host)
def setInt64 : Setter .int64 :=
  checkedSet (outsideWord 8) (unsafeSetInt64 host)

end HostEndian

def get (host : ByteOrder) :
    Order → (layout : Layout) → Getter layout.box
  | .bigEndian, .uint8 => BigEndian.getUint8 host
  | .bigEndian, .int8 => BigEndian.getInt8 host
  | .bigEndian, .uint16 => BigEndian.getUint16 host
  | .bigEndian, .int16 => BigEndian.getInt16 host
  | .bigEndian, .uint31 => BigEndian.getUint31 host
  | .bigEndian, .int31 => BigEndian.getInt31 host
  | .bigEndian, .int32 => BigEndian.getInt32 host
  | .bigEndian, .uint63 => BigEndian.getUint63 host
  | .bigEndian, .int63 => BigEndian.getInt63 host
  | .bigEndian, .int64 => BigEndian.getInt64 host
  | .littleEndian, .uint8 => LittleEndian.getUint8 host
  | .littleEndian, .int8 => LittleEndian.getInt8 host
  | .littleEndian, .uint16 => LittleEndian.getUint16 host
  | .littleEndian, .int16 => LittleEndian.getInt16 host
  | .littleEndian, .uint31 => LittleEndian.getUint31 host
  | .littleEndian, .int31 => LittleEndian.getInt31 host
  | .littleEndian, .int32 => LittleEndian.getInt32 host
  | .littleEndian, .uint63 => LittleEndian.getUint63 host
  | .littleEndian, .int63 => LittleEndian.getInt63 host
  | .littleEndian, .int64 => LittleEndian.getInt64 host
  | .hostEndian, .uint8 => HostEndian.getUint8 host
  | .hostEndian, .int8 => HostEndian.getInt8 host
  | .hostEndian, .uint16 => HostEndian.getUint16 host
  | .hostEndian, .int16 => HostEndian.getInt16 host
  | .hostEndian, .uint31 => HostEndian.getUint31 host
  | .hostEndian, .int31 => HostEndian.getInt31 host
  | .hostEndian, .int32 => HostEndian.getInt32 host
  | .hostEndian, .uint63 => HostEndian.getUint63 host
  | .hostEndian, .int63 => HostEndian.getInt63 host
  | .hostEndian, .int64 => HostEndian.getInt64 host

def set (host : ByteOrder) :
    Order → (layout : Layout) → Setter layout.box
  | .bigEndian, .uint8 => BigEndian.setUint8 host
  | .bigEndian, .int8 => BigEndian.setInt8 host
  | .bigEndian, .uint16 => BigEndian.setUint16 host
  | .bigEndian, .int16 => BigEndian.setInt16 host
  | .bigEndian, .uint31 => BigEndian.setUint31 host
  | .bigEndian, .int31 => BigEndian.setInt31 host
  | .bigEndian, .int32 => BigEndian.setInt32 host
  | .bigEndian, .uint63 => BigEndian.setUint63 host
  | .bigEndian, .int63 => BigEndian.setInt63 host
  | .bigEndian, .int64 => BigEndian.setInt64 host
  | .littleEndian, .uint8 => LittleEndian.setUint8 host
  | .littleEndian, .int8 => LittleEndian.setInt8 host
  | .littleEndian, .uint16 => LittleEndian.setUint16 host
  | .littleEndian, .int16 => LittleEndian.setInt16 host
  | .littleEndian, .uint31 => LittleEndian.setUint31 host
  | .littleEndian, .int31 => LittleEndian.setInt31 host
  | .littleEndian, .int32 => LittleEndian.setInt32 host
  | .littleEndian, .uint63 => LittleEndian.setUint63 host
  | .littleEndian, .int63 => LittleEndian.setInt63 host
  | .littleEndian, .int64 => LittleEndian.setInt64 host
  | .hostEndian, .uint8 => HostEndian.setUint8 host
  | .hostEndian, .int8 => HostEndian.setInt8 host
  | .hostEndian, .uint16 => HostEndian.setUint16 host
  | .hostEndian, .int16 => HostEndian.setInt16 host
  | .hostEndian, .uint31 => HostEndian.setUint31 host
  | .hostEndian, .int31 => HostEndian.setInt31 host
  | .hostEndian, .int32 => HostEndian.setInt32 host
  | .hostEndian, .uint63 => HostEndian.setUint63 host
  | .hostEndian, .int63 => HostEndian.setInt63 host
  | .hostEndian, .int64 => HostEndian.setInt64 host

end BA

end ExtUnix.Endian
