import ExtUnix.Endian.Stubs

namespace ExtUnix.Endian

open ExtUnix.Data
open ExtUnix.Runtime

/-! The OCaml modules over the stubs. -/

def outsideByte (str : Buffer) (off : CamlInt) : Bool :=
  off.slt 0 || str.length.sle off

def outsideWord (width : CamlInt) (str : Buffer) (off : CamlInt) : Bool :=
  off.slt 0 || (str.length - width).slt off

def checkedGet (outside : Buffer → CamlInt → Bool) (unsafeGet : Getter box) :
    Getter box := fun str off =>
  if outside str off then .invalidArgument "index out of bounds"
  else unsafeGet str off

def checkedSet (outside : Buffer → CamlInt → Bool) (unsafeSet : Setter box) :
    Setter box := fun str off v =>
  if outside str off then (str, .invalidArgument "index out of bounds")
  else unsafeSet str off v

namespace BigEndian

variable (host : ByteOrder)

def uint16FromHost : Converter .int := camlHtobe16 host
def int16FromHost : Converter .int := camlHtobe16Signed host
def uint16ToHost : Converter .int := camlBe16toh host
def int16ToHost : Converter .int := camlBe16tohSigned host
def uint31FromHost : Converter .int := camlHtobe31 host
def int31FromHost : Converter .int := camlHtobe31Signed host
def uint31ToHost : Converter .int := camlBe31toh host
def int31ToHost : Converter .int := camlBe31tohSigned host
def int32FromHost : Converter .int32 := camlHtobe32 host
def int32ToHost : Converter .int32 := camlBe32toh host
def int64FromHost : Converter .int64 := camlHtobe64 host
def int64ToHost : Converter .int64 := camlBe64toh host
def unsafeGetUint8 : Getter .int := getU8 host
def unsafeGetInt8 : Getter .int := getS8 host
def unsafeGetUint16 : Getter .int := getBu16 host
def unsafeGetInt16 : Getter .int := getBs16 host
def unsafeGetUint31 : Getter .int := getBu31 host
def unsafeGetInt31 : Getter .int := getBs31 host
def unsafeGetInt32 : Getter .int32 := getBs32 host
def unsafeGetUint63 : Getter .int := getBu63 host
def unsafeGetInt63 : Getter .int := getBs63 host
def unsafeGetInt64 : Getter .int64 := getBs64 host
def unsafeSetUint8 : Setter .int := set8 host
def unsafeSetInt8 : Setter .int := set8 host
def unsafeSetUint16 : Setter .int := setB16 host
def unsafeSetInt16 : Setter .int := setB16 host
def unsafeSetUint31 : Setter .int := setB31 host
def unsafeSetInt31 : Setter .int := setB31 host
def unsafeSetInt32 : Setter .int32 := setB32 host
def unsafeSetUint63 : Setter .int := setB63 host
def unsafeSetInt63 : Setter .int := setB63 host
def unsafeSetInt64 : Setter .int64 := setB64 host

def getUint8 : Getter .int :=
  checkedGet outsideByte (unsafeGetUint8 host)
def getInt8 : Getter .int :=
  checkedGet outsideByte (unsafeGetInt8 host)
def getUint16 : Getter .int :=
  checkedGet (outsideWord 2) (unsafeGetUint16 host)
def getInt16 : Getter .int :=
  checkedGet (outsideWord 2) (unsafeGetInt16 host)
def getUint31 : Getter .int :=
  checkedGet (outsideWord 4) (unsafeGetUint31 host)
def getInt31 : Getter .int :=
  checkedGet (outsideWord 4) (unsafeGetInt31 host)
def getInt32 : Getter .int32 :=
  checkedGet (outsideWord 4) (unsafeGetInt32 host)
def getUint63 : Getter .int :=
  checkedGet (outsideWord 8) (unsafeGetUint63 host)
def getInt63 : Getter .int :=
  checkedGet (outsideWord 8) (unsafeGetInt63 host)
def getInt64 : Getter .int64 :=
  checkedGet (outsideWord 8) (unsafeGetInt64 host)
def setUint8 : Setter .int :=
  checkedSet outsideByte (unsafeSetUint8 host)
def setInt8 : Setter .int :=
  checkedSet outsideByte (unsafeSetInt8 host)
def setUint16 : Setter .int :=
  checkedSet (outsideWord 2) (unsafeSetUint16 host)
def setInt16 : Setter .int :=
  checkedSet (outsideWord 2) (unsafeSetInt16 host)
def setUint31 : Setter .int :=
  checkedSet (outsideWord 4) (unsafeSetUint31 host)
def setInt31 : Setter .int :=
  checkedSet (outsideWord 4) (unsafeSetInt31 host)
def setInt32 : Setter .int32 :=
  checkedSet (outsideWord 4) (unsafeSetInt32 host)
def setUint63 : Setter .int :=
  checkedSet (outsideWord 8) (unsafeSetUint63 host)
def setInt63 : Setter .int :=
  checkedSet (outsideWord 8) (unsafeSetInt63 host)
def setInt64 : Setter .int64 :=
  checkedSet (outsideWord 8) (unsafeSetInt64 host)

end BigEndian

namespace LittleEndian

variable (host : ByteOrder)

def uint16FromHost : Converter .int := camlHtole16 host
def int16FromHost : Converter .int := camlHtole16Signed host
def uint16ToHost : Converter .int := camlLe16toh host
def int16ToHost : Converter .int := camlLe16tohSigned host
def uint31FromHost : Converter .int := camlHtole31 host
def int31FromHost : Converter .int := camlHtole31Signed host
def uint31ToHost : Converter .int := camlLe31toh host
def int31ToHost : Converter .int := camlLe31tohSigned host
def int32FromHost : Converter .int32 := camlHtole32 host
def int32ToHost : Converter .int32 := camlLe32toh host
def int64FromHost : Converter .int64 := camlHtole64 host
def int64ToHost : Converter .int64 := camlLe64toh host
def unsafeGetUint8 : Getter .int := getU8 host
def unsafeGetInt8 : Getter .int := getS8 host
def unsafeGetUint16 : Getter .int := getLu16 host
def unsafeGetInt16 : Getter .int := getLs16 host
def unsafeGetUint31 : Getter .int := getLu31 host
def unsafeGetInt31 : Getter .int := getLs31 host
def unsafeGetInt32 : Getter .int32 := getLs32 host
def unsafeGetUint63 : Getter .int := getLu63 host
def unsafeGetInt63 : Getter .int := getLs63 host
def unsafeGetInt64 : Getter .int64 := getLs64 host
def unsafeSetUint8 : Setter .int := set8 host
def unsafeSetInt8 : Setter .int := set8 host
def unsafeSetUint16 : Setter .int := setL16 host
def unsafeSetInt16 : Setter .int := setL16 host
def unsafeSetUint31 : Setter .int := setL31 host
def unsafeSetInt31 : Setter .int := setL31 host
def unsafeSetInt32 : Setter .int32 := setL32 host
def unsafeSetUint63 : Setter .int := setL63 host
def unsafeSetInt63 : Setter .int := setL63 host
def unsafeSetInt64 : Setter .int64 := setL64 host

def getUint8 : Getter .int :=
  checkedGet outsideByte (unsafeGetUint8 host)
def getInt8 : Getter .int :=
  checkedGet outsideByte (unsafeGetInt8 host)
def getUint16 : Getter .int :=
  checkedGet (outsideWord 2) (unsafeGetUint16 host)
def getInt16 : Getter .int :=
  checkedGet (outsideWord 2) (unsafeGetInt16 host)
def getUint31 : Getter .int :=
  checkedGet (outsideWord 4) (unsafeGetUint31 host)
def getInt31 : Getter .int :=
  checkedGet (outsideWord 4) (unsafeGetInt31 host)
def getInt32 : Getter .int32 :=
  checkedGet (outsideWord 4) (unsafeGetInt32 host)
def getUint63 : Getter .int :=
  checkedGet (outsideWord 8) (unsafeGetUint63 host)
def getInt63 : Getter .int :=
  checkedGet (outsideWord 8) (unsafeGetInt63 host)
def getInt64 : Getter .int64 :=
  checkedGet (outsideWord 8) (unsafeGetInt64 host)
def setUint8 : Setter .int :=
  checkedSet outsideByte (unsafeSetUint8 host)
def setInt8 : Setter .int :=
  checkedSet outsideByte (unsafeSetInt8 host)
def setUint16 : Setter .int :=
  checkedSet (outsideWord 2) (unsafeSetUint16 host)
def setInt16 : Setter .int :=
  checkedSet (outsideWord 2) (unsafeSetInt16 host)
def setUint31 : Setter .int :=
  checkedSet (outsideWord 4) (unsafeSetUint31 host)
def setInt31 : Setter .int :=
  checkedSet (outsideWord 4) (unsafeSetInt31 host)
def setInt32 : Setter .int32 :=
  checkedSet (outsideWord 4) (unsafeSetInt32 host)
def setUint63 : Setter .int :=
  checkedSet (outsideWord 8) (unsafeSetUint63 host)
def setInt63 : Setter .int :=
  checkedSet (outsideWord 8) (unsafeSetInt63 host)
def setInt64 : Setter .int64 :=
  checkedSet (outsideWord 8) (unsafeSetInt64 host)

end LittleEndian

namespace HostEndian

variable (host : ByteOrder)

def unsafeGetUint8 : Getter .int := getU8 host
def unsafeGetInt8 : Getter .int := getS8 host
def unsafeGetUint16 : Getter .int := getHu16 host
def unsafeGetInt16 : Getter .int := getHs16 host
def unsafeGetUint31 : Getter .int := getHu31 host
def unsafeGetInt31 : Getter .int := getHs31 host
def unsafeGetInt32 : Getter .int32 := getHs32 host
def unsafeGetUint63 : Getter .int := getHu63 host
def unsafeGetInt63 : Getter .int := getHs63 host
def unsafeGetInt64 : Getter .int64 := getHs64 host
def unsafeSetUint8 : Setter .int := set8 host
def unsafeSetInt8 : Setter .int := set8 host
def unsafeSetUint16 : Setter .int := setH16 host
def unsafeSetInt16 : Setter .int := setH16 host
def unsafeSetUint31 : Setter .int := setH31 host
def unsafeSetInt31 : Setter .int := setH31 host
def unsafeSetInt32 : Setter .int32 := setH32 host
def unsafeSetUint63 : Setter .int := setH63 host
def unsafeSetInt63 : Setter .int := setH63 host
def unsafeSetInt64 : Setter .int64 := setH64 host

def getUint8 : Getter .int :=
  checkedGet outsideByte (unsafeGetUint8 host)
def getInt8 : Getter .int :=
  checkedGet outsideByte (unsafeGetInt8 host)
def getUint16 : Getter .int :=
  checkedGet (outsideWord 2) (unsafeGetUint16 host)
def getInt16 : Getter .int :=
  checkedGet (outsideWord 2) (unsafeGetInt16 host)
def getUint31 : Getter .int :=
  checkedGet (outsideWord 4) (unsafeGetUint31 host)
def getInt31 : Getter .int :=
  checkedGet (outsideWord 4) (unsafeGetInt31 host)
def getInt32 : Getter .int32 :=
  checkedGet (outsideWord 4) (unsafeGetInt32 host)
def getUint63 : Getter .int :=
  checkedGet (outsideWord 8) (unsafeGetUint63 host)
def getInt63 : Getter .int :=
  checkedGet (outsideWord 8) (unsafeGetInt63 host)
def getInt64 : Getter .int64 :=
  checkedGet (outsideWord 8) (unsafeGetInt64 host)
def setUint8 : Setter .int :=
  checkedSet outsideByte (unsafeSetUint8 host)
def setInt8 : Setter .int :=
  checkedSet outsideByte (unsafeSetInt8 host)
def setUint16 : Setter .int :=
  checkedSet (outsideWord 2) (unsafeSetUint16 host)
def setInt16 : Setter .int :=
  checkedSet (outsideWord 2) (unsafeSetInt16 host)
def setUint31 : Setter .int :=
  checkedSet (outsideWord 4) (unsafeSetUint31 host)
def setInt31 : Setter .int :=
  checkedSet (outsideWord 4) (unsafeSetInt31 host)
def setInt32 : Setter .int32 :=
  checkedSet (outsideWord 4) (unsafeSetInt32 host)
def setUint63 : Setter .int :=
  checkedSet (outsideWord 8) (unsafeSetUint63 host)
def setInt63 : Setter .int :=
  checkedSet (outsideWord 8) (unsafeSetInt63 host)
def setInt64 : Setter .int64 :=
  checkedSet (outsideWord 8) (unsafeSetInt64 host)

end HostEndian

inductive Order where
  | bigEndian
  | littleEndian
  | hostEndian
  deriving DecidableEq

inductive Layout where
  | uint8
  | int8
  | uint16
  | int16
  | uint31
  | int31
  | int32
  | uint63
  | int63
  | int64
  deriving DecidableEq

def Layout.box : Layout → Box
  | .int32 => .int32
  | .int64 => .int64
  | _ => .int

def Layout.type : Layout → CType
  | .uint8 => uint8T
  | .int8 => int8T
  | .uint16 => uint16T
  | .int16 => int16T
  | .uint31 => uint32T
  | .int31 | .int32 => int32T
  | .uint63 => uint64T
  | .int63 | .int64 => int64T

abbrev Layout.width (layout : Layout) : Nat := layout.type.bytes

def get (host : ByteOrder) :
    Order → (layout : Layout) → Getter layout.box
  | .bigEndian, .uint8 => BigEndian.getUint8 host
  | .bigEndian, .int8 => BigEndian.getInt8 host
  | .bigEndian, .uint16 => BigEndian.getUint16 host
  | .bigEndian, .int16 => BigEndian.getInt16 host
  | .bigEndian, .uint31 => BigEndian.getUint31 host
  | .bigEndian, .int31 => BigEndian.getInt31 host
  | .bigEndian, .int32 => BigEndian.getInt32 host
  | .bigEndian, .uint63 => BigEndian.getUint63 host
  | .bigEndian, .int63 => BigEndian.getInt63 host
  | .bigEndian, .int64 => BigEndian.getInt64 host
  | .littleEndian, .uint8 => LittleEndian.getUint8 host
  | .littleEndian, .int8 => LittleEndian.getInt8 host
  | .littleEndian, .uint16 => LittleEndian.getUint16 host
  | .littleEndian, .int16 => LittleEndian.getInt16 host
  | .littleEndian, .uint31 => LittleEndian.getUint31 host
  | .littleEndian, .int31 => LittleEndian.getInt31 host
  | .littleEndian, .int32 => LittleEndian.getInt32 host
  | .littleEndian, .uint63 => LittleEndian.getUint63 host
  | .littleEndian, .int63 => LittleEndian.getInt63 host
  | .littleEndian, .int64 => LittleEndian.getInt64 host
  | .hostEndian, .uint8 => HostEndian.getUint8 host
  | .hostEndian, .int8 => HostEndian.getInt8 host
  | .hostEndian, .uint16 => HostEndian.getUint16 host
  | .hostEndian, .int16 => HostEndian.getInt16 host
  | .hostEndian, .uint31 => HostEndian.getUint31 host
  | .hostEndian, .int31 => HostEndian.getInt31 host
  | .hostEndian, .int32 => HostEndian.getInt32 host
  | .hostEndian, .uint63 => HostEndian.getUint63 host
  | .hostEndian, .int63 => HostEndian.getInt63 host
  | .hostEndian, .int64 => HostEndian.getInt64 host

def set (host : ByteOrder) :
    Order → (layout : Layout) → Setter layout.box
  | .bigEndian, .uint8 => BigEndian.setUint8 host
  | .bigEndian, .int8 => BigEndian.setInt8 host
  | .bigEndian, .uint16 => BigEndian.setUint16 host
  | .bigEndian, .int16 => BigEndian.setInt16 host
  | .bigEndian, .uint31 => BigEndian.setUint31 host
  | .bigEndian, .int31 => BigEndian.setInt31 host
  | .bigEndian, .int32 => BigEndian.setInt32 host
  | .bigEndian, .uint63 => BigEndian.setUint63 host
  | .bigEndian, .int63 => BigEndian.setInt63 host
  | .bigEndian, .int64 => BigEndian.setInt64 host
  | .littleEndian, .uint8 => LittleEndian.setUint8 host
  | .littleEndian, .int8 => LittleEndian.setInt8 host
  | .littleEndian, .uint16 => LittleEndian.setUint16 host
  | .littleEndian, .int16 => LittleEndian.setInt16 host
  | .littleEndian, .uint31 => LittleEndian.setUint31 host
  | .littleEndian, .int31 => LittleEndian.setInt31 host
  | .littleEndian, .int32 => LittleEndian.setInt32 host
  | .littleEndian, .uint63 => LittleEndian.setUint63 host
  | .littleEndian, .int63 => LittleEndian.setInt63 host
  | .littleEndian, .int64 => LittleEndian.setInt64 host
  | .hostEndian, .uint8 => HostEndian.setUint8 host
  | .hostEndian, .int8 => HostEndian.setInt8 host
  | .hostEndian, .uint16 => HostEndian.setUint16 host
  | .hostEndian, .int16 => HostEndian.setInt16 host
  | .hostEndian, .uint31 => HostEndian.setUint31 host
  | .hostEndian, .int31 => HostEndian.setInt31 host
  | .hostEndian, .int32 => HostEndian.setInt32 host
  | .hostEndian, .uint63 => HostEndian.setUint63 host
  | .hostEndian, .int63 => HostEndian.setInt63 host
  | .hostEndian, .int64 => HostEndian.setInt64 host

inductive Converted where
  | uint16
  | int16
  | uint31
  | int31
  | int32
  | int64
  deriving DecidableEq

def Converted.layout : Converted → Layout
  | .uint16 => .uint16
  | .int16 => .int16
  | .uint31 => .uint31
  | .int31 => .int31
  | .int32 => .int32
  | .int64 => .int64

def fromHost (host : ByteOrder) :
    ByteOrder → (converted : Converted) → Converter converted.layout.box
  | .big, .uint16 => BigEndian.uint16FromHost host
  | .big, .int16 => BigEndian.int16FromHost host
  | .big, .uint31 => BigEndian.uint31FromHost host
  | .big, .int31 => BigEndian.int31FromHost host
  | .big, .int32 => BigEndian.int32FromHost host
  | .big, .int64 => BigEndian.int64FromHost host
  | .little, .uint16 => LittleEndian.uint16FromHost host
  | .little, .int16 => LittleEndian.int16FromHost host
  | .little, .uint31 => LittleEndian.uint31FromHost host
  | .little, .int31 => LittleEndian.int31FromHost host
  | .little, .int32 => LittleEndian.int32FromHost host
  | .little, .int64 => LittleEndian.int64FromHost host

def toHost (host : ByteOrder) :
    ByteOrder → (converted : Converted) → Converter converted.layout.box
  | .big, .uint16 => BigEndian.uint16ToHost host
  | .big, .int16 => BigEndian.int16ToHost host
  | .big, .uint31 => BigEndian.uint31ToHost host
  | .big, .int31 => BigEndian.int31ToHost host
  | .big, .int32 => BigEndian.int32ToHost host
  | .big, .int64 => BigEndian.int64ToHost host
  | .little, .uint16 => LittleEndian.uint16ToHost host
  | .little, .int16 => LittleEndian.int16ToHost host
  | .little, .uint31 => LittleEndian.uint31ToHost host
  | .little, .int31 => LittleEndian.int31ToHost host
  | .little, .int32 => LittleEndian.int32ToHost host
  | .little, .int64 => LittleEndian.int64ToHost host

end ExtUnix.Endian
