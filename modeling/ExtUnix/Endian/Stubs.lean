import ExtUnix.Data.Radix
import ExtUnix.Runtime.Word

namespace ExtUnix.Endian

open ExtUnix.Data
open ExtUnix.Runtime

/-! `endian.c` on a 64-bit platform. -/

structure CType where
  bytes : Nat
  signed : Bool

namespace CType

abbrev Value (type : CType) : Type := BitVec (8 * type.bytes)

def toInt (type : CType) (value : type.Value) : Int :=
  if type.signed then BitVec.toInt value else BitVec.toNat value

def ofInt (type : CType) (value : Int) : type.Value :=
  BitVec.ofInt (8 * type.bytes) value

def convert (source target : CType) (value : source.Value) : target.Value :=
  target.ofInt (source.toInt value)

end CType

def uint8T : CType := ⟨1, false⟩
def int8T : CType := ⟨1, true⟩
def uint16T : CType := ⟨2, false⟩
def int16T : CType := ⟨2, true⟩
def uint32T : CType := ⟨4, false⟩
def int32T : CType := ⟨4, true⟩
def uint64T : CType := ⟨8, false⟩
def int64T : CType := ⟨8, true⟩

inductive Box where
  | int
  | int32
  | int64
  deriving DecidableEq

namespace Box

def bits : Box → Nat
  | .int => 63
  | .int32 => 32
  | .int64 => 64

abbrev Value (box : Box) : Type := BitVec box.bits

/-- The C type on the other side of `Long_val`, `Int32_val` and `Int64_val`;
`intnat` has 64 bits. -/
def ctype : Box → CType
  | .int => int64T
  | .int32 => int32T
  | .int64 => int64T

def unbox : (box : Box) → box.Value → box.ctype.Value
  | .int, value => longVal value
  | .int32, value => value
  | .int64, value => value

def ofC : (box : Box) → box.ctype.Value → box.Value
  | .int, value => valLong value
  | .int32, value => value
  | .int64, value => value

def toInt (box : Box) (value : box.Value) : Int := BitVec.toInt value

end Box

/-- How an access to a string ends; `outOfBounds` is a copy that leaves it. -/
inductive Access (α : Type) where
  | done (value : α)
  | invalidArgument (message : String)
  | outOfBounds
  deriving DecidableEq

def Access.map (f : α → β) : Access α → Access β
  | .done value => .done (f value)
  | .invalidArgument message => .invalidArgument message
  | .outOfBounds => .outOfBounds

abbrev Getter (box : Box) := Buffer → CamlInt → Access box.Value

abbrev Setter (box : Box) :=
  Buffer → CamlInt → box.Value → Buffer × Access Unit

abbrev Converter (box : Box) := box.Value → box.Value

section Macros

variable (type : CType) (conv : type.Value → type.Value) (box : Box)

/-- `CONV(name, type, conv, type_val, val_type)`. -/
def convStub : Converter box := fun vX =>
  let x := box.ctype.convert type (box.unbox vX)
  box.ofC (type.convert box.ctype (conv x))

/-- `GET(name, type, conv, Val_type)`: `memcpy` fills `x` in host order. -/
def getStub (host : ByteOrder) : Getter box := fun vStr vOff =>
  match load vStr (longVal vOff) type.bytes with
  | none => .outOfBounds
  | some bytes =>
      let x : type.Value := host.word type.bytes bytes
      .done (box.ofC (type.convert box.ctype (conv x)))

/-- `SET(name, type, conv, Type_val)`. -/
def setStub (host : ByteOrder) : Setter box := fun vStr vOff vX =>
  let x := conv (box.ctype.convert type (box.unbox vX))
  let bytes := host.digits type.bytes (BitVec.toNat x)
  match store vStr (longVal vOff) bytes with
  | none => (vStr, .outOfBounds)
  | some stored => (stored, .done ())

end Macros

/-! The byte order functions of `<endian.h>`.  Their argument and result are
unsigned, but assigning them to a signed variable of the same width keeps the
bits. -/

section Conversions

variable (host : ByteOrder)

def htobe {count : Nat} (x : BitVec (8 * count)) : BitVec (8 * count) :=
  match host with
  | .big => x
  | .little => swapBytes x

def htole {count : Nat} (x : BitVec (8 * count)) : BitVec (8 * count) :=
  match host with
  | .big => swapBytes x
  | .little => x

def htobe16 (x : BitVec (8 * 2)) : BitVec (8 * 2) := htobe host x
def be16toh (x : BitVec (8 * 2)) : BitVec (8 * 2) := htobe host x
def htobe32 (x : BitVec (8 * 4)) : BitVec (8 * 4) := htobe host x
def be32toh (x : BitVec (8 * 4)) : BitVec (8 * 4) := htobe host x
def htobe64 (x : BitVec (8 * 8)) : BitVec (8 * 8) := htobe host x
def be64toh (x : BitVec (8 * 8)) : BitVec (8 * 8) := htobe host x
def htole16 (x : BitVec (8 * 2)) : BitVec (8 * 2) := htole host x
def le16toh (x : BitVec (8 * 2)) : BitVec (8 * 2) := htole host x
def htole32 (x : BitVec (8 * 4)) : BitVec (8 * 4) := htole host x
def le32toh (x : BitVec (8 * 4)) : BitVec (8 * 4) := htole host x
def htole64 (x : BitVec (8 * 8)) : BitVec (8 * 8) := htole host x
def le64toh (x : BitVec (8 * 8)) : BitVec (8 * 8) := htole host x

end Conversions

section Stubs

variable (host : ByteOrder)

def camlHtobe16 : Converter .int := convStub uint16T (htobe16 host) .int
def camlHtobe16Signed : Converter .int := convStub int16T (htobe16 host) .int
def camlBe16toh : Converter .int := convStub uint16T (be16toh host) .int
def camlBe16tohSigned : Converter .int := convStub int16T (be16toh host) .int
def camlHtobe31 : Converter .int := convStub uint32T (htobe32 host) .int
def camlHtobe31Signed : Converter .int := convStub int32T (htobe32 host) .int
def camlBe31toh : Converter .int := convStub uint32T (be32toh host) .int
def camlBe31tohSigned : Converter .int := convStub int32T (be32toh host) .int
def camlHtobe32 : Converter .int32 := convStub int32T (htobe32 host) .int32
def camlBe32toh : Converter .int32 := convStub int32T (be32toh host) .int32
def camlHtobe64 : Converter .int64 := convStub int64T (htobe64 host) .int64
def camlBe64toh : Converter .int64 := convStub int64T (be64toh host) .int64
def getBu16 : Getter .int := getStub uint16T (be16toh host) .int host
def getBs16 : Getter .int := getStub int16T (be16toh host) .int host
def getBu31 : Getter .int := getStub uint32T (be32toh host) .int host
def getBs31 : Getter .int := getStub int32T (be32toh host) .int host
def getBs32 : Getter .int32 := getStub int32T (be32toh host) .int32 host
def getBu63 : Getter .int := getStub uint64T (be64toh host) .int host
def getBs63 : Getter .int := getStub int64T (be64toh host) .int host
def getBs64 : Getter .int64 := getStub int64T (be64toh host) .int64 host
def setB16 : Setter .int := setStub uint16T (htobe16 host) .int host
def setB31 : Setter .int := setStub uint32T (htobe32 host) .int host
def setB32 : Setter .int32 := setStub uint32T (htobe32 host) .int32 host
def setB63 : Setter .int := setStub uint64T (htobe64 host) .int host
def setB64 : Setter .int64 := setStub uint64T (htobe64 host) .int64 host

def camlHtole16 : Converter .int := convStub uint16T (htole16 host) .int
def camlHtole16Signed : Converter .int := convStub int16T (htole16 host) .int
def camlLe16toh : Converter .int := convStub uint16T (le16toh host) .int
def camlLe16tohSigned : Converter .int := convStub int16T (le16toh host) .int
def camlHtole31 : Converter .int := convStub uint32T (htole32 host) .int
def camlHtole31Signed : Converter .int := convStub int32T (htole32 host) .int
def camlLe31toh : Converter .int := convStub uint32T (le32toh host) .int
def camlLe31tohSigned : Converter .int := convStub int32T (le32toh host) .int
def camlHtole32 : Converter .int32 := convStub int32T (htole32 host) .int32
def camlLe32toh : Converter .int32 := convStub int32T (le32toh host) .int32
def camlHtole64 : Converter .int64 := convStub int64T (htole64 host) .int64
def camlLe64toh : Converter .int64 := convStub int64T (le64toh host) .int64
def getLu16 : Getter .int := getStub uint16T (le16toh host) .int host
def getLs16 : Getter .int := getStub int16T (le16toh host) .int host
def getLu31 : Getter .int := getStub uint32T (le32toh host) .int host
def getLs31 : Getter .int := getStub int32T (le32toh host) .int host
def getLs32 : Getter .int32 := getStub int32T (le32toh host) .int32 host
def getLu63 : Getter .int := getStub uint64T (le64toh host) .int host
def getLs63 : Getter .int := getStub int64T (le64toh host) .int host
def getLs64 : Getter .int64 := getStub int64T (le64toh host) .int64 host
def setL16 : Setter .int := setStub uint16T (htole16 host) .int host
def setL31 : Setter .int := setStub uint32T (htole32 host) .int host
def setL32 : Setter .int32 := setStub uint32T (htole32 host) .int32 host
def setL63 : Setter .int := setStub uint64T (htole64 host) .int host
def setL64 : Setter .int64 := setStub uint64T (htole64 host) .int64 host

def getU8 : Getter .int := getStub uint8T id .int host
def getS8 : Getter .int := getStub int8T id .int host
def getHu16 : Getter .int := getStub uint16T id .int host
def getHs16 : Getter .int := getStub int16T id .int host
def getHu31 : Getter .int := getStub uint32T id .int host
def getHs31 : Getter .int := getStub int32T id .int host
def getHs32 : Getter .int32 := getStub int32T id .int32 host
def getHu63 : Getter .int := getStub uint64T id .int host
def getHs63 : Getter .int := getStub int64T id .int host
def getHs64 : Getter .int64 := getStub int64T id .int64 host
def set8 : Setter .int := setStub uint8T id .int host
def setH16 : Setter .int := setStub uint16T id .int host
def setH31 : Setter .int := setStub uint32T id .int host
def setH32 : Setter .int32 := setStub uint32T id .int32 host
def setH63 : Setter .int := setStub uint64T id .int host
def setH64 : Setter .int64 := setStub uint64T id .int64 host

end Stubs

end ExtUnix.Endian
