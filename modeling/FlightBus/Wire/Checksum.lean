/-!
# The frame checksum

The checksum of a frame is the CRC-16/MCRF4XX of the covered bytes: polynomial `0x8408`
in reflected form and initial value `0xffff`.  `Checksum.step` takes a byte at a time by
shifts, and `Checksum.bitwiseStep` is the definition of the CRC bit by bit.

A message type contributes an extra byte, `Checksum.extra`, computed from its name and
the types and names of its fields, so that two parties that disagree on the layout of a
message reject each other's frames.
-/

namespace FlightBus

namespace Checksum

/-- The number of bytes of a checksum. -/
def size : Nat := 2

/-- The value before the first byte. -/
def initial : UInt16 := 0xffff

/-- The checksum after one more byte. -/
def step (crc : UInt16) (byte : UInt8) : UInt16 :=
  let low := byte ^^^ crc.toUInt8
  let mixed := (low ^^^ (low <<< 4)).toUInt16
  (crc >>> 8) ^^^ (mixed <<< 8) ^^^ (mixed <<< 3) ^^^ (mixed >>> 4)

/-- The checksum after more bytes. -/
def extend (crc : UInt16) (bytes : List UInt8) : UInt16 :=
  bytes.foldl step crc

/-- The checksum of a byte string. -/
def ofBytes (bytes : List UInt8) : UInt16 :=
  extend initial bytes

/-! ### Bit by bit -/

/-- The checksum register shifted right by one bit, with the polynomial added if the bit
shifted out was set. -/
def shiftBit (crc : UInt16) : UInt16 :=
  if crc &&& 1 = 1 then (crc >>> 1) ^^^ 0x8408 else crc >>> 1

/-- The checksum after one more byte, by eight shifts of one bit. -/
def bitwiseStep (crc : UInt16) (byte : UInt8) : UInt16 :=
  Nat.repeat shiftBit 8 (crc ^^^ byte.toUInt16)

/-- The checksum after more bytes, bit by bit. -/
def bitwiseExtend (crc : UInt16) (bytes : List UInt8) : UInt16 :=
  bytes.foldl bitwiseStep crc

end Checksum

/-- A field in the description of a message layout. -/
structure LayoutField where
  /-- The name of the base type, such as `uint16_t`. -/
  type : String
  /-- The name of the field. -/
  name : String
  /-- The number of elements of an array, and 0 for a scalar. -/
  arrayLength : UInt8 := 0
deriving DecidableEq, Repr

namespace Checksum

/-- The text of a field in the description of a layout: its type and its name, each
followed by a space, and the number of elements if it is an array. -/
def fieldText (field : LayoutField) : List UInt8 :=
  field.type.toUTF8.data.toList ++ [0x20] ++ field.name.toUTF8.data.toList ++ [0x20] ++
    if field.arrayLength = 0 then [] else [field.arrayLength]

/-- The text that describes a message type: its name and its base fields in wire order. -/
def layoutText (name : String) (fields : List LayoutField) : List UInt8 :=
  name.toUTF8.data.toList ++ [0x20] ++ fields.flatMap fieldText

/-- The extra byte of a message type: the two bytes of the checksum of its description,
added bitwise. -/
def extra (name : String) (fields : List LayoutField) : UInt8 :=
  let crc := ofBytes (layoutText name fields)
  crc.toUInt8 ^^^ (crc >>> 8).toUInt8

/-- The checksum of a frame: of the bytes that it covers, which are the header without the
marker and the payload, followed by the extra byte of the message type. -/
def ofFrame (covered : List UInt8) (crcExtra : UInt8) : UInt16 :=
  step (ofBytes covered) crcExtra

end Checksum

end FlightBus
