import FlightBus.Wire.LittleEndian

/-!
# Scalars on the wire

The payload of a message is made of integers of 8 to 64 bits and of floating-point
numbers of 32 and 64 bits, all written in little-endian order.  Floating-point numbers
are held by their bits: nothing on the bus computes with them, and every bit pattern has
to survive, the payloads of NaNs included.
-/

namespace FlightBus

/-- A floating-point number of 32 bits, held by its bits. -/
structure Single where
  /-- The bits of the number. -/
  bits : UInt32
deriving DecidableEq, Repr

/-- A floating-point number of 64 bits, held by its bits. -/
structure Double where
  /-- The bits of the number. -/
  bits : UInt64
deriving DecidableEq, Repr

/-- Zero, with the positive sign. -/
def Single.zero : Single := ⟨0⟩

/-- Zero, with the positive sign. -/
def Double.zero : Double := ⟨0⟩

/-- The kinds of scalars: unsigned and signed integers and floating-point numbers, with
their widths in bits. -/
inductive ScalarKind
  | u8
  | i8
  | u16
  | i16
  | u32
  | i32
  | u64
  | i64
  | f32
  | f64
deriving DecidableEq, Repr

namespace ScalarKind

/-- The values of the scalars of a kind. -/
abbrev Value : ScalarKind → Type
  | u8 => UInt8
  | i8 => Int8
  | u16 => UInt16
  | i16 => Int16
  | u32 => UInt32
  | i32 => Int32
  | u64 => UInt64
  | i64 => Int64
  | f32 => Single
  | f64 => Double

/-- The number of bytes of a scalar of a kind. -/
def width : ScalarKind → Nat
  | u8 | i8 => 1
  | u16 | i16 => 2
  | u32 | i32 | f32 => 4
  | u64 | i64 | f64 => 8

/-- The number whose little-endian bytes represent a value: two's complement for the
signed integers, the bits for the floating-point numbers. -/
def toBits : (kind : ScalarKind) → kind.Value → Nat
  | u8, v => v.toNat
  | i8, v => v.toUInt8.toNat
  | u16, v => v.toNat
  | i16, v => v.toUInt16.toNat
  | u32, v => v.toNat
  | i32, v => v.toUInt32.toNat
  | u64, v => v.toNat
  | i64, v => v.toUInt64.toNat
  | f32, v => v.bits.toNat
  | f64, v => v.bits.toNat

/-- The value that the low bits of a number represent. -/
def ofBits : (kind : ScalarKind) → Nat → kind.Value
  | u8, n => UInt8.ofNat n
  | i8, n => (UInt8.ofNat n).toInt8
  | u16, n => UInt16.ofNat n
  | i16, n => (UInt16.ofNat n).toInt16
  | u32, n => UInt32.ofNat n
  | i32, n => (UInt32.ofNat n).toInt32
  | u64, n => UInt64.ofNat n
  | i64, n => (UInt64.ofNat n).toInt64
  | f32, n => ⟨UInt32.ofNat n⟩
  | f64, n => ⟨UInt64.ofNat n⟩

/-- The bytes of a value. -/
def encode (kind : ScalarKind) (v : kind.Value) : List UInt8 :=
  LittleEndian.encode kind.width (kind.toBits v)

/-- The value of a byte string. -/
def decode (kind : ScalarKind) (bytes : List UInt8) : kind.Value :=
  kind.ofBits (LittleEndian.decode bytes)

@[simp]
theorem length_encode (kind : ScalarKind) (v : kind.Value) :
  (kind.encode v).length = kind.width
  := by
  apply LittleEndian.length_encode

/-- A value is determined by its bits. -/
theorem ofBits_toBits (kind : ScalarKind) (v : kind.Value) :
  kind.ofBits (kind.toBits v) = v
  := by
  cases kind <;> simp [ofBits, toBits]

/-- The bits of a value fit into its width. -/
theorem toBits_lt (kind : ScalarKind) (v : kind.Value) :
  kind.toBits v < LittleEndian.bound kind.width
  := by
  cases kind with
  | u8 => exact v.toNat_lt
  | i8 => exact v.toUInt8.toNat_lt
  | u16 => exact v.toNat_lt
  | i16 => exact v.toUInt16.toNat_lt
  | u32 => exact v.toNat_lt
  | i32 => exact v.toUInt32.toNat_lt
  | u64 => exact v.toNat_lt
  | i64 => exact v.toUInt64.toNat_lt
  | f32 => exact v.bits.toNat_lt
  | f64 => exact v.bits.toNat_lt

/-- Reading the bytes of a value gives the value back, bit for bit. -/
theorem decode_encode (kind : ScalarKind) (v : kind.Value) :
  kind.decode (kind.encode v) = v
  := by
  rw [decode, encode, LittleEndian.decode_encode, Nat.mod_eq_of_lt (kind.toBits_lt v),
    ofBits_toBits]

end ScalarKind

/-- A scalar: a value together with its kind. -/
abbrev Scalar := (kind : ScalarKind) × kind.Value

end FlightBus
