/-!
# Little-endian numbers

A number is written in a fixed number of bytes, the least significant first.  Writing
keeps the low bytes of a number that does not fit; reading what was written gives the
number back modulo the range of the width.
-/

namespace FlightBus

namespace LittleEndian

/-- The low `width` bytes of a number, the least significant first. -/
def encode : Nat → Nat → List UInt8
  | 0, _ => []
  | width + 1, n => UInt8.ofNat n :: encode width (n / 256)

/-- The number written by a byte string, the least significant byte first. -/
def decode : List UInt8 → Nat
  | [] => 0
  | b :: bytes => b.toNat + 256 * decode bytes

/-- The number of the numbers that fit into `width` bytes. -/
def bound : Nat → Nat
  | 0 => 1
  | width + 1 => 256 * bound width

@[simp]
theorem length_encode (width n : Nat) :
  (encode width n).length = width
  := by
  induction width generalizing n with
  | zero => rfl
  | succ width ih => simp [encode, ih]

theorem decode_encode (width n : Nat) :
  decode (encode width n) = n % bound width
  := by
  induction width generalizing n with
  | zero => simp [encode, decode, bound, Nat.mod_one]
  | succ width ih =>
      rw [encode, decode, ih, bound, Nat.mod_mul, UInt8.toNat_ofNat']

theorem encode_decode (bytes : List UInt8) :
  encode bytes.length (decode bytes) = bytes
  := by
  induction bytes with
  | nil => rfl
  | cons b bytes ih =>
      have hb := b.toNat_lt
      have hhead : UInt8.ofNat (b.toNat + 256 * decode bytes) = b := by
        apply UInt8.toNat_inj.mp
        rw [UInt8.toNat_ofNat']
        omega
      have htail : (b.toNat + 256 * decode bytes) / 256 = decode bytes := by omega
      rw [List.length_cons, decode, encode, hhead, htail, ih]

end LittleEndian

end FlightBus
