import FlightBus.Wire.Checksum
import Mathlib.Tactic.Use

/-!
# The checksum as a code

A step shifts the register down by a byte and adds the `twist` of the byte that is shifted
out and the byte that is taken in.  Eight shifts of one bit do the same: they are linear,
shift an upper byte down as it is, and leave of a low byte its twist.  So the checksum is
the CRC of its bytes, in whatever pieces these are fed to it.

A byte is known from the upper byte of its twist, and a step leaves the upper byte of the
twist as it is.  So a step with a given byte loses nothing of the register, and two steps in
a row lose nothing of the two bytes: byte strings of the same length that differ, but only
in two places next to each other, have different checksums.
-/

namespace FlightBus

namespace Checksum

/-- What the byte that is shifted out of the register and the byte that is taken in, added
bitwise, leave in the register. -/
def twist (b : UInt8) : UInt16 :=
  let mixed := (b ^^^ (b <<< 4)).toUInt16
  (mixed <<< 8) ^^^ (mixed <<< 3) ^^^ (mixed >>> 4)

/-- The byte whose twist has a given upper byte. -/
def untwist (upper : UInt8) : UInt8 :=
  let mixed := upper ^^^ (upper >>> 5)
  mixed ^^^ (mixed <<< 4)

theorem step_eq (crc : UInt16) (byte : UInt8) :
  step crc byte = (crc >>> 8) ^^^ twist (byte ^^^ crc.toUInt8)
  := by
  simp only [step, twist, UInt16.xor_assoc]

/-! ### Bytes of the register -/

/-- What holds of the bytes of all numbers below 256 holds of every byte. -/
theorem forall_byte {P : UInt8 → Prop} (h : ∀ n < 256, P (UInt8.ofNat n)) (b : UInt8) :
  P b
  := by
  have hb := h b.toNat b.toNat_lt
  rw [UInt8.ofNat_toNat] at hb
  apply hb

theorem upper_toUInt16 (b : UInt8) :
  b.toUInt16 >>> 8 = 0
  := by
  have hb := b.toNat_lt
  apply UInt16.toNat_inj.mp
  simp [Nat.shiftRight_eq_div_pow]
  omega

theorem upper_upper (crc : UInt16) :
  crc >>> 8 >>> 8 = 0
  := by
  have hcrc := crc.toNat_lt
  apply UInt16.toNat_inj.mp
  simp [Nat.shiftRight_eq_div_pow]
  omega

theorem toUInt16_upper (crc : UInt16) :
  (crc >>> 8).toUInt8.toUInt16 = crc >>> 8
  := by
  have hcrc := crc.toNat_lt
  apply UInt16.toNat_inj.mp
  simp [Nat.shiftRight_eq_div_pow]
  omega

/-- A register is the sum of its upper byte and its low byte. -/
theorem upper_xor_lower (crc : UInt16) :
  ((crc >>> 8) <<< 8) ^^^ crc.toUInt8.toUInt16 = crc
  := by
  have height : (8 : UInt16).toNat % 16 = 8 := rfl
  apply UInt16.toNat_inj.mp
  apply Nat.eq_of_testBit_eq
  intro i
  rw [UInt16.toNat_xor, UInt16.toNat_shiftLeft, UInt16.toNat_shiftRight,
    UInt8.toNat_toUInt16, UInt16.toNat_toUInt8, height, Nat.testBit_xor,
    Nat.testBit_mod_two_pow, Nat.testBit_mod_two_pow, Nat.testBit_shiftLeft,
    Nat.testBit_shiftRight]
  by_cases hlow : i < 8
  · simp [hlow, Nat.not_le_of_lt hlow]
  · have hindex : 8 + (i - 8) = i := by omega
    by_cases hhigh : i < 16
    · simp [hlow, hhigh, hindex, Nat.le_of_not_lt hlow]
    · have hlarge : crc.toNat.testBit i = false := by
        apply Nat.testBit_lt_two_pow
        apply Nat.lt_of_lt_of_le crc.toNat_lt
        apply Nat.pow_le_pow_right (by decide) (Nat.le_of_not_lt hhigh)
      simp [hlow, hhigh, hlarge]

/-- A register is known from its upper byte and its low byte. -/
theorem eq_of_bytes_eq {crc other : UInt16} (hupper : crc >>> 8 = other >>> 8)
    (hlower : crc.toUInt8 = other.toUInt8) :
  crc = other
  := by
  rw [← upper_xor_lower crc, hupper, hlower, upper_xor_lower]

/-! ### Eight bits at once -/

/-- Shifting by one bit is linear. -/
theorem shiftBit_xor (x y : UInt16) :
  shiftBit (x ^^^ y) = shiftBit x ^^^ shiftBit y
  := by
  have hbit (z : UInt16) : z &&& 1 = 0 ∨ z &&& 1 = 1 := by
    rw [← UInt16.toNat_inj, ← UInt16.toNat_inj, UInt16.toNat_and]
    simp
    omega
  have hsum : (x ^^^ y) &&& 1 = (x &&& 1) ^^^ (y &&& 1) := by
    apply UInt16.toNat_inj.mp
    simp only [UInt16.toNat_and, UInt16.toNat_xor, Nat.and_xor_distrib_right]
  have hcancel (z : UInt16) : 0x8408 ^^^ (z ^^^ 0x8408) = z := by
    rw [UInt16.xor_comm, UInt16.xor_assoc, UInt16.xor_self, UInt16.xor_zero]
  rw [shiftBit, shiftBit, shiftBit, hsum, UInt16.shiftRight_xor]
  rcases hbit x with hx | hx
  · rcases hbit y with hy | hy
    · simp [hx, hy]
    · simp [hx, hy, UInt16.xor_assoc]
  · rcases hbit y with hy | hy
    · simp only [hx, hy, UInt16.xor_zero, if_true, if_neg (show (0 : UInt16) ≠ 1 by decide)]
      ac_rfl
    · simp [hx, hy, UInt16.xor_assoc, hcancel]

theorem repeat_shiftBit_xor (n : Nat) (x y : UInt16) :
  Nat.repeat shiftBit n (x ^^^ y) = Nat.repeat shiftBit n x ^^^ Nat.repeat shiftBit n y
  := by
  induction n with
  | zero => rfl
  | succ n ih => rw [Nat.repeat, ih, shiftBit_xor, Nat.repeat, Nat.repeat]

theorem repeat_shiftBit_toUInt16 (b : UInt8) :
  Nat.repeat shiftBit 8 b.toUInt16 = twist b
  := by
  revert b
  apply forall_byte
  decide +kernel

theorem repeat_shiftBit_upper (b : UInt8) :
  Nat.repeat shiftBit 8 (b.toUInt16 <<< 8) = b.toUInt16
  := by
  revert b
  apply forall_byte
  decide +kernel

/-- Eight shifts of one bit move the upper byte down and leave of the low byte its twist. -/
theorem repeat_shiftBit_eight (crc : UInt16) :
  Nat.repeat shiftBit 8 crc = (crc >>> 8) ^^^ twist crc.toUInt8
  := by
  have hupper := repeat_shiftBit_upper (crc >>> 8).toUInt8
  rw [toUInt16_upper] at hupper
  calc Nat.repeat shiftBit 8 crc
      = Nat.repeat shiftBit 8 (((crc >>> 8) <<< 8) ^^^ crc.toUInt8.toUInt16) := by
        rw [upper_xor_lower]
    _ = (crc >>> 8) ^^^ twist crc.toUInt8 := by
        rw [repeat_shiftBit_xor, hupper, repeat_shiftBit_toUInt16]

/-- A step is a step bit by bit. -/
theorem step_eq_bitwiseStep (crc : UInt16) (byte : UInt8) :
  step crc byte = bitwiseStep crc byte
  := by
  rw [bitwiseStep, repeat_shiftBit_eight, UInt16.shiftRight_xor, upper_toUInt16,
    UInt16.xor_zero, UInt16.toUInt8_xor, UInt8.toUInt8_toUInt16, UInt8.xor_comm, step_eq]

theorem extend_eq_bitwiseExtend (crc : UInt16) (bytes : List UInt8) :
  extend crc bytes = bitwiseExtend crc bytes
  := by
  have hstep : step = bitwiseStep := by
    funext crc byte
    apply step_eq_bitwiseStep
  rw [extend, hstep, bitwiseExtend]

/-! ### Feeding pieces -/

/-- What is fed to the checksum at once: a byte or a byte string. -/
inductive Piece
  | byte (b : UInt8)
  | block (bytes : List UInt8)
deriving DecidableEq, Repr

/-- The bytes of a piece. -/
def Piece.bytes : Piece → List UInt8
  | byte b => [b]
  | block bytes => bytes

/-- The checksum after a piece. -/
def feed (crc : UInt16) : Piece → UInt16
  | .byte b => step crc b
  | .block bytes => extend crc bytes

/-- The checksum after pieces, in order. -/
def feedAll (crc : UInt16) (pieces : List Piece) : UInt16 :=
  pieces.foldl feed crc

/-- The description of a field, in pieces. -/
def fieldPieces (field : LayoutField) : List Piece :=
  [.block field.type.toUTF8.data.toList, .byte 0x20, .block field.name.toUTF8.data.toList,
    .byte 0x20] ++
    if field.arrayLength = 0 then [] else [.byte field.arrayLength]

/-- The description of a message type, in pieces. -/
def layoutPieces (name : String) (fields : List LayoutField) : List Piece :=
  [.block name.toUTF8.data.toList, .byte 0x20] ++ fields.flatMap fieldPieces

theorem feedAll_eq_extend (crc : UInt16) (pieces : List Piece) :
  feedAll crc pieces = extend crc (pieces.flatMap Piece.bytes)
  := by
  induction pieces generalizing crc with
  | nil => rfl
  | cons piece pieces ih =>
      have hpiece : feed crc piece = extend crc piece.bytes := by
        cases piece with
        | byte b => rfl
        | block bytes => rfl
      rw [feedAll, List.foldl_cons, ← feedAll, ih, hpiece, List.flatMap_cons, extend, extend,
        extend, List.foldl_append]

theorem flatMap_bytes_fieldPieces (field : LayoutField) :
  (fieldPieces field).flatMap Piece.bytes = fieldText field
  := by
  rw [fieldPieces, fieldText]
  split
  · simp [Piece.bytes]
  · simp [Piece.bytes]

theorem flatMap_bytes_layoutPieces (name : String) (fields : List LayoutField) :
  (layoutPieces name fields).flatMap Piece.bytes = layoutText name fields
  := by
  rw [layoutPieces, layoutText, List.flatMap_append, List.flatMap_assoc]
  simp only [flatMap_bytes_fieldPieces]
  simp [Piece.bytes]

/-- In whatever pieces bytes are fed to the checksum, from whatever value, it becomes the CRC
of the bytes, computed bit by bit.  The extra byte of a message type is computed from pieces,
and so it is the sum of the two bytes of the CRC of the description of the type: its name and
a space, and for each field the type, a space, the name, a space, and of an array the number
of elements. -/
theorem feedAll_eq_bitwiseExtend :
  (∀ (crc : UInt16) (pieces : List Piece),
    feedAll crc pieces = bitwiseExtend crc (pieces.flatMap Piece.bytes)) ∧
  (∀ (crc : UInt16) (bytes : List UInt8), extend crc bytes = bitwiseExtend crc bytes) ∧
  ∀ (name : String) (fields : List LayoutField),
    let described := feedAll initial (layoutPieces name fields)
    let crc := bitwiseExtend 0xffff (name.toUTF8.data.toList ++ [0x20] ++
      fields.flatMap (fun field =>
        field.type.toUTF8.data.toList ++ [0x20] ++ field.name.toUTF8.data.toList ++ [0x20] ++
          if field.arrayLength = 0 then [] else [field.arrayLength]))
    extra name fields = described.toUInt8 ^^^ (described >>> 8).toUInt8 ∧
      extra name fields = crc.toUInt8 ^^^ (crc >>> 8).toUInt8
  := by
  refine ⟨?_, extend_eq_bitwiseExtend, ?_⟩
  · intro crc pieces
    rw [feedAll_eq_extend, extend_eq_bitwiseExtend]
  · intro name fields described crc
    have hdescribed : described = ofBytes (layoutText name fields) := by
      rw [ofBytes, ← flatMap_bytes_layoutPieces, ← feedAll_eq_extend]
    have hcrc : crc = ofBytes (layoutText name fields) := by
      rw [ofBytes, extend_eq_bitwiseExtend]
      rfl
    rw [hdescribed, hcrc]
    exact ⟨rfl, rfl⟩

/-- The checksum of the digits is the check value that the CRC is known by. -/
example : bitwiseExtend initial [0x31, 0x32, 0x33, 0x34, 0x35, 0x36, 0x37, 0x38, 0x39] =
    0x6f91 := by
  decide +kernel

/-! ### What a step keeps -/

theorem untwist_twist (b : UInt8) :
  untwist (twist b >>> 8).toUInt8 = b
  := by
  revert b
  apply forall_byte
  decide +kernel

/-- The sum of the byte that is taken in and the low byte of the register is known from the
upper byte of the register after a step. -/
theorem untwist_step (crc : UInt16) (b : UInt8) :
  untwist (step crc b >>> 8).toUInt8 = b ^^^ crc.toUInt8
  := by
  rw [step_eq, UInt16.shiftRight_xor, upper_upper, UInt16.zero_xor, untwist_twist]

/-- Two steps with the same result start from the same upper byte, and take in bytes with the
same sum with the low byte. -/
theorem bytes_eq_of_step_eq {crc other : UInt16} {b c : UInt8}
    (h : step crc b = step other c) :
  crc >>> 8 = other >>> 8 ∧ b ^^^ crc.toUInt8 = c ^^^ other.toUInt8
  := by
  have hmixed : b ^^^ crc.toUInt8 = c ^^^ other.toUInt8 := by
    rw [← untwist_step, h, untwist_step]
  constructor
  · rw [step_eq, step_eq, hmixed] at h
    apply (UInt16.xor_left_inj _).mp h
  · apply hmixed

/-- A step with a given byte loses nothing of the register. -/
theorem step_left_injective {crc other : UInt16} {b : UInt8} (h : step crc b = step other b) :
  crc = other
  := by
  obtain ⟨hupper, hlower⟩ := bytes_eq_of_step_eq h
  apply eq_of_bytes_eq hupper
  apply (UInt8.xor_right_inj b).mp hlower

/-- A step from a given register loses nothing of the byte. -/
theorem step_right_injective {crc : UInt16} {b c : UInt8} (h : step crc b = step crc c) :
  b = c
  := by
  apply (UInt8.xor_left_inj _).mp (bytes_eq_of_step_eq h).2

/-- Two steps in a row from a given register lose nothing of the two bytes. -/
theorem step_step_injective {crc : UInt16} {b c b' c' : UInt8}
    (h : step (step crc b) b' = step (step crc c) c') :
  b = c ∧ b' = c'
  := by
  -- The upper byte in between tells the first byte, whatever the second one is.
  have hfirst : b = c := by
    apply (UInt8.xor_left_inj crc.toUInt8).mp
    rw [← untwist_step, (bytes_eq_of_step_eq h).1, untwist_step]
  subst hfirst
  exact ⟨rfl, step_right_injective h⟩

theorem extend_left_injective {crc other : UInt16} {bytes : List UInt8}
    (h : extend crc bytes = extend other bytes) :
  crc = other
  := by
  induction bytes generalizing crc other with
  | nil => apply h
  | cons b bytes ih => apply step_left_injective (ih h)

/-! ### Errors next to each other -/

/-- Two byte strings agree but for a place and the next one. -/
def AgreeBut (i : Nat) (bytes others : List UInt8) : Prop :=
  ∀ j, j ≠ i → j ≠ i + 1 → bytes[j]? = others[j]?

theorem AgreeBut.tail {i : Nat} {b c : UInt8} {bytes others : List UInt8}
    (agree : AgreeBut (i + 1) (b :: bytes) (c :: others)) :
  b = c ∧ AgreeBut i bytes others
  := by
  constructor
  · have hhead := agree 0 (by omega) (by omega)
    apply Option.some.inj hhead
  · intro j hj hnext
    have htail := agree (j + 1) (by omega) (by omega)
    apply htail

/-- Byte strings of the same length that agree but for a place and the next one are known from
the checksum. -/
theorem extend_injective_of_agreeBut {crc : UInt16} {i : Nat} {bytes others : List UInt8}
    (hlength : bytes.length = others.length) (agree : AgreeBut i bytes others)
    (h : extend crc bytes = extend crc others) :
  bytes = others
  := by
  induction i generalizing crc bytes others with
  | zero =>
      match bytes, others, hlength with
      | [], [], _ => rfl
      | [b], [c], _ =>
          have hstep : step crc b = step crc c := h
          rw [step_right_injective hstep]
      | b :: b' :: bytes, c :: c' :: others, _ =>
          have hrest : bytes = others := by
            apply List.ext_getElem?
            intro j
            apply agree (j + 2) (by omega) (by omega)
          subst hrest
          have hsteps : step (step crc b) b' = step (step crc c) c' :=
            extend_left_injective h
          obtain ⟨hfirst, hsecond⟩ := step_step_injective hsteps
          rw [hfirst, hsecond]
  | succ i ih =>
      match bytes, others, hlength with
      | [], [], _ => rfl
      | b :: bytes, c :: others, hlength =>
          obtain ⟨hhead, htail⟩ := agree.tail
          subst hhead
          have hrest : extend (step crc b) bytes = extend (step crc b) others := h
          rw [ih (Nat.succ.inj hlength) htail hrest]

/-- Different byte strings of the same length that agree but for a place and the next one give
frames with different checksums. -/
theorem ofFrame_ne_of_agreeBut {crcExtra : UInt8} {i : Nat} {bytes others : List UInt8}
    (hlength : bytes.length = others.length) (hne : bytes ≠ others)
    (agree : AgreeBut i bytes others) :
  ofFrame bytes crcExtra ≠ ofFrame others crcExtra
  := by
  intro h
  apply hne
  apply extend_injective_of_agreeBut hlength agree
  apply step_left_injective h

end Checksum

end FlightBus
