import FlightBus.Frame.Header
import FlightBus.Log
import FlightBus.Wire.Checksum
import FlightBus.Wire.LittleEndian

/-!
# Frame candidates

Wherever a marker turns up in a byte stream, there may be a frame.  `examine` decides such
a candidate from its bytes: it is a frame of a certain length, or it is rejected for a
cause, or there are too few bytes to decide.  The conditions on a frame are checked in a
fixed order: the flags, the message type, the length of the payload, the checksum.  Each is
checked as soon as the bytes for it are there.
-/

namespace FlightBus

/-- The causes for rejecting a candidate. -/
inductive Rejection
  /-- The header has flags that this library does not understand. -/
  | unsupportedFlags (flags : UInt8)
  /-- The message type is not known. -/
  | unknownMessage (id : MessageId)
  /-- The message type cannot have a payload of this length. -/
  | badLength (length : Nat) (id : MessageId)
  /-- The checksum received is not the one computed. -/
  | checksumMismatch (id : MessageId) (received computed : UInt16)
deriving DecidableEq, Repr

/-- The log record of a rejection. -/
def Rejection.record : Rejection → Record
  | unsupportedFlags flags => ⟨.trace, s!"unsupported incompat flags {flags}"⟩
  | unknownMessage id => ⟨.trace, s!"unknown message {id}"⟩
  | badLength length id => ⟨.trace, s!"bad length {length} of message {id}"⟩
  | checksumMismatch id received computed =>
      ⟨.debug, s!"checksum mismatch of message {id}: {received} != {computed}"⟩

/-- The outcome of examining a candidate. -/
inductive Verdict
  /-- There are too few bytes to decide. -/
  | incomplete
  /-- The candidate is no frame. -/
  | rejected (cause : Rejection)
  /-- The candidate is a frame of the given length. -/
  | complete (frame : Frame) (length : Nat)
deriving DecidableEq, Repr

namespace Header

/-- The length of the payload, as a number. -/
def bodyLength (header : Header) : Nat :=
  header.payloadLength.toNat

theorem bodyLength_le (header : Header) :
  header.bodyLength ≤ payloadLimit
  := Nat.le_of_lt_succ header.payloadLength.toNat_lt

/-- The number of bytes of the frame of a header. -/
def frameLength (header : Header) : Nat :=
  header.version.headerSize + header.bodyLength + Checksum.size + header.announcedSignature

/-- The frame of a header and the bytes behind it. -/
def toFrame (header : Header) (body : List UInt8) : Frame where
  version := header.version
  incompatFlags := header.incompatFlags
  compatFlags := header.compatFlags
  sequence := header.sequence
  system := header.system
  component := header.component
  message := header.message
  payload := ⟨body.take header.bodyLength, by
    have := header.bodyLength_le
    rw [List.length_take]
    omega⟩
  signature :=
    if header.isSigned then
      Signature.ofBytes?
        ((body.drop (header.bodyLength + Checksum.size)).take Signature.size)
    else
      none

end Header

/-- Decides the candidate of a version that starts a byte string. -/
def examine (lookup : Lookup) (version : Version) (candidate : List UInt8) : Verdict :=
  match Header.read? version candidate with
  | none => .incomplete
  | some (header, body) =>
    if header.hasUnsupportedFlags then
      .rejected (.unsupportedFlags header.incompatFlags)
    else
      match lookup header.message with
      | none => .rejected (.unknownMessage header.message)
      | some descriptor =>
        if ¬ header.admitsLength descriptor then
          .rejected (.badLength header.bodyLength header.message)
        else if candidate.length < header.frameLength then
          .incomplete
        else
          let stop := version.headerSize + header.bodyLength
          let covered := (candidate.take stop).drop 1
          let received := UInt16.ofNat
            (LittleEndian.decode ((candidate.drop stop).take Checksum.size))
          let computed := Checksum.ofFrame covered descriptor.crcExtra
          if received ≠ computed then
            .rejected (.checksumMismatch header.message received computed)
          else
            .complete (header.toFrame body) header.frameLength

end FlightBus
