import FlightBus.Frame.Basic
import FlightBus.Message.Format

/-!
# The message in a frame

A frame holds a message of a type if it says so in its header, if its payload is not too
long, and if the payload, continued by zeros, holds a value of the type.  The conditions
are checked in this order.
-/

namespace FlightBus

/-- The reasons why a frame does not hold a message of a type. -/
inductive DecodeFailure
  /-- The frame is one of another message type. -/
  | otherType
  /-- The payload does not hold a value of the type. -/
  | payload (reason : PayloadError)
deriving DecidableEq, Repr

/-- What is said of a failure in log records. -/
def DecodeFailure.text : DecodeFailure → String
  | otherType => "IdMismatch"
  | payload .fieldValue => "Deserialize(FieldValue)"
  | payload .length => "Deserialize(Length)"

/-- The value that a frame holds. -/
def Format.decode {α : Type} (format : Format α) (frame : Frame) :
    Except DecodeFailure α :=
  if frame.message ≠ format.id then
    .error .otherType
  else if frame.payload.bytes.length > format.maxLength then
    .error (.payload .length)
  else
    (format.parse frame.payload.bytes).mapError .payload

end FlightBus
