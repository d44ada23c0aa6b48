import FlightBus.Identifier

/-!
# Descriptors of message types

A frame can be checked without the format of its message type: the bounds of the payload
length and the extra byte of the checksum are enough.  A descriptor holds these, and a
lookup finds the descriptor of a message type among those that are known.  For a message
type with several descriptors a list gives the first and a table the last.
-/

namespace FlightBus

/-- The number of bytes of the longest payload that a frame can carry. -/
def payloadLimit : Nat := 255

/-- What is needed of a message type to check its frames. -/
structure Descriptor where
  /-- The message type. -/
  id : MessageId
  /-- The length of the base fields. -/
  minLength : Nat
  /-- The length of the full payload, extension fields included. -/
  maxLength : Nat
  /-- The byte that the layout of the message contributes to the checksum. -/
  crcExtra : UInt8
deriving DecidableEq, Repr

/-- The descriptors that are known, by message type. -/
abbrev Lookup := MessageId → Option Descriptor

/-- The lookup that gives the first descriptor of a message type in a list. -/
def Lookup.ofList (descriptors : List Descriptor) : Lookup :=
  fun id => descriptors.find? (fun descriptor => descriptor.id = id)

/-- A table of descriptors with at most one entry for a message type. -/
structure DescriptorTable where
  /-- The entries, the latest first. -/
  entries : List Descriptor := []
deriving DecidableEq, Repr

namespace DescriptorTable

/-- The descriptor of a message type, if there is one. -/
def find? (table : DescriptorTable) : Lookup :=
  Lookup.ofList table.entries

/-- The table with a descriptor entered in place of any other of its message type. -/
def insert (table : DescriptorTable) (descriptor : Descriptor) : DescriptorTable :=
  ⟨descriptor :: table.entries.filter (fun other => other.id ≠ descriptor.id)⟩

/-- The table of the descriptors of a list, of which the last of a message type counts. -/
def ofList (descriptors : List Descriptor) : DescriptorTable :=
  descriptors.foldl insert {}

@[simp]
theorem find?_insert_self (table : DescriptorTable) (descriptor : Descriptor) :
  (table.insert descriptor).find? descriptor.id = some descriptor
  := by
  simp [find?, insert, Lookup.ofList]

theorem find?_insert_of_ne (table : DescriptorTable) {descriptor : Descriptor}
    {id : MessageId} (h : id ≠ descriptor.id) :
  (table.insert descriptor).find? id = table.find? id
  := by
  simp only [find?, insert, Lookup.ofList]
  rw [List.find?_cons_of_neg (by simpa using Ne.symm h), List.find?_filter]
  congr 1
  funext other
  by_cases hid : other.id = id
  · simp [hid, h]
  · simp [hid]

end DescriptorTable

end FlightBus
