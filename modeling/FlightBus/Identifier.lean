/-!
# Identifiers

A message on the bus has a type, a number of 24 bits, and comes from a component of a
system.  The type, the system and the component make up the routing key of the message.
Routing keys are ordered lexicographically.
-/

namespace FlightBus

/-- The number of message types, two to the power of 24. -/
def MessageId.bound : Nat := 16777216

/-- The identifier of a message type, a number of 24 bits. -/
structure MessageId where
  /-- The number. -/
  toNat : Nat
  /-- The number fits into 24 bits. -/
  isLt : toNat < MessageId.bound
deriving DecidableEq, Repr

namespace MessageId

/-- The identifier of the given number, if the number fits into 24 bits. -/
def ofNat? (n : Nat) : Option MessageId :=
  if h : n < bound then some ⟨n, h⟩ else none

/-- The identifier made of the low 24 bits of a number. -/
def truncate (n : Nat) : MessageId :=
  ⟨n % bound, Nat.mod_lt n (by decide)⟩

/-- The identifier of a one-byte number. -/
def ofByte (b : UInt8) : MessageId :=
  ⟨b.toNat, Nat.lt_trans b.toNat_lt (by decide)⟩

/-- The identifier whose wire bytes are `b₀`, `b₁` and `b₂`, the least significant
first. -/
def ofBytes (b₀ b₁ b₂ : UInt8) : MessageId :=
  ⟨b₀.toNat + 256 * b₁.toNat + 65536 * b₂.toNat, by
    have h₀ := b₀.toNat_lt
    have h₁ := b₁.toNat_lt
    have h₂ := b₂.toNat_lt
    unfold bound
    omega⟩

/-- The low byte of an identifier, all that a frame of the first version carries. -/
def lowByte (id : MessageId) : UInt8 :=
  UInt8.ofNat id.toNat

/-- The wire bytes of an identifier, the least significant first. -/
def bytes (id : MessageId) : List UInt8 :=
  [id.lowByte, UInt8.ofNat (id.toNat / 256), UInt8.ofNat (id.toNat / 65536)]

instance : ToString MessageId where
  toString id := toString id.toNat

end MessageId

/-- A system: a vehicle or a ground station. -/
structure SystemId where
  /-- The number of the system. -/
  byte : UInt8
deriving DecidableEq, Repr

instance : ToString SystemId where
  toString id := toString id.byte.toNat

/-- A component of a system. -/
structure ComponentId where
  /-- The number of the component. -/
  byte : UInt8
deriving DecidableEq, Repr

instance : ToString ComponentId where
  toString id := toString id.byte.toNat

namespace ComponentId

/-- The flight computer of the rocket. -/
def rocket : ComponentId := ⟨1⟩

/-- The ground station. -/
def groundStation : ComponentId := ⟨190⟩

/-- The simulator. -/
def simulator : ComponentId := ⟨200⟩

end ComponentId

/-- What an inbound message is routed by. -/
structure RoutingKey where
  /-- The type of the message. -/
  message : MessageId
  /-- The system that it comes from. -/
  system : SystemId
  /-- The component that it comes from. -/
  component : ComponentId
deriving DecidableEq, Repr

namespace RoutingKey

instance : ToString RoutingKey where
  toString key := s!"msg {key.message} from {key.system}/{key.component}"

/-- The message type decides first, then the system, then the component. -/
instance : Ord RoutingKey where
  compare a b :=
    (compare a.message.toNat b.message.toNat).then
      ((compare a.system.byte.toNat b.system.byte.toNat).then
        (compare a.component.byte.toNat b.component.byte.toNat))

/-- The given keys in ascending order. -/
def sort (keys : List RoutingKey) : List RoutingKey :=
  keys.mergeSort (fun a b => (compare a b).isLE)

end RoutingKey

end FlightBus
