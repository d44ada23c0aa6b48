import FlightBus.Bus.RingBuffer

/-!
# Broadcast channels

A hub holds channels and their receivers.  A message that is sent on a channel goes to all
receivers that the channel has at that time.  Each receiver has a ring buffer for the
messages that it has not taken, so what one receiver loses does not depend on the others.

A channel keeps its receivers in slots, and a message goes through the slots in order.  A
new receiver gets the first slot whose receiver is gone, or else a slot behind the others.

A channel is closed when the last handle to it is dropped.  Senders hold handles too.
-/

namespace FlightBus

/-- A channel of a hub. -/
structure ChannelId where
  /-- The number of the channel in the order of creation. -/
  index : Nat
deriving DecidableEq, Repr

/-- A receiver of a hub.  Receivers that are gone keep their number. -/
structure ReceiverId where
  /-- The number of the receiver in the order of creation. -/
  index : Nat
deriving DecidableEq, Repr

/-- The state of a channel. -/
structure Channel where
  /-- The number of handles to the channel. -/
  handles : Nat
  /-- The slots, each with the receiver that got it last. -/
  slots : List ReceiverId := []
deriving DecidableEq, Repr

/-- The state of a receiver. -/
structure Receiver (α : Type) where
  /-- The channel of the receiver. -/
  channel : ChannelId
  /-- The messages that were not taken. -/
  buffer : RingBuffer α

/-- The reasons why a receiver has no message. -/
inductive NoMessage
  /-- There is none at the moment. -/
  | idle
  /-- There will be none, because the channel is closed. -/
  | closed
deriving DecidableEq, Repr

/-- Channels and receivers of messages of type `α`. -/
structure Hub (α : Type) where
  /-- The channels in the order of creation. -/
  channels : List Channel := []
  /-- The receivers in the order of creation, without those that are gone. -/
  receivers : List (Option (Receiver α)) := []

namespace Hub

variable {α : Type}

/-- The state of a channel. -/
def channel? (hub : Hub α) (c : ChannelId) : Option Channel :=
  hub.channels[c.index]?

/-- The state of a receiver, unless it is gone. -/
def receiver? (hub : Hub α) (r : ReceiverId) : Option (Receiver α) :=
  (hub.receivers[r.index]?).join

/-- Whether a receiver is not gone. -/
def isLive (hub : Hub α) (r : ReceiverId) : Bool :=
  (hub.receiver? r).isSome

/-- The hub with the state of a channel changed. -/
def modifyChannel (hub : Hub α) (c : ChannelId) (f : Channel → Channel) : Hub α :=
  { hub with channels := hub.channels.modify c.index f }

/-- The hub with the buffer of a receiver replaced. -/
def setBuffer (hub : Hub α) (r : ReceiverId) (buffer : RingBuffer α) : Hub α :=
  { hub with
    receivers := hub.receivers.modify r.index (Option.map ({ · with buffer := buffer })) }

/-! ### Handles -/

/-- Creates a channel with one handle. -/
def openChannel (hub : Hub α) : ChannelId × Hub α :=
  (⟨hub.channels.length⟩, { hub with channels := hub.channels ++ [⟨1, []⟩] })

/-- Adds a handle to a channel. -/
def retain (hub : Hub α) (c : ChannelId) : Hub α :=
  hub.modifyChannel c (fun channel => { channel with handles := channel.handles + 1 })

/-- Drops a handle to a channel. -/
def release (hub : Hub α) (c : ChannelId) : Hub α :=
  hub.modifyChannel c (fun channel => { channel with handles := channel.handles - 1 })

/-! ### Receivers -/

/-- The slots after a new receiver got one. -/
def takeSlot (isLive : ReceiverId → Bool) (r : ReceiverId) : List ReceiverId → List ReceiverId
  | [] => [r]
  | slot :: slots =>
    if isLive slot then slot :: takeSlot isLive r slots else r :: slots

/-- Creates a receiver of a channel with the given buffer. -/
def subscribeWith (hub : Hub α) (c : ChannelId) (buffer : RingBuffer α) :
    ReceiverId × Hub α :=
  let r : ReceiverId := ⟨hub.receivers.length⟩
  let hub := hub.modifyChannel c (fun channel =>
    { channel with slots := takeSlot hub.isLive r channel.slots })
  (r, { hub with receivers := hub.receivers ++ [some ⟨c, buffer⟩] })

/-- Creates a receiver of a channel with a positive capacity. -/
def subscribe (hub : Hub α) (c : ChannelId) (capacity : Nat) (positive : 0 < capacity) :
    ReceiverId × Hub α :=
  hub.subscribeWith c (RingBuffer.new capacity positive)

/-- Creates a receiver of a channel, if the capacity is positive. -/
def subscribe? (hub : Hub α) (c : ChannelId) (capacity : Nat) : Option (ReceiverId × Hub α) :=
  (RingBuffer.new? capacity).map (hub.subscribeWith c)

/-- Drops a receiver. -/
def unsubscribe (hub : Hub α) (r : ReceiverId) : Hub α :=
  { hub with receivers := hub.receivers.set r.index none }

/-- The receivers of a channel that are not gone, in slot order. -/
def liveReceivers (hub : Hub α) (c : ChannelId) : List ReceiverId :=
  match hub.channel? c with
  | none => []
  | some channel => channel.slots.filter hub.isLive

/-- The number of receivers of a channel. -/
def receiverCount (hub : Hub α) (c : ChannelId) : Nat :=
  (hub.liveReceivers c).length

/-! ### Messages -/

/-- Appends a message to the buffer of a receiver. -/
def deposit (hub : Hub α) (r : ReceiverId) (value : α) : Hub α :=
  match hub.receiver? r with
  | none => hub
  | some receiver => hub.setBuffer r (receiver.buffer.push value).2

/-- Sends copies of a message, numbered from 1, to the receivers of a channel in slot
order. -/
def sendCopies (hub : Hub α) (c : ChannelId) (copy : Nat → α) : Hub α :=
  ((hub.liveReceivers c).zipIdx 1).foldl (fun hub (r, n) => hub.deposit r (copy n)) hub

/-- Sends a message to the receivers of a channel. -/
def send (hub : Hub α) (c : ChannelId) (value : α) : Hub α :=
  hub.sendCopies c (fun _ => value)

/-- Takes the oldest message of a receiver. -/
def take (hub : Hub α) (r : ReceiverId) : Option α × Hub α :=
  match hub.receiver? r with
  | none => (none, hub)
  | some receiver =>
      let (value, buffer) := receiver.buffer.pop
      (value, hub.setBuffer r buffer)

/-- Whether there is no handle left to the channel of a receiver. -/
def isClosed (hub : Hub α) (r : ReceiverId) : Bool :=
  match hub.receiver? r with
  | none => true
  | some receiver => ((hub.channel? receiver.channel).map Channel.handles).getD 0 = 0

/-- Takes the oldest message of a receiver, or says why there is none.  The messages that a
channel has sent outlast it. -/
def receive (hub : Hub α) (r : ReceiverId) : Except NoMessage α × Hub α :=
  let closed := hub.isClosed r
  match hub.take r with
  | (some value, hub) => (.ok value, hub)
  | (none, hub) => (.error (if closed then .closed else .idle), hub)

/-- Takes all messages of a receiver, the oldest first. -/
def takeAll (hub : Hub α) (r : ReceiverId) : List α × Hub α :=
  match hub.receiver? r with
  | none => ([], hub)
  | some receiver =>
      let (values, buffer) := receiver.buffer.popAll
      (values, hub.setBuffer r buffer)

end Hub

end FlightBus
