import FlightBus.Bus.Hub
import FlightBus.Named

/-!
# Sessions with named handles

A session holds handles of channels, handles of senders and receivers under names, and
performs actions on them.  The messages carry the number of the copy, which shows in which
order the copies of a message were made.

What is stored under a name replaces what of the same sort was stored under it: the new is
made before the old is dropped.
-/

namespace FlightBus

/-- A copy of a message, with its number among the copies of the message. -/
structure Numbered (α : Type) where
  /-- The message. -/
  value : α
  /-- The number of the copy. -/
  copy : Nat
deriving DecidableEq, Repr

/-- A hub, and the handles and receivers that are held under names. -/
structure HubSession (α : Type) where
  /-- The hub. -/
  hub : Hub (Numbered α) := {}
  /-- The handles of channels. -/
  channels : Named ChannelId := []
  /-- The handles of senders. -/
  senders : Named ChannelId := []
  /-- The receivers. -/
  receivers : Named ReceiverId := []

/-- What can be done with what a session holds. -/
inductive HubAction (α : Type)
  /-- Creates a channel. -/
  | create (name : String)
  /-- Copies the handle of a channel or a sender. -/
  | clone (source name : String)
  /-- Creates a sender of a channel. -/
  | sender (channel name : String)
  /-- Creates a receiver of the channel of a channel handle or a sender. -/
  | receiver (source name : String) (capacity : Nat)
  /-- Sends a message. -/
  | send (sender : String) (value : α)
  /-- Takes the oldest message of a receiver. -/
  | take (receiver : String)
  /-- Takes the oldest message of a receiver, or says why there is none. -/
  | receive (receiver : String)
  /-- Drops a handle or a receiver. -/
  | drop (name : String)

/-- What an action gives back. -/
inductive HubReply (α : Type)
  /-- Nothing. -/
  | none
  /-- A message. -/
  | message (message : Numbered α)
  /-- There was no message. -/
  | failed (reason : NoMessage)
  /-- A receiver cannot have a capacity of zero. -/
  | zeroCapacity
  /-- There is no handle of this name. -/
  | unknownName

namespace HubSession

variable {α : Type}

/-- Drops what is held under a name: the handle of a channel, or else that of a sender,
or else a receiver. -/
def drop? (session : HubSession α) (name : String) : Option (HubSession α) :=
  match session.channels.find? name, session.senders.find? name,
      session.receivers.find? name with
  | some c, _, _ =>
      some { session with
        hub := session.hub.release c
        channels := session.channels.erase name }
  | _, some c, _ =>
      some { session with
        hub := session.hub.release c
        senders := session.senders.erase name }
  | _, _, some r =>
      some { session with
        hub := session.hub.unsubscribe r
        receivers := session.receivers.erase name }
  | _, _, _ => none

/-- Stores a handle of a channel, which is counted already. -/
def holdChannel (session : HubSession α) (name : String) (c : ChannelId) :
    HubSession α :=
  { session with
    hub := (session.channels.find? name).elim session.hub session.hub.release
    channels := session.channels.insert name c }

/-- Stores a handle of a sender, which is counted already. -/
def holdSender (session : HubSession α) (name : String) (c : ChannelId) :
    HubSession α :=
  { session with
    hub := (session.senders.find? name).elim session.hub session.hub.release
    senders := session.senders.insert name c }

/-- Stores a receiver. -/
def holdReceiver (session : HubSession α) (name : String) (r : ReceiverId) :
    HubSession α :=
  { session with
    hub := (session.receivers.find? name).elim session.hub session.hub.unsubscribe
    receivers := session.receivers.insert name r }

/-- The channel of a channel handle or a sender. -/
def channelOf? (session : HubSession α) (name : String) : Option ChannelId :=
  session.channels.find? name <|> session.senders.find? name

/-- Performs an action. -/
def perform (session : HubSession α) :
    HubAction α → HubReply α × HubSession α
  | .create name =>
      let (c, hub) := session.hub.openChannel
      (.none, { session with hub }.holdChannel name c)
  | .clone source name =>
      match session.channels.find? source, session.senders.find? source with
      | some c, _ => (.none, { session with hub := session.hub.retain c }.holdChannel name c)
      | _, some c => (.none, { session with hub := session.hub.retain c }.holdSender name c)
      | _, _ => (.unknownName, session)
  | .sender channel name =>
      match session.channels.find? channel with
      | some c => (.none, { session with hub := session.hub.retain c }.holdSender name c)
      | none => (.unknownName, session)
  | .receiver source name capacity =>
      match session.channelOf? source with
      | none => (.unknownName, session)
      | some c =>
        match session.hub.subscribe? c capacity with
        | none => (.zeroCapacity, session)
        | some (r, hub) => (.none, { session with hub }.holdReceiver name r)
  | .send sender value =>
      match session.senders.find? sender with
      | some c => (.none, { session with hub := session.hub.sendCopies c (⟨value, ·⟩) })
      | none => (.unknownName, session)
  | .take receiver =>
      match session.receivers.find? receiver with
      | none => (.unknownName, session)
      | some r =>
        match session.hub.take r with
        | (some message, hub) => (.message message, { session with hub })
        | (none, hub) => (.none, { session with hub })
  | .receive receiver =>
      match session.receivers.find? receiver with
      | none => (.unknownName, session)
      | some r =>
        match session.hub.receive r with
        | (.ok message, hub) => (.message message, { session with hub })
        | (.error reason, hub) => (.failed reason, { session with hub })
  | .drop name =>
      match session.drop? name with
      | some session => (.none, session)
      | none => (.unknownName, session)

end HubSession

end FlightBus
