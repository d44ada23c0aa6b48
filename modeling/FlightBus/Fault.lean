import FlightBus.Identifier

/-!
# Faults

A fault has a code, with a fixed number and name, and data of some kind.  Where faults with
different kinds of data meet, they are held as `AnyFault`, and the data can be recovered by
asking for its kind.
-/

namespace FlightBus

/-- The codes of faults. -/
inductive FaultCode
  /-- There is a binding for the routing key. -/
  | duplicateBinding
  /-- A sink has no room. -/
  | sinkFull
  /-- A value is outside its domain. -/
  | invalidValue
  /-- A node has failed. -/
  | nodeFault
  /-- Something took too long. -/
  | timeout
  /-- Something is not there yet. -/
  | notReady
deriving DecidableEq, Repr

namespace FaultCode

/-- The number of a code. -/
def number : FaultCode → Nat
  | duplicateBinding => 1
  | sinkFull => 2
  | invalidValue => 3
  | nodeFault => 4
  | timeout => 5
  | notReady => 6

/-- The name of a code. -/
def name : FaultCode → String
  | duplicateBinding => "DuplicateBinding"
  | sinkFull => "SinkFull"
  | invalidValue => "InvalidValue"
  | nodeFault => "NodeFault"
  | timeout => "Timeout"
  | notReady => "NotReady"

/-- All codes, by number. -/
def all : List FaultCode :=
  [duplicateBinding, sinkFull, invalidValue, nodeFault, timeout, notReady]

/-- The code of a name, if it is the name of one. -/
def ofName? (name : String) : Option FaultCode :=
  all.find? (fun code => code.name = name)

end FaultCode

/-- The kinds of data. -/
inductive DataKind
  /-- No data. -/
  | none
  /-- A fixed text. -/
  | literal
  /-- A text made at run time. -/
  | text
  /-- A routing key. -/
  | key
  /-- An altitude in metres. -/
  | altitude
deriving DecidableEq, Repr

namespace DataKind

/-- The data of a kind. -/
abbrev Value : DataKind → Type
  | none => Unit
  | literal => String
  | text => String
  | key => RoutingKey
  | altitude => Int32

/-- Whether the message of a fault mentions data of a kind. -/
def isMentioned : DataKind → Bool
  | none => false
  | _ => true

/-- How data reads in a message. -/
def render : (kind : DataKind) → kind.Value → String
  | none, _ => ""
  | literal, words => words
  | text, words => words
  | key, routingKey => toString routingKey
  | altitude, metres => s!"altitude={metres.toInt}"

/-- How data reads in the text that `AnyFault.inspect` gives. -/
def inspect : (kind : DataKind) → kind.Value → String
  | none, _ => "()"
  | literal, words => "\"" ++ words ++ "\""
  | text, words => "\"" ++ words ++ "\""
  | key, routingKey => "DispatchKey \x7b message: MessageId(" ++
      toString routingKey.message ++ "), system: SystemId(" ++ toString routingKey.system ++
      "), component: ComponentId(" ++ toString routingKey.component ++ ") \x7d"
  | altitude, metres => "Altitude \x7b meters: " ++ toString metres.toInt ++ " \x7d"

end DataKind

/-- A fault with data of a kind. -/
structure Fault (kind : DataKind) where
  /-- The code. -/
  code : FaultCode
  /-- The data. -/
  data : kind.Value

/-- The fault of a code, without data. -/
def Fault.ofCode (code : FaultCode) : Fault .none :=
  ⟨code, ()⟩

/-- The message of a fault: the name and the number of its code, and its data if it has
any. -/
def Fault.message {kind : DataKind} (fault : Fault kind) : String :=
  s!"Error {fault.code.name}:{fault.code.number}" ++
    if kind.isMentioned then ". " ++ kind.render fault.data else ""

/-- A fault with data of any kind. -/
structure AnyFault where
  /-- The kind of the data. -/
  kind : DataKind
  /-- The fault. -/
  fault : Fault kind

namespace AnyFault

/-- The fault of a code, without data. -/
def ofCode (code : FaultCode) : AnyFault :=
  ⟨.none, Fault.ofCode code⟩

/-- The code. -/
def code (any : AnyFault) : FaultCode :=
  any.fault.code

/-- The message. -/
def message (any : AnyFault) : String :=
  any.fault.message

/-- The fault with its data, if the data is of the given kind, and otherwise the fault as it
was. -/
def recover (kind : DataKind) (any : AnyFault) : Except AnyFault (Fault kind) :=
  if h : any.kind = kind then .ok (h ▸ any.fault) else .error any

/-- The fault with its data, if the data is of the given kind. -/
def recover? (kind : DataKind) (any : AnyFault) : Option (Fault kind) :=
  (any.recover kind).toOption

/-- The code and the data of a fault as a text for debugging. -/
def inspect (any : AnyFault) : String :=
  "AnyError(Error \x7b code: " ++ any.code.name ++ ", data: " ++
    any.kind.inspect any.fault.data ++ " \x7d)"

end AnyFault

end FlightBus
