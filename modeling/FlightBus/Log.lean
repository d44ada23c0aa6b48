/-!
# Log records

The components of the bus report what they drop and refuse as log records, each a text
with a level of severity.
-/

namespace FlightBus

/-- The levels of severity. -/
inductive Level
  | trace
  | debug
  | info
  | warn
  | error
deriving DecidableEq, Repr

/-- The name of a level. -/
def Level.name : Level → String
  | trace => "TRACE"
  | debug => "DEBUG"
  | info => "INFO"
  | warn => "WARN"
  | error => "ERROR"

/-- A log record. -/
structure Record where
  /-- The severity. -/
  level : Level
  /-- What happened. -/
  text : String
deriving DecidableEq, Repr

/-- A record as one line: its level and its text. -/
def Record.line (record : Record) : String :=
  record.level.name ++ " " ++ record.text

end FlightBus
