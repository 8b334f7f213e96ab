import CredentialSync.Json.Basic
import CredentialSync.Logging.Output

/-!
# Log events

An `Event` says what happened where, and how severe it is; `Event.line` is how it is written.
-/

namespace CredentialSync

/-- A value that goes with an event. -/
inductive Detail where
  /-- A text written as it is. -/
  | plain (s : String)
  /-- A text written in quotes. -/
  | quoted (s : String)
  | number (n : Int)
  | truth (b : Bool)
  deriving DecidableEq

namespace Detail

/-- The text of a value in a line. -/
def text : Detail → String
  | .plain s => s
  | .quoted s => Text.Quoted.quote s
  | .number n => Text.Decimal.ofInt n
  | .truth true => "true"
  | .truth false => "false"

/-- The value in a JSON event. -/
def json : Detail → Json
  | .plain s => .string s
  | .quoted s => .string s
  | .number n => .integer n
  | .truth b => .bool b

end Detail

/-- Something that happened. -/
structure Event where
  level : LogLevel
  /-- The part of the program in which it happened. -/
  target : String
  message : String
  details : List (String × Detail) := []
  deriving DecidableEq

namespace Event

/-- The text of an event: its level, aligned to the right, its target, its message and its
details. -/
def plainLine (withTarget : Bool) (e : Event) : String :=
  let label := e.level.label
  let pad := if label.length < 5 then " " else ""
  let target := if withTarget then e.target ++ ": " else ""
  pad ++ label ++ " " ++ target ++ e.message ++
    String.join (e.details.map fun (name, d) => " " ++ name ++ "=" ++ d.text)

/-- The JSON object of an event. -/
def json (withTarget : Bool) (e : Event) : Json :=
  let fields := ("message", Json.string e.message) :: e.details.map fun (name, d) => (name, d.json)
  .object ([("level", .string e.level.label), ("fields", .object fields)] ++
    if withTarget then [("target", .string e.target)] else [])

/-- The line of an event as an output asks for it. Events carry no time. -/
def line (o : LogOutput) (e : Event) : String :=
  if o.jsonFormat then (e.json o.withTarget).compact else e.plainLine o.withTarget

end Event

end CredentialSync
