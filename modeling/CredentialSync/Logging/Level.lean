import CredentialSync.Text.Blank
import CredentialSync.Text.Quoted

/-!
# Log levels

The five severities of log events, from the least to the most severe, and how they are read from
settings: blanks around the word and the case of ASCII letters do not matter, and `warning` is
another word for `warn`.
-/

namespace CredentialSync

/-- Why there is no logging. -/
inductive LoggingError where
  /-- A word that is no level. -/
  | unknownLevel (text : String)
  /-- Logging could not be set up. -/
  | initializationFailed (detail : String)
  deriving DecidableEq, Repr

/-- The wording of an error. -/
def LoggingError.message : LoggingError → String
  | .unknownLevel text =>
    "Unknown log level " ++ Text.Quoted.quote text ++
      " (expected trace, debug, info, warn or error)"
  | .initializationFailed detail => "Failed to initialize logging: " ++ detail

/-- How severe an event is. -/
inductive LogLevel where
  | trace
  | debug
  | info
  | warn
  | error
  deriving DecidableEq, Repr

namespace LogLevel

instance : Inhabited LogLevel := ⟨info⟩

/-- All levels in ascending order. -/
def all : List LogLevel := [trace, debug, info, warn, error]

/-- How many levels are less severe. -/
def rank : LogLevel → Nat
  | trace => 0
  | debug => 1
  | info => 2
  | warn => 3
  | error => 4

/-- The word for a level. -/
def text : LogLevel → String
  | trace => "trace"
  | debug => "debug"
  | info => "info"
  | warn => "warn"
  | error => "error"

/-- The word for a level in front of an event. -/
def label : LogLevel → String
  | trace => "TRACE"
  | debug => "DEBUG"
  | info => "INFO"
  | warn => "WARN"
  | error => "ERROR"

/-- The level of a word. -/
def ofWord? (word : String) : Option LogLevel :=
  if word == "warning" then some warn else all.find? fun level => level.text == word

/-- The level that a setting names. -/
def read (s : String) : Except LoggingError LogLevel :=
  match ofWord? (String.ofList ((Text.Blank.trim s).toList.map Char.toLower)) with
  | some level => .ok level
  | none => .error (.unknownLevel s)

/-- The filter of a level: the events of the program itself from this level on, and all others from
`warn` on. -/
def filterDirective (level : LogLevel) : String :=
  "warn,syncbridge_core=" ++ level.text ++ ",syncbridge=" ++ level.text

end LogLevel

end CredentialSync
