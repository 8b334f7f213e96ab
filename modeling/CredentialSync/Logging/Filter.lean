import CredentialSync.Config.Environment
import CredentialSync.Logging.Event
import CredentialSync.Logging.Pattern
import CredentialSync.Text.Alphanumeric

/-!
# Log filters

A `Filter` chooses events by their level, target and fields. It is a list of directives:

* a directive holds for the targets that begin with its text, or for all, and only for events with
  the field that it names, if it names one;
* of several directives that hold, the one with the longest text decides, and of two with equally
  long texts the one that names a field;
* an event for which no directive holds is left out.

`Filter.read?` reads directives with commas between them: `info`, `target`, `target=info`,
`target[span{field}]=info`. A directive about a span, or about the value of a field, holds within
spans only and is not kept: no event of this program happens within one.

Blanks around a directive are a trap. The places of its parts are counted without them, and then
the parts are cut out of the text with them.
-/

namespace CredentialSync

/-! ## 1. Directives -/

/-- From which level on some events are let through; without a level none are. -/
structure Directive where
  /-- The beginning of the targets; nothing means all. -/
  target : Option String
  /-- A field that the events have. -/
  field : Option String := none
  level : Option LogLevel
  deriving DecidableEq

/-- Chooses events. -/
abbrev Filter := List Directive

namespace Filter

/-- The level that a word or a number names; `some none` is no level at all. -/
def level? (word : String) : Option (Option LogLevel) :=
  let small := String.ofList (word.toList.map Char.toLower)
  match Text.Decimal.digits? (if word.startsWith "+" then word.toList.drop 1 else word.toList) with
  | some 0 => some none
  | some n => (LogLevel.all.find? fun level => 5 - level.rank == n).map some
  | none =>
    if small == "off" then some none
    else (LogLevel.all.find? fun level => level.text == small).map some

/-! ## 2. Reading -/

/-- Why a text is no filter. -/
inductive Refusal where
  /-- It is not written as directives are. -/
  | malformed
  /-- A part of it would have to be cut out in the middle of a character. -/
  | torn
  deriving DecidableEq

/-- A directive as far as it has been read. -/
structure Draft where
  target : Option String := none
  /-- The span that it is about. -/
  span : Option String := none
  /-- The field and the value that it asks for. -/
  field : Option (String × Option String) := none

/-- What the draft of a directive comes to with a level: nothing, if it holds within spans only. -/
def Draft.close (d : Draft) (level : Option LogLevel) : Option Directive :=
  match d.span, d.field with
  | none, none => some { target := d.target, level }
  | none, some (name, none) => some { target := d.target, field := some name, level }
  | _, _ => none

/-- The text between two places of a directive, counted in bytes. -/
def cut (text : List UInt8) (first last : Nat) : Except Refusal String :=
  match Text.Utf8.decode (text.take first), Text.Utf8.decode ((text.take last).drop first) with
  | .ok _, .ok part => .ok part
  | _, _ => .error .torn

/-- How many bytes some characters take. -/
def width (cs : List Char) : Nat := (Text.Utf8.encode (String.ofList cs)).length

/-- Reads the level behind an equals sign, up to the end of the text. Without one everything is let
through. -/
def readLevel (text : List UInt8) (at' : Nat) (d : Draft) : Except Refusal (Option Directive) :=
  (cut text at' text.length).bind fun word =>
    if word.isEmpty then .ok (d.close (some .trace))
    else
      match level? word with
      | some level => .ok (d.close level)
      | none => .error .malformed

/-- Reads what follows the brackets of a directive. -/
def readEnd (text : List UInt8) (at' : Nat) (d : Draft) : List Char →
    Except Refusal (Option Directive)
  | [] => .ok (d.close (some .trace))
  | '=' :: _ => readLevel text (at' + 1) d
  | _ => .error .malformed

/-- The name of a field and the value that it is asked for. -/
def field? (part : String) : Except Refusal (String × Option String) :=
  match part.splitOn "=" with
  | name :: value :: _ =>
    if Logging.Pattern.isPattern value.toList then .ok (name, some value) else .error .malformed
  | _ => .ok (part, none)

/-- Reads a field behind its opening brace, which stands in front of the place `at'`. -/
def readField (text : List UInt8) (at' : Nat) (d : Draft) (cs : List Char) :
    Except Refusal (Option Directive) :=
  let name := cs.takeWhile (·.toNat != 0x7d)
  let stop := at' + width name
  match cs.drop name.length with
  | _ :: ']' :: rest => do
    let field ← (cut text at' stop).bind fun part =>
      if part.isEmpty then .error .malformed else field? part
    readEnd text (stop + 2) { d with field := some field } rest
  | _ :: _ =>
    (cut text at' stop).bind fun part =>
      (if part.isEmpty then .error .malformed else field? part).bind fun _ => .error .malformed
  | [] => .error .malformed

/-- Reads a span behind its opening bracket, which stands in front of the place `at'`. -/
def readSpan (text : List UInt8) (at' : Nat) (d : Draft) (cs : List Char) :
    Except Refusal (Option Directive) :=
  let name := cs.takeWhile fun c => c != ']' && c.toNat != 0x7b
  let stop := at' + width name
  match cs.drop name.length with
  | [] => .error .malformed
  | ']' :: rest => do
    let span ← cut text at' stop
    readEnd text (stop + 1) { d with span := some span } rest
  | _ :: rest => do
    let span ← cut text at' stop
    readField text (stop + 1) { d with span := if span.isEmpty then none else some span } rest

/-- Reads a directive: a level, a target, or a target with what follows it. A target alone lets
everything through. -/
def readDirective (s : String) : Except Refusal (Option Directive) :=
  let text := Text.Utf8.encode s
  let cs := (Text.Blank.trim s).toList
  match cs with
  | [] => .error .malformed
  | '[' :: rest => readSpan text 1 {} rest
  | c :: _ =>
    if !(Text.Alphanumeric.isAlphanumeric c || c == '-' || c == ':' || c == '_') then
      .error .malformed
    else
      let name := cs.takeWhile fun c => c != '=' && c != '['
      let stop := width name
      match cs.drop name.length with
      | [] =>
        match level? s with
        | some level => .ok (some { target := none, level })
        | none => .ok (some { target := some s, level := some .trace })
      | '=' :: _ => do
        let target ← cut text 0 stop
        readLevel text (stop + 1) { target := some target }
      | _ :: rest => do
        let target ← cut text 0 stop
        readSpan text (stop + 1) { target := some target } rest

/-- Reads directives with commas between them. A filter without directives lets nothing through. -/
def read (text : String) : Except Refusal Filter :=
  (((text.splitOn ",").filter (· != "")).mapM readDirective).map (·.filterMap id)

/-! ## 3. Choosing -/

/-- Whether an event has a field. -/
def hasField (e : Event) (name : String) : Bool :=
  name == "message" || e.details.any (·.1 == name)

/-- Whether a directive holds for an event. -/
def holds (d : Directive) (e : Event) : Bool :=
  d.target.all (e.target.startsWith ·) && d.field.all (hasField e)

/-- Whether the first of two directives that hold for an event decides rather than the other. -/
def outranks (a b : Directive) : Bool :=
  let size (d : Directive) := (d.target.map fun t => t.utf8ByteSize + 1).getD 0
  size b < size a || (size a == size b &&
    match a.field, b.field with
    | some x, some y => y < x
    | some _, none => true
    | _, _ => false)

/-- The directive that decides about an event. Of two for the same events the later one counts. -/
def deciding? (e : Event) : Filter → Option Directive
  | [] => none
  | d :: rest =>
    match deciding? e rest with
    | none => if holds d e then some d else none
    | some other => if holds d e && outranks d other then some d else some other

/-- Whether an event is let through. -/
def allows (f : Filter) (e : Event) : Bool :=
  match deciding? e f with
  | none => false
  | some d =>
    match d.level with
    | none => false
    | some level => level.rank ≤ e.level.rank

/-- The filter of a process: the one that the environment variable `RUST_LOG` describes, and else
that of the level. There is none if the variable cannot be taken apart. -/
def choose? (env : Environment) (level : LogLevel) : Option Filter :=
  let ofLevel := ((read level.filterDirective).toOption).getD []
  match (env.text? "RUST_LOG").map read with
  | some (.ok f) => some f
  | some (.error .torn) => none
  | _ => some ofLevel

end Filter

end CredentialSync
