/-!
# Grammar of command lines

How the arguments of a command are taken apart. A `Grammar` lists the options of a command, its
subcommands and, if it has one, its operand.

* An option with a value takes the next argument, or what follows `=` in the same one. Options of
  one letter may also have the value directly behind the letter.
* An argument that begins with `-` is never a value of its own accord, except for a lone `-`.
* Behind `--` there are operands only.
* No option may be given twice. A subcommand ends the options; the arguments behind it are its own.

Arguments are looked at from left to right, and the first thing that is wrong, or that asks for
help or the version, ends this. A value is only looked at when the next option or operand begins.
-/

namespace CredentialSync.CommandLine

/-- Why a command line leads to no command. -/
inductive Stop where
  /-- Someone asks for help. -/
  | help
  /-- Someone asks for the version. -/
  | version
  /-- The arguments do not fit the grammar. -/
  | rejected
  deriving DecidableEq, Repr

/-- What an option does. -/
inductive OptionKind where
  /-- It takes a value. -/
  | value
  /-- It stands for itself. -/
  | flag
  | help
  | version
  deriving DecidableEq, Repr

/-- An option of a command. -/
structure OptionSpec where
  name : String
  kind : OptionKind
  letter : Option Char := none
  deriving DecidableEq, Repr

/-- What a command accepts. -/
structure Grammar where
  options : List OptionSpec
  subcommands : List String := []
  /-- The name of the operand. -/
  operand : Option String := none
  /-- Options and operands that must be given. -/
  required : List String := []
  /-- Whether a value is fine, by the name of its option or operand. -/
  accepts : String → String → Bool := fun _ _ => true

/-- What was found so far. -/
structure Found where
  /-- Options and operands with their values; a flag has an empty value. -/
  values : List (String × String) := []
  /-- The option or operand that came last; an option that waits for its value has none. -/
  pending : Option (String × Option String) := none
  /-- Whether only operands may follow. -/
  operandsOnly : Bool := false
  /-- Whether the operand was given. -/
  operandGiven : Bool := false
  deriving Inhabited

namespace Found

/-- The value of an option or operand. -/
def value? (f : Found) (name : String) : Option String := f.values.lookup name

/-- Whether an option was given. -/
def has (f : Found) (name : String) : Bool := (f.value? name).isSome

/-- Whether the next argument has to be a value. -/
def isWaiting (f : Found) : Bool :=
  match f.pending with
  | some (_, none) => true
  | _ => false

end Found

namespace Grammar

/-- Takes over a value. -/
def store (g : Grammar) (name value : String) (f : Found) : Except Stop Found :=
  if f.has name || !g.accepts name value then .error .rejected
  else .ok { f with values := f.values ++ [(name, value)] }

/-- Takes over what is pending. -/
def resolve (g : Grammar) (f : Found) : Except Stop Found :=
  match f.pending with
  | none => .ok f
  | some (_, none) => .error .rejected
  | some (name, some value) => g.store name value { f with pending := none }

/-- Deals with an option and the value attached to it, if any. -/
def take (g : Grammar) (o : OptionSpec) (attached : Option String) (f : Found) :
    Except Stop Found :=
  match o.kind, attached with
  | .value, none => (g.resolve f).map fun f => { f with pending := some (o.name, none) }
  | .value, some value => (g.resolve f).bind (g.store o.name value)
  | _, some _ => .error .rejected
  | .flag, none => (g.resolve f).bind (g.store o.name "")
  | .help, none => (g.resolve f).bind fun _ => .error .help
  | .version, none => (g.resolve f).bind fun _ => .error .version

/-- Deals with an argument behind `--`. -/
def takeLong (g : Grammar) (text : List Char) (f : Found) : Except Stop Found :=
  let name := String.ofList (text.takeWhile (· != '='))
  let attached := match text.dropWhile (· != '=') with
    | [] => none
    | _ :: value => some (String.ofList value)
  match g.options.find? (·.name == name) with
  | none => .error .rejected
  | some o => g.take o attached f

/-- Deals with the letters behind a single `-`. -/
def takeLetters (g : Grammar) (f : Found) : List Char → Except Stop Found
  | [] => .ok f
  | c :: rest =>
    match g.options.find? (·.letter == some c) with
    | none => .error .rejected
    | some o =>
      match o.kind, rest with
      | .value, [] => g.take o none f
      | .value, '=' :: value => g.take o (some (String.ofList value)) f
      | .value, value => g.take o (some (String.ofList value)) f
      | _, rest => (g.take o none f).bind fun f => takeLetters g f rest

/-- Deals with an operand. -/
def takeOperand (g : Grammar) (value : String) (f : Found) : Except Stop Found :=
  match g.operand with
  | none => .error .rejected
  | some name =>
    if f.operandGiven then .error .rejected
    else (g.resolve f).map fun f =>
      { f with pending := some (name, some value), operandGiven := true }

/-- Deals with one argument that is no subcommand. -/
def takeArgument (g : Grammar) (arg : String) (f : Found) : Except Stop Found :=
  if f.operandsOnly then g.takeOperand arg f
  else
    match arg.toList with
    | ['-', '-'] => .ok { f with operandsOnly := true }
    | '-' :: '-' :: text => g.takeLong text f
    | '-' :: c :: text => g.takeLetters f (c :: text)
    | _ =>
      match f.pending with
      | some (name, none) => .ok { f with pending := some (name, some arg) }
      | _ => g.takeOperand arg f

/-- Takes arguments up to a subcommand; gives the subcommand and its arguments, if there is one. -/
def scan (g : Grammar) (f : Found) :
    List String → Except Stop (Found × Option (String × List String))
  | [] => .ok (f, none)
  | arg :: rest =>
    if !f.operandsOnly && !f.isWaiting && g.subcommands.contains arg then .ok (f, some (arg, rest))
    else (g.takeArgument arg f).bind fun f => scan g f rest

/-- Checks that nothing is missing. -/
def complete (g : Grammar) (f : Found) : Except Stop Found :=
  (g.resolve f).bind fun f => if g.required.all f.has then .ok f else .error .rejected

end Grammar

end CredentialSync.CommandLine
