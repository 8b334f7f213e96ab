import CredentialSync.CommandLine.Grammar
import CredentialSync.Credential.Record
import CredentialSync.Key

/-!
# Invocations

What a user asks the program to do, and how it is read from the arguments of a process.
-/

namespace CredentialSync.CommandLine

/-! ## 1. Commands -/

/-- The credential that a command is about. -/
structure CredentialArguments where
  origin : String
  username : String
  /-- The sign-on realm; without one the origin is meant. -/
  realm : Option String := none
  usernameElement : String := "username"
  passwordElement : String := "password"
  deriving DecidableEq, Repr

/-- The natural key of the credential. -/
def CredentialArguments.naturalKey (c : CredentialArguments) : NaturalKey :=
  { origin := c.origin
    usernameElement := c.usernameElement
    usernameValue := c.username
    passwordElement := c.passwordElement
    signonRealm := c.realm.getD c.origin }

/-- What the program can do. -/
inductive Command where
  /-- Saves a new credential. -/
  | add (credential : CredentialArguments) (password : String)
  /-- Changes the password of a credential. -/
  | update (credential : CredentialArguments) (password : String)
  /-- Deletes a credential. -/
  | remove (key : PrimaryKey)
  /-- Lists the credentials without their passwords. -/
  | list (json : Bool)
  /-- Shows the client tag of a credential. -/
  | tag (credential : CredentialArguments)
  /-- Shows everything that a change processor would get. -/
  | dump
  /-- Shows the state of synchronisation. -/
  | status
  deriving DecidableEq, Repr

/-- A command and the options in front of it. -/
structure Invocation where
  database : Option String := none
  config : Option String := none
  logLevel : Option String := none
  jsonLogs : Bool := false
  /-- Whether local writes are forwarded. -/
  track : Bool := false
  command : Option Command := none
  deriving DecidableEq, Repr

/-- Whose help someone asks for. -/
inductive Topic where
  | program
  | command (name : String)
  deriving DecidableEq, Repr

/-- What a command line asks for. -/
inductive Request where
  | run (invocation : Invocation)
  | help (topic : Topic)
  | version
  | rejected
  deriving DecidableEq, Repr

/-! ## 2. Grammars -/

/-- The option that asks for help. -/
def helpOption : OptionSpec := ⟨"help", .help, some 'h'⟩

/-- An option with a value. -/
def valueOption (name : String) : OptionSpec := ⟨name, .value, none⟩

/-- The names of the commands; `help` explains them. -/
def commandNames : List String :=
  ["add", "update", "remove", "list", "tag", "dump", "status", "help"]

/-- What stands in front of a command. -/
def programGrammar : Grammar :=
  { options := [valueOption "db", valueOption "config", ⟨"log-level", .value, some 'l'⟩,
      ⟨"json-logs", .flag, none⟩, ⟨"track", .flag, none⟩, helpOption,
      ⟨"version", .version, some 'V'⟩]
    subcommands := commandNames }

/-- The options that describe a credential. -/
def credentialOptions : List OptionSpec :=
  ["origin", "username", "realm", "username-element", "password-element"].map valueOption

/-- Whether a text is the number of a record. -/
def key? (text : String) : Option PrimaryKey :=
  match Text.Decimal.signed? text.toList with
  | none => none
  | some n =>
    if Int64.minValue.toInt ≤ n && n ≤ Int64.maxValue.toInt then some (Int64.ofInt n) else none

/-- What stands behind a command. -/
def commandGrammar (name : String) : Grammar :=
  if name == "add" || name == "update" then
    { options := credentialOptions ++ [valueOption "password", helpOption]
      required := ["origin", "username", "password"] }
  else if name == "remove" then
    { options := [helpOption]
      operand := some "id"
      required := ["id"]
      accepts := fun _ value => (key? value).isSome }
  else if name == "list" then { options := [⟨"json", .flag, none⟩, helpOption] }
  else if name == "tag" then
    { options := credentialOptions ++ [helpOption], required := ["origin", "username"] }
  else { options := [helpOption] }

/-! ## 3. Reading -/

/-- The credential that the options of a command describe. -/
def credential (f : Found) : CredentialArguments :=
  { origin := (f.value? "origin").getD ""
    username := (f.value? "username").getD ""
    realm := f.value? "realm"
    usernameElement := (f.value? "username-element").getD "username"
    passwordElement := (f.value? "password-element").getD "password" }

/-- The command of a name with its options. -/
def command (name : String) (f : Found) : Command :=
  let password := (f.value? "password").getD ""
  if name == "add" then .add (credential f) password
  else if name == "update" then .update (credential f) password
  else if name == "remove" then .remove (((f.value? "id").bind key?).getD 0)
  else if name == "list" then .list (f.has "json")
  else if name == "tag" then .tag (credential f)
  else if name == "dump" then .dump
  else .status

/-- The invocation that the options in front of a command describe. -/
def invocation (f : Found) (c : Option Command) : Invocation :=
  { database := f.value? "db"
    config := f.value? "config"
    logLevel := f.value? "log-level"
    jsonLogs := f.has "json-logs"
    track := f.has "track"
    command := c }

/-- Reads the arguments of a command. -/
def readCommand (name : String) (args : List String) : Except Stop Command :=
  let g := commandGrammar name
  ((g.scan {} args).bind fun (f, _) => g.complete f).map (command name)

/-- What a command line asks for that was stopped; `topic` is what help would be about. -/
def stopped (topic : Topic) : Stop → Request
  | .help => .help topic
  | .version => .version
  | .rejected => .rejected

/-- The help that the arguments behind `help` ask for. -/
def helpRequest : List String → Request
  | [] => .help .program
  | [name] => if commandNames.contains name then .help (.command name) else .rejected
  | _ => .rejected

/-- What the arguments of a process ask for. -/
def readRequest (args : List String) : Request :=
  match programGrammar.scan {} args with
  | .error stop => stopped .program stop
  | .ok (f, none) =>
    match programGrammar.complete f with
    | .error stop => stopped .program stop
    | .ok f => .run (invocation f none)
  | .ok (f, some (name, rest)) =>
    if name == "help" then helpRequest rest
    else
      match readCommand name rest with
      | .error stop => stopped (.command name) stop
      | .ok c =>
        match programGrammar.complete f with
        | .error stop => stopped .program stop
        | .ok f => .run (invocation f (some c))

end CredentialSync.CommandLine
