import CredentialSync.CommandLine.Invocation

/-!
# Usage

The help texts of the program and of its commands: a line that says what it is for, the form of a
command line, and lists of what may stand in it.
-/

namespace CredentialSync.CommandLine

/-- An entry of a list in a help text: what to write, and what it means. -/
structure UsageEntry where
  form : String
  meaning : String := ""

/-- A text with blanks up to a width. -/
def padTo (width : Nat) (s : String) : String :=
  s ++ String.ofList (List.replicate (width - s.length) ' ')

/-- The lines of a list; all meanings begin in one column. -/
def entryLines (entries : List UsageEntry) : List String :=
  let width := (entries.map (·.form.length)).foldl max 0
  entries.map fun e => "  " ++ padTo width e.form ++ "  " ++ e.meaning

/-- The entry for help. -/
def helpEntry : UsageEntry := ⟨"-h, --help", "Print help"⟩

/-- The commands and what they are for. -/
def commandEntries : List UsageEntry := [
  ⟨"add", "Save a new credential"⟩,
  ⟨"update", "Change the password of an existing credential"⟩,
  ⟨"remove", "Delete a credential by id"⟩,
  ⟨"list", "List stored credentials (passwords are not shown)"⟩,
  ⟨"tag", "Print the client tag and its hash for a credential"⟩,
  ⟨"dump", "Dump everything the bridge would hand to the processor"⟩,
  ⟨"status", "Show sync state"⟩,
  ⟨"help", "Print this message or the help of the given subcommand(s)"⟩]

/-- The options in front of a command. -/
def programEntries : List UsageEntry := [
  ⟨"    --db <DB>", "SQLite database holding records and sync metadata"⟩,
  ⟨"    --config <CONFIG>",
    "TOML configuration file (defaults come from SYNCBRIDGE_* variables)"⟩,
  ⟨"-l, --log-level <LOG_LEVEL>", "Set the log level (trace, debug, info, warn, error)"⟩,
  ⟨"    --json-logs", "Enable JSON formatted logging"⟩,
  ⟨"    --track", "Have the processor track metadata, so local writes are forwarded"⟩,
  helpEntry,
  ⟨"-V, --version", "Print version"⟩]

/-- The options that describe a credential. -/
def credentialEntries : List UsageEntry := [
  ⟨"    --origin <ORIGIN>", "Page the credential belongs to"⟩,
  ⟨"    --username <USERNAME>", ""⟩,
  ⟨"    --realm <REALM>", "Signon realm (defaults to the origin)"⟩,
  ⟨"    --username-element <USERNAME_ELEMENT>", "[default: username]"⟩,
  ⟨"    --password-element <PASSWORD_ELEMENT>", "[default: password]"⟩]

/-- The options of a command. -/
def optionEntries (name : String) : List UsageEntry :=
  if name == "add" || name == "update" then
    credentialEntries ++ [⟨"    --password <PASSWORD>", ""⟩, helpEntry]
  else if name == "tag" then credentialEntries ++ [helpEntry]
  else if name == "list" then [⟨"    --json", ""⟩, helpEntry]
  else [helpEntry]

/-- What follows the name of a command in its command line. -/
def commandForm (name : String) : String :=
  if name == "add" || name == "update" then
    " [OPTIONS] --origin <ORIGIN> --username <USERNAME> --password <PASSWORD>"
  else if name == "tag" then " [OPTIONS] --origin <ORIGIN> --username <USERNAME>"
  else if name == "remove" then " <ID>"
  else if name == "list" then " [OPTIONS]"
  else if name == "help" then " [COMMAND]..."
  else ""

/-- A list under its heading. -/
def block (heading : String) (entries : List UsageEntry) : List String :=
  ["", heading ++ ":"] ++ entryLines entries

/-- The lines of a help text. -/
def helpLines : Topic → List String
  | .program =>
    ["Usage: syncbridge [OPTIONS] [COMMAND]"] ++ block "Commands" commandEntries ++
      block "Options" programEntries
  | .command name =>
    let meaning := ((commandEntries.find? (·.form == name)).map (·.meaning)).getD ""
    [meaning, "", "Usage: syncbridge " ++ name ++ commandForm name] ++
      (if name == "remove" then block "Arguments" [⟨"<ID>", ""⟩]
        else if name == "help" then
          block "Arguments" [⟨"[COMMAND]...", "Print help for the subcommand(s)"⟩]
        else []) ++
      (if name == "help" then [] else block "Options" (optionEntries name))

/-- A help text. -/
def helpText (topic : Topic) : String := String.join ((helpLines topic).map (· ++ "\n"))

/-- The name and version of the program. -/
def versionText : String := "syncbridge 0.1.0\n"

end CredentialSync.CommandLine
