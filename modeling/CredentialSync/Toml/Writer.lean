import CredentialSync.Text.Decimal
import CredentialSync.Toml.Quoted

/-!
# Writing TOML documents

A document is written as a list of tables, each with a header and one line per key. An empty line
stands between two tables. Names of tables and keys are written as they are, so they must be such
that need no quotes.
-/

namespace CredentialSync.Toml

/-- A value that is written on its own line. -/
inductive Scalar where
  | string (s : String)
  | integer (n : Int)
  | boolean (b : Bool)
  deriving DecidableEq, Repr

/-- The text of a value. -/
def Scalar.text : Scalar → List Char
  | .string s => Quoted.write s.toList
  | .integer n => (Text.Decimal.ofInt n).toList
  | .boolean true => ['t', 'r', 'u', 'e']
  | .boolean false => ['f', 'a', 'l', 's', 'e']

/-- A table of a document: its name, and its keys with their values. -/
structure Section where
  name : String
  fields : List (String × Scalar)
  deriving DecidableEq, Repr

/-- The line of a key. -/
def fieldLine (field : String × Scalar) : List Char :=
  field.1.toList ++ [' ', '=', ' '] ++ field.2.text ++ ['\n']

/-- The lines of a table. -/
def Section.lines (s : Section) : List Char :=
  '[' :: s.name.toList ++ [']', '\n'] ++ s.fields.flatMap fieldLine

/-- The text of a document. -/
def write (sections : List Section) : String :=
  String.ofList (['\n'].intercalate (sections.map Section.lines))

end CredentialSync.Toml
