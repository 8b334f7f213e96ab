/-!
# TOML values and tables

* A `Value` is what stands behind a key. Of numbers with a fraction and of dates only the kind is
  kept.
* A `Table` is a table while its document is read. It remembers how it came to be: by a header of
  its own, as the parent of another header, or through dotted keys; that decides what may be added
  to it.

`Table.addKey` and `Table.addHeader` refuse what would define something twice.
-/

namespace CredentialSync.Toml

/-! ## 1. Values -/

/-- A value of a document. -/
inductive Value where
  | string (s : String)
  | integer (n : Int)
  | boolean (b : Bool)
  | float
  | datetime
  | array (vs : List Value)
  | table (entries : List (String × Value))
  deriving Inhabited

/-! ## 2. Tables under construction -/

/-- How a table came to be. -/
inductive Origin where
  /-- By a header, or as the document itself. -/
  | header
  /-- As the parent of a table with a header. -/
  | parent
  /-- Through a dotted key. -/
  | dotted
  deriving DecidableEq

/-- A table, and the entries of tables. -/
inductive Item where
  | value (v : Value)
  | table (origin : Origin) (entries : List (String × Item))
  | tables (ts : List (List (String × Item)))

/-- The entries of a table in the order in which they were made. -/
abbrev Entries := List (String × Item)

/-- Replaces the entry of a key, or adds one at the end. -/
def Entries.set (key : String) (item : Item) : Entries → Entries
  | [] => [(key, item)]
  | (k, i) :: rest => if k == key then (k, item) :: rest else (k, i) :: Entries.set key item rest

/-- Sets a key that must be new. -/
def Entries.addNew (key : String) (item : Item) (es : Entries) : Option Entries :=
  match es.lookup key with
  | none => some (Entries.set key item es)
  | some _ => none

/-- Changes the last table of a list. -/
def modifyLast (f : Entries → Option Entries) : List Entries → Option (List Entries)
  | [] => none
  | [es] => (f es).map ([·])
  | es :: rest => (modifyLast f rest).map (es :: ·)

/-- Adds a value under a dotted key. On the way new tables are made, and tables with a header of
their own are closed. The table that gets the value must be one that a dotted key made, or the one
that the key starts from; `mayAdd` says that it is. -/
def Entries.addKeyTo (value : Value) (mayAdd : Bool) : List String → Entries → Option Entries
  | [], _ => none
  | [key], es => if mayAdd then es.addNew key (.value value) else none
  | key :: next :: path, es =>
    match es.lookup key with
    | none => (Entries.addKeyTo value true (next :: path) []).map fun sub =>
        Entries.set key (.table .dotted sub) es
    | some (.value _) => none
    | some (.table .header _) => none
    | some (.table origin sub) =>
      (Entries.addKeyTo value (origin == .dotted) (next :: path) sub).map fun sub =>
        Entries.set key (.table origin sub) es
    | some (.tables ts) =>
      (modifyLast (Entries.addKeyTo value false (next :: path)) ts).map fun ts =>
        Entries.set key (.tables ts) es

/-- Adds a value under a dotted key to a table. -/
def Entries.addKey (value : Value) (path : List String) (es : Entries) : Option Entries :=
  es.addKeyTo value true path

/-- Carries out a change to the table that a path leads to. Tables that do not exist are made as
parents; of a list of tables the last one is meant. -/
def Entries.modifyAt (f : Entries → Option Entries) : List String → Entries → Option Entries
  | [], es => f es
  | key :: path, es =>
    match es.lookup key with
    | none => (Entries.modifyAt f path []).map fun sub => Entries.set key (.table .parent sub) es
    | some (.value _) => none
    | some (.table origin sub) =>
      (Entries.modifyAt f path sub).map fun sub => Entries.set key (.table origin sub) es
    | some (.tables ts) =>
      (modifyLast (Entries.modifyAt f path) ts).map fun ts => Entries.set key (.tables ts) es

/-- Makes the table of a header. It must not exist, except as the parent of another. -/
def Entries.openTable (key : String) (es : Entries) : Option Entries :=
  match es.lookup key with
  | none => some (Entries.set key (.table .header []) es)
  | some (.table .parent sub) => some (Entries.set key (.table .header sub) es)
  | some _ => none

/-- Appends a table to the list of a header with double brackets. -/
def Entries.openListed (key : String) (es : Entries) : Option Entries :=
  match es.lookup key with
  | none => some (Entries.set key (.tables [[]]) es)
  | some (.tables ts) => some (Entries.set key (.tables (ts ++ [[]])) es)
  | some _ => none

/-- Makes the table of a header; `listed` says that the header has double brackets. -/
def Entries.addHeader (listed : Bool) (path : List String) (es : Entries) : Option Entries :=
  match path.getLast? with
  | none => none
  | some key =>
    es.modifyAt (if listed then Entries.openListed key else Entries.openTable key) path.dropLast

mutual

/-- The value that an entry stands for. -/
def Item.toValue : Item → Value
  | .value v => v
  | .table _ es => .table (entriesToValues es)
  | .tables ts => .array (tablesToValues ts)

/-- The values of the entries of a table. -/
def entriesToValues : List (String × Item) → List (String × Value)
  | [] => []
  | (key, item) :: rest => (key, item.toValue) :: entriesToValues rest

/-- The values of a list of tables. -/
def tablesToValues : List (List (String × Item)) → List Value
  | [] => []
  | es :: rest => .table (entriesToValues es) :: tablesToValues rest

end

end CredentialSync.Toml
