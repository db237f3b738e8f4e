/-!
# TOML values

A TOML document as a tree, and the tables from which it is put together while
its statements are read.
-/

namespace Toolpath.Toml

/-- A TOML value; the moment that a date or time names is not kept. -/
inductive Value where
  | string (content : String)
  | integer (value : Int)
  | float (value : Float)
  | bool (value : Bool)
  | dateTime
  | array (elements : List Value)
  | table (entries : List (String × Value))
deriving Inhabited

/-- How a table came to be, which decides what may still be added to it. -/
inductive Origin where
  /-- It has a header of its own. -/
  | header
  /-- It stands on the way to a table with a header. -/
  | implied
  /-- It stands on the way of a dotted key. -/
  | dotted
deriving DecidableEq, Repr

/-- What a key of an unfinished table holds. -/
inductive Node where
  /-- A finished value. -/
  | value (content : Value)
  /-- A table that may still grow. -/
  | table (origin : Origin) (entries : List (String × Node))
  /-- An array of tables, the last of which may still grow. -/
  | tables (items : List Node)
deriving Inhabited

/-- The entries of an unfinished table. -/
abbrev Entries : Type := List (String × Node)

mutual

/-- The value that an unfinished node comes to. -/
def Node.finish : Node → Value
  | .value content => content
  | .table _ entries => .table (finishEntries entries)
  | .tables items => .array (finishItems items)

/-- The entries that an unfinished table comes to. -/
def finishEntries : List (String × Node) → List (String × Value)
  | [] => []
  | (key, node) :: rest => (key, node.finish) :: finishEntries rest

/-- The elements that an array of unfinished tables comes to. -/
def finishItems : List Node → List Value
  | [] => []
  | node :: rest => node.finish :: finishItems rest

end

def lookup (key : String) (entries : Entries) : Option Node :=
  (entries.find? fun entry => entry.1 == key).map Prod.snd

/-- Puts a node in the place of what a key holds, or at the end. -/
def store
    (key : String)
    (node : Node) :
    Entries → Entries
  | [] => [(key, node)]
  | entry :: rest =>
    if entry.1 == key then (key, node) :: rest
    else entry :: store key node rest

/-- Changes the last of a row of tables. -/
def changeLast
    (change : Entries → Option Entries)
    (items : List Node) :
    Option (List Node) :=
  match items.getLast? with
  | some (.table origin entries) => do
    return items.dropLast ++ [.table origin (← change entries)]
  | _ => none

/--
Assigns a value to a key at the end of a dotted path.

The tables on the path are made as needed.  A table that has a header takes no
more entries this way, and the table at the end of the path has to be one that
dotted keys made.
-/
def assign
    (key : String)
    (value : Value) :
    List String → Entries → Option Entries
  | [], entries =>
    match lookup key entries with
    | none => some (entries ++ [(key, .value value)])
    | some _ => none
  | step :: path, entries =>
    match lookup step entries with
    | none => do
      return store step (.table .dotted (← assign key value path [])) entries
    | some (.table origin inner) =>
      if origin = .header ∨ (path.isEmpty ∧ origin ≠ .dotted) then none
      else do
        return store step (.table origin (← assign key value path inner))
          entries
    | some (.tables items) =>
      if path.isEmpty then none
      else do
        return store step
          (.tables (← changeLast (assign key value path) items)) entries
    | some (.value _) => none

/--
Changes the table at the end of a header's path; the tables before it are made
as needed, and an array of tables stands for its last table.
-/
def changeAt
    (change : Entries → Option Entries) :
    List String → Entries → Option Entries
  | [], entries => change entries
  | step :: path, entries =>
    match lookup step entries with
    | none => do
      return store step (.table .implied (← changeAt change path [])) entries
    | some (.table origin inner) => do
      return store step (.table origin (← changeAt change path inner)) entries
    | some (.tables items) => do
      return store step
        (.tables (← changeLast (changeAt change path) items)) entries
    | some (.value _) => none

/-- Gives the table of a key its header, which it can have only once. -/
def openTable
    (key : String)
    (entries : Entries) :
    Option Entries :=
  match lookup key entries with
  | none => some (store key (.table .header []) entries)
  | some (.table .implied inner) =>
    some (store key (.table .header inner) entries)
  | some _ => none

/-- Begins a further table of the array that a key holds. -/
def openElement
    (key : String)
    (entries : Entries) :
    Option Entries :=
  match lookup key entries with
  | none => some (store key (.tables [.table .header []]) entries)
  | some (.tables items) =>
    some (store key (.tables (items ++ [.table .header []])) entries)
  | some _ => none

end Toolpath.Toml
