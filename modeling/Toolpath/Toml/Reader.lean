import Toolpath.Toml.Text
import Toolpath.Toml.Scalar

/-!
# Reading TOML

A document is read statement by statement: a header opens a table, and an
assignment puts a value into the table opened last.  Documents follow version
1.0 of the format; a byte order mark before them is skipped.
-/

namespace Toolpath.Toml

/-- Arrays and inline tables are nested less deeply than this, and paths have
fewer keys. -/
def nestingLimit : Nat := 80

/-- Reads the path of a key, which has a limited length. -/
def readLimitedPath? (text : List Char) :
    Option (List String × List Char) := do
  let (path, rest) ← readPath? (text.length + 1) text
  if path.length < nestingLimit then return (path, rest) else none

/-- Assigns a value at the end of a path of keys. -/
def assignPath
    (path : List String)
    (value : Value)
    (entries : Entries) :
    Option Entries := do
  assign (← path.getLast?) value path.dropLast entries

mutual

/-- Reads a value at the given depth of nesting. -/
def readValue? (depth : Nat) :
    Nat → List Char → Option (Value × List Char)
  | 0, _ => none
  | fuel + 1, text =>
    match text with
    | '"' :: _ => do
      let (content, rest) ← readString? text
      return (.string content, rest)
    | '\'' :: _ => do
      let (content, rest) ← readString? text
      return (.string content, rest)
    | '[' :: rest =>
      if depth + 1 < nestingLimit then do
        let (elements, rest) ← readElements? (depth + 1) fuel rest
        return (.array elements, rest)
      else none
    | '\x7b' :: rest =>
      if depth + 1 < nestingLimit then
        match skipSpace rest with
        | '\x7d' :: rest => some (.table [], rest)
        | rest => do
          let (entries, rest) ← readInline? (depth + 1) fuel [] rest
          return (.table (finishEntries entries), rest)
      else none
    | _ => readScalar? text

/-- Reads the elements of an array up to its end. -/
def readElements? (depth : Nat) :
    Nat → List Char → Option (List Value × List Char)
  | 0, _ => none
  | fuel + 1, text =>
    match skipTrivia false text with
    | ']' :: rest => some ([], rest)
    | text => do
      let (element, rest) ← readValue? depth fuel text
      match skipTrivia false rest with
      | ']' :: rest => return ([element], rest)
      | ',' :: rest => do
        let (elements, rest) ← readElements? depth fuel rest
        return (element :: elements, rest)
      | _ => none

/-- Reads the entries of an inline table up to its end. -/
def readInline? (depth : Nat) :
    Nat → Entries → List Char → Option (Entries × List Char)
  | 0, _, _ => none
  | fuel + 1, entries, text => do
    let (path, rest) ← readLimitedPath? text
    match rest with
    | '=' :: rest => do
      let (value, rest) ← readValue? depth fuel (skipSpace rest)
      let entries ← assignPath path value entries
      match skipSpace rest with
      | '\x7d' :: rest => return (entries, rest)
      | ',' :: rest => readInline? depth fuel entries rest
      | _ => none
    | _ => none

end

inductive Statement where
  /-- Opens the table at a path. -/
  | table (path : List String)
  /-- Opens a further table of the array at a path. -/
  | element (path : List String)
  /-- Puts a value into the open table. -/
  | assignment (path : List String) (value : Value)

/-- Reads the header of an array's further table, after its two brackets. -/
def readElementHeader? (text : List Char) :
    Option (Statement × List Char) :=
  match readLimitedPath? text with
  | some (path, ']' :: ']' :: rest) => some (.element path, rest)
  | _ => none

def readTableHeader? (text : List Char) :
    Option (Statement × List Char) :=
  match readLimitedPath? text with
  | some (path, ']' :: rest) => some (.table path, rest)
  | _ => none

def readAssignment? (text : List Char) :
    Option (Statement × List Char) :=
  match readLimitedPath? text with
  | some (path, '=' :: rest) =>
    (readValue? 0 (rest.length + 1) (skipSpace rest)).map
      fun (value, rest) => (.assignment path value, rest)
  | _ => none

/-- Reads a statement that begins with the text, and the end of its line. -/
def readStatement? (text : List Char) :
    Option (Statement × List Char) := do
  let (statement, rest) ←
    match text with
    | '[' :: '[' :: rest => readElementHeader? rest
    | '[' :: rest => readTableHeader? rest
    | _ => readAssignment? text
  return (statement, ← readLineEnd? rest)

/-- Reads all statements of a document. -/
def readStatements? : Nat → List Char → Option (List Statement)
  | 0, _ => none
  | fuel + 1, text =>
    match skipTrivia false text with
    | [] => some []
    | text => do
      let (statement, rest) ← readStatement? text
      return statement :: (← readStatements? fuel rest)

/-- Carries out statements one after the other; `current` is the path of the
table opened last. -/
def carryOut
    (current : List String)
    (entries : Entries) :
    List Statement → Option Entries
  | [] => some entries
  | .table path :: rest => do
    let entries ←
      changeAt (openTable (path.getLastD "")) path.dropLast entries
    carryOut path entries rest
  | .element path :: rest => do
    let entries ←
      changeAt (openElement (path.getLastD "")) path.dropLast entries
    carryOut path entries rest
  | .assignment path value :: rest => do
    let entries ← changeAt (assignPath path value) current entries
    carryOut current entries rest

/-- Reads a document as the table of its entries. -/
def readCharacters? (text : List Char) : Option Value := do
  let text :=
    match text with
    | '\ufeff' :: rest => rest
    | _ => text
  let statements ← readStatements? (text.length + 1) text
  let entries ← carryOut [] [] statements
  return .table (finishEntries entries)

/-- Reads a document. -/
def read? (text : String) : Option Value := readCharacters? text.toList

end Toolpath.Toml
