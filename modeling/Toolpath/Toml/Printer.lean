import Toolpath.Number.Layout

/-!
# Writing TOML

A document is written as a row of tables, each under its header and with one
assignment on a line; a blank line stands between two tables.

Of the four styles of quoted text the plainest is taken that shows a text as it
is.  Only a text that no style shows so is written with escapes.
-/

namespace Toolpath.Toml

/-- The values that are written. -/
inductive Scalar where
  | string (content : String)
  | natural (value : Nat)
  | float (value : Float)
  | bool (value : Bool)

structure Table where
  path : List String
  entries : List (String × Scalar)

def upperHexDigit (value : Nat) : Char :=
  if value < 10 then Char.ofNat (0x30 + value) else Char.ofNat (0x37 + value)

/-- A character inside quotation marks. -/
def escapeCharacter (character : Char) : List Char :=
  if character = '"' then ['\\', '"']
  else if character = '\\' then ['\\', '\\']
  else if character = '\x08' then ['\\', 'b']
  else if character = '\t' then ['\\', 't']
  else if character = '\n' then ['\\', 'n']
  else if character = '\x0c' then ['\\', 'f']
  else if character = '\r' then ['\\', 'r']
  else if character.toNat < 0x20 ∨ character.toNat = 0x7f then
    ['\\', 'u', '0', '0', upperHexDigit (character.toNat / 16),
      upperHexDigit (character.toNat % 16)]
  else [character]

/-- The styles of quoted text.  Two of them keep line breaks, and two know no
escapes. -/
inductive TextStyle where
  | basic
  | literal
  | multilineBasic
  | multilineLiteral
deriving DecidableEq, Repr

/-- Whether a character cannot be shown as it is in any style. -/
def isHidden (character : Char) : Bool :=
  (character.toNat < 0x20 && character ≠ '\t' && character ≠ '\n')
    || character.toNat = 0x7f

/-- Whether a mark stands three times in a row. -/
def hasTriple (mark : Char) : List Char → Bool
  | first :: second :: third :: rest =>
    (first = mark && second = mark && third = mark)
      || hasTriple mark (second :: third :: rest)
  | _ => false

/-- The style in which a text is written. -/
def TextStyle.choose (content : List Char) : TextStyle :=
  let hidden := content.any isHidden
  let escape := content.contains '\\'
  let newline := content.contains '\n'
  if !(hidden || escape || content.contains '"' || newline) then basic
  else if !(hidden || content.contains '\'' || newline) then literal
  else if !(hidden || escape || hasTriple '"' content) then multilineBasic
  else if !(hidden || hasTriple '\'' content) then multilineLiteral
  else if newline then multilineBasic
  else basic

/--
Characters with escapes where they are needed.  Between single quotation marks
every mark in the text is escaped.  Between threefold ones line breaks are kept,
and a mark is escaped when two have been written before it; `marks` counts them.
-/
def escapedCharacters
    (multiline : Bool)
    (marks : Nat) :
    List Char → List Char
  | [] => []
  | character :: rest =>
    if multiline ∧ character = '"' ∧ marks < 2 then
      '"' :: escapedCharacters multiline (marks + 1) rest
    else if multiline ∧ character = '\n' then
      '\n' :: escapedCharacters multiline 0 rest
    else escapeCharacter character ++ escapedCharacters multiline 0 rest

/-- The line break right after threefold marks, which belongs to no text.  It
stands there when the text has several lines. -/
def leadingBreak (content : List Char) : List Char :=
  if content.contains '\n' then ['\n'] else []

/-- A text in a style. -/
def TextStyle.characters (content : List Char) : TextStyle → List Char
  | basic => '"' :: escapedCharacters false 0 content ++ ['"']
  | literal => '\'' :: content ++ ['\'']
  | multilineBasic =>
    ['"', '"', '"'] ++ leadingBreak content ++ escapedCharacters true 0 content
      ++ ['"', '"', '"']
  | multilineLiteral =>
    ['\'', '\'', '\''] ++ leadingBreak content ++ content
      ++ ['\'', '\'', '\'']

/-- A text in the style that is chosen for it. -/
def quoted (content : String) : List Char :=
  (TextStyle.choose content.toList).characters content.toList

/-- A double; infinities and NaN are words. -/
def floatCharacters (value : Float) : List Char :=
  if value.isNaN then ['n', 'a', 'n']
  else Number.Layout.toml.characters value

/-- A value as it is written. -/
def Scalar.characters : Scalar → List Char
  | .string content => quoted content
  | .natural value => Number.digitsOf value
  | .float value => floatCharacters value
  | .bool true => ['t', 'r', 'u', 'e']
  | .bool false => ['f', 'a', 'l', 's', 'e']

def assignmentLine (entry : String × Scalar) : List Char :=
  entry.1.toList ++ [' ', '=', ' '] ++ entry.2.characters ++ ['\n']

/-- A table under its header. -/
def Table.characters (table : Table) : List Char :=
  '[' :: (".".intercalate table.path).toList ++ [']', '\n']
    ++ table.entries.flatMap assignmentLine

/-- Tables with a blank line between any two. -/
def documentCharacters : List Table → List Char
  | [] => []
  | [table] => table.characters
  | table :: further =>
    table.characters ++ '\n' :: documentCharacters further

end Toolpath.Toml
