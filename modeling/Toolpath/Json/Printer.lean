import Toolpath.Json.Value

/-!
# Writing JSON

A value is written compactly, or indented by two spaces with one element or
member on a line.  Characters are written as they are, except the quotation
mark, the backslash and the control characters below the blank.
-/

namespace Toolpath.Json

def hexDigit (value : Nat) : Char := Nat.digitChar value

def numberedEscape (code : Nat) : List Char :=
  ['\\', 'u', hexDigit (code / 4096 % 16), hexDigit (code / 256 % 16),
    hexDigit (code / 16 % 16), hexDigit (code % 16)]

/-- A character inside quotation marks. -/
def escapeCharacter (character : Char) : List Char :=
  if character = '"' then ['\\', '"']
  else if character = '\\' then ['\\', '\\']
  else if character = '\x08' then ['\\', 'b']
  else if character = '\x0c' then ['\\', 'f']
  else if character = '\n' then ['\\', 'n']
  else if character = '\r' then ['\\', 'r']
  else if character = '\t' then ['\\', 't']
  else if character.toNat < 0x20 then numberedEscape character.toNat
  else [character]

/-- A text in quotation marks; one without content is written as an escape
for half a surrogate pair. -/
def quoted (content : Option String) : List Char :=
  match content with
  | some content => '"' :: content.toList.flatMap escapeCharacter ++ ['"']
  | none => '"' :: numberedEscape 0xd800 ++ ['"']

mutual

/-- A value without any blanks. -/
def compact : Value → List Char
  | .null => ['n', 'u', 'l', 'l']
  | .bool true => ['t', 'r', 'u', 'e']
  | .bool false => ['f', 'a', 'l', 's', 'e']
  | .number numeral => numeral.characters
  | .text content => quoted content
  | .array [] => ['[', ']']
  | .array (first :: rest) =>
    '[' :: compact first ++ compactElements rest ++ [']']
  | .object [] => ['\x7b', '\x7d']
  | .object ((key, value) :: rest) =>
    '\x7b' :: quoted key ++ ':' :: compact value
      ++ compactMembers rest ++ ['\x7d']

/-- Further elements of an array. -/
def compactElements : List Value → List Char
  | [] => []
  | element :: rest => ',' :: compact element ++ compactElements rest

/-- Further members of an object. -/
def compactMembers : List (Option String × Value) → List Char
  | [] => []
  | (key, value) :: rest =>
    ',' :: quoted key ++ ':' :: compact value ++ compactMembers rest

end

/-- A line break and two spaces for every level. -/
def newLine (level : Nat) : List Char :=
  '\n' :: List.replicate (2 * level) ' '

mutual

/-- A value inside the given number of levels. -/
def indented (level : Nat) : Value → List Char
  | .null => ['n', 'u', 'l', 'l']
  | .bool true => ['t', 'r', 'u', 'e']
  | .bool false => ['f', 'a', 'l', 's', 'e']
  | .number numeral => numeral.characters
  | .text content => quoted content
  | .array [] => ['[', ']']
  | .array (first :: rest) =>
    '[' :: newLine (level + 1) ++ indented (level + 1) first
      ++ indentedElements (level + 1) rest ++ newLine level ++ [']']
  | .object [] => ['\x7b', '\x7d']
  | .object ((key, value) :: rest) =>
    '\x7b' :: newLine (level + 1) ++ quoted key ++ ':' :: ' '
      :: indented (level + 1) value
      ++ indentedMembers (level + 1) rest ++ newLine level ++ ['\x7d']

/-- Further elements of an array, each on a line of its own. -/
def indentedElements (level : Nat) : List Value → List Char
  | [] => []
  | element :: rest =>
    ',' :: newLine level ++ indented level element
      ++ indentedElements level rest

/-- Further members of an object, each on a line of its own. -/
def indentedMembers (level : Nat) :
    List (Option String × Value) → List Char
  | [] => []
  | (key, value) :: rest =>
    ',' :: newLine level ++ quoted key ++ ':' :: ' ' :: indented level value
      ++ indentedMembers level rest

end

def Value.compactText (value : Value) : String :=
  String.ofList (compact value)

def Value.indentedText (value : Value) : String :=
  String.ofList (indented 0 value)

end Toolpath.Json
