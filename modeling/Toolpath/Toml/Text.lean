import Toolpath.Number.Scan
import Toolpath.Text.Hex

/-!
# Texts and keys of TOML

The four kinds of quoted text, bare keys, and the blanks and comments between
tokens.  Every function returns what it read together with the rest.
-/

namespace Toolpath.Toml

/-- Blanks within a line. -/
def isSpace (character : Char) : Bool :=
  character = ' ' || character = '\t'

/-- Removes the blanks before a token. -/
def skipSpace (text : List Char) : List Char := text.dropWhile isSpace

/-- The characters of a comment: no control characters but the tab. -/
def isPlain (character : Char) : Bool :=
  character = '\t' || (0x20 ≤ character.toNat && character.toNat ≠ 0x7f)

/-- Removes blanks, line breaks and comments; the flag says whether the text
begins inside a comment. -/
def skipTrivia (inComment : Bool) : List Char → List Char
  | [] => []
  | '\n' :: rest => skipTrivia false rest
  | '\r' :: rest =>
    match rest with
    | '\n' :: _ => skipTrivia false rest
    | _ => '\r' :: rest
  | character :: rest =>
    if inComment then
      if isPlain character then skipTrivia true rest
      else character :: rest
    else if isSpace character then skipTrivia false rest
    else if character = '#' then skipTrivia true rest
    else character :: rest

def readLineEnd? (text : List Char) : Option (List Char) :=
  let rest :=
    match skipSpace text with
    | '#' :: rest => rest.dropWhile isPlain
    | rest => rest
  match rest with
  | [] => some []
  | '\n' :: rest => some rest
  | '\r' :: '\n' :: rest => some rest
  | _ => none

/-- The character whose number is given by hexadecimal digits. -/
def numberedCharacter? (digits : List Char) : Option Char := do
  let code ← Text.hexNumber? digits
  if Nat.isValidChar code then return Char.ofNat code else none

def shortEscape? : Char → Option Char
  | 'b' => some '\x08'
  | 't' => some '\t'
  | 'n' => some '\n'
  | 'f' => some '\x0c'
  | 'r' => some '\r'
  | '"' => some '"'
  | '\\' => some '\\'
  | _ => none

def readEscape? : List Char → Option (Char × List Char)
  | 'u' :: a :: b :: c :: d :: rest => do
    return (← numberedCharacter? [a, b, c, d], rest)
  | 'U' :: a :: b :: c :: d :: e :: f :: g :: h :: rest => do
    return (← numberedCharacter? [a, b, c, d, e, f, g, h], rest)
  | mark :: rest => do return (← shortEscape? mark, rest)
  | [] => none

/-- Reads a text between quotation marks, up to the closing one.  The fuel
bounds how many characters are read. -/
def readBasic? : Nat → List Char → Option (List Char × List Char)
  | 0, _ => none
  | fuel + 1, text =>
    match text with
    | '"' :: rest => some ([], rest)
    | '\\' :: rest => do
      let (character, rest) ← readEscape? rest
      let (content, rest) ← readBasic? fuel rest
      return (character :: content, rest)
    | character :: rest =>
      if isPlain character then do
        let (content, rest) ← readBasic? fuel rest
        return (character :: content, rest)
      else none
    | [] => none

/-- Reads a text between apostrophes, up to the closing one. -/
def readLiteral? (text : List Char) : Option (List Char × List Char) :=
  let isContent := fun character => isPlain character && character ≠ '\''
  match text.dropWhile isContent with
  | '\'' :: rest => some (text.takeWhile isContent, rest)
  | _ => none

/-- Removes the line break right after an opening delimiter. -/
def skipFirstBreak : List Char → List Char
  | '\n' :: rest => rest
  | '\r' :: '\n' :: rest => rest
  | text => text

/-- The quotation marks, at most two, that still belong to a text when three
have been found, and the rest after them. -/
def splitClosing
    (mark : Char)
    (text : List Char) :
    List Char × List Char :=
  match text with
  | first :: second :: rest =>
    if first = mark then
      if second = mark then ([mark, mark], rest)
      else ([mark], second :: rest)
    else ([], text)
  | [first] => if first = mark then ([mark], []) else ([], text)
  | [] => ([], [])

/-- Removes blanks and line breaks.  A carriage return breaks a line only
together with the line feed after it. -/
def skipBreaks : List Char → List Char
  | '\r' :: '\n' :: rest => skipBreaks rest
  | first :: rest =>
    if isSpace first || first = '\n' then skipBreaks rest else first :: rest
  | [] => []

/-- Removes the rest of a line that ends in a backslash, and all blanks and
line breaks after it. -/
def skipContinuation? (text : List Char) : Option (List Char) :=
  match skipSpace text with
  | '\n' :: rest => some (skipBreaks rest)
  | '\r' :: '\n' :: rest => some (skipBreaks rest)
  | _ => none

/-- Reads a text of several lines, up to its closing three marks.  A line break
counts as a single character, however it is written. -/
def readMultiline?
    (mark : Char) :
    Nat → List Char → Option (List Char × List Char)
  | 0, _ => none
  | fuel + 1, text =>
    match text with
    | [] => none
    | '\r' :: '\n' :: rest => do
      let (content, rest) ← readMultiline? mark fuel rest
      return ('\n' :: content, rest)
    | '\n' :: rest => do
      let (content, rest) ← readMultiline? mark fuel rest
      return ('\n' :: content, rest)
    | first :: rest =>
      if text.take 3 = [mark, mark, mark] then
        some (splitClosing mark (text.drop 3))
      else if first = '\\' ∧ mark = '"' then
        match readEscape? rest with
        | some (character, rest) => do
          let (content, rest) ← readMultiline? mark fuel rest
          return (character :: content, rest)
        | none => do readMultiline? mark fuel (← skipContinuation? rest)
      else if isPlain first then do
        let (content, rest) ← readMultiline? mark fuel rest
        return (first :: content, rest)
      else none

/-- Reads a quoted text of any of the four kinds. -/
def readString? (text : List Char) : Option (String × List Char) := do
  let (content, rest) ←
    match text with
    | '"' :: '"' :: '"' :: rest =>
      readMultiline? '"' (rest.length + 1) (skipFirstBreak rest)
    | '\'' :: '\'' :: '\'' :: rest =>
      readMultiline? '\'' (rest.length + 1) (skipFirstBreak rest)
    | '"' :: rest => readBasic? (rest.length + 1) rest
    | '\'' :: rest => readLiteral? rest
    | _ => none
  return (String.ofList content, rest)

/-- The characters of a key without quotes. -/
def isBareKey (character : Char) : Bool :=
  character.isAlphanum || character = '_' || character = '-'

def readKey? (text : List Char) : Option (String × List Char) :=
  match text with
  | '"' :: rest => do
    let (content, rest) ← readBasic? (rest.length + 1) rest
    return (String.ofList content, rest)
  | '\'' :: rest => do
    let (content, rest) ← readLiteral? rest
    return (String.ofList content, rest)
  | _ =>
    match text.takeWhile isBareKey with
    | [] => none
    | key => some (String.ofList key, text.dropWhile isBareKey)

/-- Reads keys joined by dots, with the blanks around them. -/
def readPath? : Nat → List Char → Option (List String × List Char)
  | 0, _ => none
  | fuel + 1, text => do
    let (key, rest) ← readKey? (skipSpace text)
    match skipSpace rest with
    | '.' :: rest => do
      let (path, rest) ← readPath? fuel rest
      return (key :: path, rest)
    | rest => return ([key], rest)

end Toolpath.Toml
