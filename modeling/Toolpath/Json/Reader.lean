import Toolpath.Json.Value
import Toolpath.Number.Scan
import Toolpath.Text.Hex

/-!
# Reading JSON

A document is one value.  A value is one of the words `null`, `true` and
`false`, a number, a text in quotation marks, the elements of an array in
brackets, or the members of an object in braces, each a text and a value with
a colon between them.  Elements and members are separated by commas, and blanks
may stand between any two tokens.

A number has no needless zeros before its dot, and digits on both sides of it.
A text may hold any character but control characters, of which quotation marks
and backslashes only as escapes.

Every function returns what it read together with the rest of the text.
-/

namespace Toolpath.Json

open Number

/-- The blanks that may stand between the tokens of a document. -/
def isSpace (character : Char) : Bool :=
  character = ' ' || character = '\t' || character = '\n' || character = '\r'

/-- Removes the blanks before a token. -/
def skipSpace (text : List Char) : List Char := text.dropWhile isSpace

/-- Reads the digits of a whole number, which has no needless zeros. -/
def readWhole? (text : List Char) : Option (List Char × List Char) :=
  match text with
  | '0' :: rest => some (['0'], rest)
  | _ =>
    match spanDigits text with
    | ([], _) => none
    | digits => some digits

/-- Reads an optional fraction, which has at least one digit. -/
def readFraction? : List Char → Option (Option (List Char) × List Char)
  | '.' :: rest =>
    match spanDigits rest with
    | ([], _) => none
    | (digits, rest) => some (some digits, rest)
  | text => some (none, text)

def readNumber? (text : List Char) : Option (Numeral × List Char) := do
  let (negative, unsigned) :=
    match text with
    | '-' :: rest => (true, rest)
    | _ => (false, text)
  let (whole, rest) ← readWhole? unsigned
  let (fraction, rest) ← readFraction? rest
  let (exponent, rest) ← readMarkedExponent? rest
  return (⟨negative, whole, fraction, exponent⟩, rest)

/-- A piece of a text: a character, or the code unit that an escape names. -/
inductive Piece where
  | character (value : Char)
  | codeUnit (code : Nat)
deriving DecidableEq, Repr

def shortEscape? : Char → Option Char
  | '"' => some '"'
  | '\\' => some '\\'
  | '/' => some '/'
  | 'b' => some '\x08'
  | 'f' => some '\x0c'
  | 'n' => some '\n'
  | 'r' => some '\r'
  | 't' => some '\t'
  | _ => none

/-- Reads the pieces of a text up to the closing quotation mark. -/
def readPieces? : List Char → Option (List Piece × List Char)
  | [] => none
  | '"' :: rest => some ([], rest)
  | '\\' :: 'u' :: a :: b :: c :: d :: rest => do
    let code ← Text.hexNumber? [a, b, c, d]
    let (pieces, rest) ← readPieces? rest
    return (.codeUnit code :: pieces, rest)
  | '\\' :: mark :: rest => do
    let character ← shortEscape? mark
    let (pieces, rest) ← readPieces? rest
    return (.character character :: pieces, rest)
  | character :: rest =>
    if character = '\\' ∨ character.toNat < 0x20 then none
    else do
      let (pieces, rest) ← readPieces? rest
      return (.character character :: pieces, rest)

/-- Whether a code unit is the first of a surrogate pair. -/
def isHighSurrogate (code : Nat) : Bool := 0xd800 ≤ code && code ≤ 0xdbff

/-- Whether a code unit is the second of a surrogate pair. -/
def isLowSurrogate (code : Nat) : Bool := 0xdc00 ≤ code && code ≤ 0xdfff

/-- The content of a text, unless half a surrogate pair stands alone in it. -/
def joinPieces? : List Piece → Option (List Char)
  | [] => some []
  | .character value :: rest => (joinPieces? rest).map (value :: ·)
  | .codeUnit code :: rest =>
    if isHighSurrogate code then
      match rest with
      | .codeUnit low :: rest =>
        if isLowSurrogate low then
          (joinPieces? rest).map
            (Char.ofNat
              (0x10000 + (code - 0xd800) * 0x400 + (low - 0xdc00)) :: ·)
        else none
      | _ => none
    else if isLowSurrogate code then none
    else (joinPieces? rest).map (Char.ofNat code :: ·)

/-- Reads a text after its opening quotation mark. -/
def readText? (text : List Char) : Option (Option String × List Char) := do
  let (pieces, rest) ← readPieces? text
  return ((joinPieces? pieces).map String.ofList, rest)

mutual

/-- Reads a value that begins with the text. -/
def readValue? : Nat → List Char → Option (Value × List Char)
  | 0, _ => none
  | fuel + 1, text =>
    match text with
    | 'n' :: 'u' :: 'l' :: 'l' :: rest => some (.null, rest)
    | 't' :: 'r' :: 'u' :: 'e' :: rest => some (.bool true, rest)
    | 'f' :: 'a' :: 'l' :: 's' :: 'e' :: rest => some (.bool false, rest)
    | '"' :: rest => do
      let (content, rest) ← readText? rest
      return (.text content, rest)
    | '[' :: rest =>
      match skipSpace rest with
      | ']' :: rest => some (.array [], rest)
      | rest => do
        let (elements, rest) ← readElements? fuel rest
        return (.array elements, rest)
    | '\x7b' :: rest =>
      match skipSpace rest with
      | '\x7d' :: rest => some (.object [], rest)
      | rest => do
        let (members, rest) ← readMembers? fuel rest
        return (.object members, rest)
    | _ => do
      let (numeral, rest) ← readNumber? text
      return (.number numeral, rest)

/-- Reads the elements of an array up to its end. -/
def readElements? : Nat → List Char → Option (List Value × List Char)
  | 0, _ => none
  | fuel + 1, text => do
    let (element, rest) ← readValue? fuel text
    match skipSpace rest with
    | ']' :: rest => return ([element], rest)
    | ',' :: rest => do
      let (elements, rest) ← readElements? fuel (skipSpace rest)
      return (element :: elements, rest)
    | _ => none

/-- Reads the members of an object up to its end. -/
def readMembers? :
    Nat → List Char → Option (List (Option String × Value) × List Char)
  | 0, _ => none
  | fuel + 1, text =>
    match text with
    | '"' :: rest => do
      let (key, rest) ← readText? rest
      match skipSpace rest with
      | ':' :: rest => do
        let (value, rest) ← readValue? fuel (skipSpace rest)
        match skipSpace rest with
        | '\x7d' :: rest => return ([(key, value)], rest)
        | ',' :: rest => do
          let (members, rest) ← readMembers? fuel (skipSpace rest)
          return ((key, value) :: members, rest)
        | _ => none
      | _ => none
    | _ => none

end

/-- Reads a document: one value with nothing but blanks around it. -/
def readCharacters? (text : List Char) : Option Value := do
  let (value, rest) ← readValue? (text.length + 1) (skipSpace text)
  if (skipSpace rest).isEmpty then return value else none

/-- Reads a document. -/
def read? (text : String) : Option Value := readCharacters? text.toList

end Toolpath.Json
