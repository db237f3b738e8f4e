import Toolpath.Text.CodePage
import Toolpath.Text.Hex
import Toolpath.Text.Split

/-!
# Characters of drawing files

The lines of a drawing file are bytes.  They are taken for characters of a
code page or, in drawings of later versions, for UTF-8, and a line that begins
with the mark of UTF-8 is UTF-8 in any case.

Two kinds of escapes stand for characters that a line cannot hold: the number
of a character after a backslash, which only the code page needs, and a caret
before the letter of a control character.
-/

namespace Toolpath

/-- How the characters of a drawing file are written. -/
inductive Encoding where
  | codePage
  | unicode
deriving DecidableEq, Repr

/-- The bytes that mark UTF-8. -/
def encodingMark : List UInt8 := [0xef, 0xbb, 0xbf]

/-- Replaces each pair of a caret and a further character. -/
def replaceCarets : List Char → List Char
  | [] => []
  | ['^'] => []
  | '^' :: ' ' :: rest => '^' :: replaceCarets rest
  | '^' :: letter :: rest =>
    let number := letter.toNat
    let control := 0x40 ≤ number ∧ number ≤ 0x5f
    Char.ofNat (if control then number - 0x40 else number % 256)
      :: replaceCarets rest
  | first :: rest => first :: replaceCarets rest

/-- What stands for a character without a valid number. -/
def unknownCharacter : Char := '?'

/-- The character with a number in hexadecimal digits. -/
def numberedCharacter (digits : List Char) : Char :=
  match Text.readHex? digits with
  | some number =>
    if Nat.isValidChar number then Char.ofNat number else unknownCharacter
  | none => unknownCharacter

/--
Replaces numbers of characters, which are seven characters long with the
backslash.  Any other backslash stays as it is, together with the six
characters after it, and is lost together with fewer of them.
-/
def replaceNumbers : List Char → List Char
  | [] => []
  | '\\' :: a :: b :: c :: d :: e :: f :: rest =>
    if a = 'U' ∧ b = '+' then
      numberedCharacter [c, d, e, f] :: replaceNumbers rest
    else '\\' :: a :: b :: c :: d :: e :: f :: replaceNumbers rest
  | '\\' :: _ => []
  | first :: rest => first :: replaceNumbers rest

namespace Encoding

/-- The characters of bytes. -/
def decode? (bytes : List UInt8) : Encoding → Option (List Char)
  | codePage => some (bytes.map Text.characterOfByte)
  | unicode => (String.fromUTF8? ⟨bytes.toArray⟩).map String.toList

def decodeLine?
    (encoding : Encoding)
    (line : List UInt8) :
    Option (List Char) :=
  let characters :=
    if encodingMark.isPrefixOf line then
      unicode.decode? (line.drop encodingMark.length)
    else encoding.decode? line
  characters.map Text.dropReturn

def replaceEscapes (text : List Char) : Encoding → List Char
  | codePage => replaceCarets (replaceNumbers text)
  | unicode => replaceCarets text

/-- The versions whose drawings are written in UTF-8, by the names of the
format and by those of the programs. -/
def unicodeVersions : List String :=
  ["AC1021", "AC1024", "AC1027", "AC1032", "17.0", "17.1", "17.2", "18.0",
    "18.1", "18.2", "19.0", "19.1", "19.2", "19.3"]

def afterVersion (version : String) (encoding : Encoding) : Encoding :=
  if unicodeVersions.contains version then unicode else encoding

end Encoding

end Toolpath
