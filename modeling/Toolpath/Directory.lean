import Toolpath.Text.Split

/-!
# Directories

A directory holds files by name, and no other directories.  A path is followed
part by part: it may stay in the directory, lead to one of its files, or leave
the directory for places of which nothing is known.
-/

namespace Toolpath

/-- Why a file could not be used. -/
inductive FileError where
  /-- There is no such file, or no such directory to put it in. -/
  | notFound
  /-- The path goes on after a file. -/
  | notDirectory
  /-- The path leads to a directory. -/
  | isDirectory
  /-- The path, or one of its parts, is too long. -/
  | nameTooLong
  /-- The path holds a character that no path may hold. -/
  | nulInPath
  /-- The file's bytes are no UTF-8 text. -/
  | notText
deriving DecidableEq, Repr

def FileError.message : FileError → String
  | notFound => "I/O error: No such file or directory (os error 2)"
  | notDirectory => "I/O error: Not a directory (os error 20)"
  | isDirectory => "I/O error: Is a directory (os error 21)"
  | nameTooLong => "I/O error: File name too long (os error 36)"
  | nulInPath => "I/O error: file name contained an unexpected NUL byte"
  | notText => "I/O error: stream did not contain valid UTF-8"

def pathParts (path : String) : List (List Char) :=
  Text.split '/' path.toList

/-- Whether a part of a path stays where it is. -/
def isStay (part : List Char) : Bool := part = [] || part = ['.']

/-- Whether a part of a path leads to the directory above. -/
def isAscent (part : List Char) : Bool := part = ['.', '.']

/-- The part of a path's last name after its last dot, if the dot is not the
first character. -/
def extension? (path : String) : Option String :=
  match ((pathParts path).filter fun part => !isStay part).getLast? with
  | none => none
  | some name =>
    let afterDot := (name.reverse.takeWhile (· ≠ '.')).reverse
    if isAscent name ∨ name.length ≤ afterDot.length + 1 then none
    else some (String.ofList afterDot)

/-- The number of bytes that a path must stay below. -/
def pathBound : Nat := 4096

/-- The greatest number of bytes in the name of a file. -/
def greatestName : Nat := 255

/-- What a path leads to. -/
inductive Place where
  /-- The directory itself. -/
  | here
  /-- Some directory outside. -/
  | outside
  | file (name : String)
  /-- A name that no file of the directory has. -/
  | vacant (name : String)
deriving DecidableEq, Repr

/-- The place where a path begins. -/
def startOfPath (path : String) : Place :=
  if path.toList.head? = some '/' then .outside else .here

/-- What is wrong with a path wherever it leads. -/
def pathError? (path : String) : Option FileError :=
  if '\x00' ∈ path.toList then some .nulInPath
  else if path = "" then some .notFound
  else if pathBound ≤ path.utf8ByteSize then some .nameTooLong
  else none

/-- The bytes of the files that can be reached, by path. -/
abbrev FileSource := String → Except FileError ByteArray

def FileSource.text
    (source : FileSource)
    (path : String) :
    Except FileError String :=
  match source path with
  | .ok content =>
    match String.fromUTF8? content with
    | some text => .ok text
    | none => .error .notText
  | .error cause => .error cause

/-- The files of a directory. -/
structure Directory where
  files : List (String × ByteArray)

namespace Directory

/-- A directory without files. -/
def empty : Directory := ⟨[]⟩

/-- The content of the file with the given name. -/
def content? (directory : Directory) (name : String) : Option ByteArray :=
  (directory.files.find? fun file => file.1 == name).map Prod.snd

/-- The place that one more part of a path leads to. -/
def step
    (directory : Directory)
    (place : Place)
    (part : List Char) :
    Except FileError Place :=
  match place with
  | .file _ => .error .notDirectory
  | .vacant _ => .error .notFound
  | place =>
    let name := String.ofList part
    if isStay part then .ok place
    else if isAscent part then .ok .outside
    else if greatestName < name.utf8ByteSize then .error .nameTooLong
    else if place = .outside then .error .notFound
    else if (directory.content? name).isSome then .ok (.file name)
    else .ok (.vacant name)

/-- The place that the given parts of a path lead to. -/
def follow
    (directory : Directory)
    (path : String)
    (parts : List (List Char)) :
    Except FileError Place :=
  match pathError? path with
  | some cause => .error cause
  | none => parts.foldlM directory.step (startOfPath path)

/-- The content of the file that a path leads to. -/
def read
    (directory : Directory)
    (path : String) :
    Except FileError ByteArray :=
  match directory.follow path (pathParts path) with
  | .ok (.file name) =>
    match directory.content? name with
    | some content => .ok content
    | none => .error .notFound
  | .ok (.vacant _) => .error .notFound
  | .ok _ => .error .isDirectory
  | .error cause => .error cause

/-- The files of a directory as a source. -/
def source (directory : Directory) : FileSource := directory.read

/--
The parts of a path to a file that is going to be written.  After a slash at
the end of a path only a directory can be meant, and the name before it is not
looked at.
-/
def partsToWrite (path : String) : List (List Char) :=
  let parts := pathParts path
  if parts.getLast? = some [] then
    ((parts.reverse.dropWhile List.isEmpty).tail).reverse ++ [['.']]
  else parts

/-- The name of the file that is written under a path. -/
def nameToWrite
    (directory : Directory)
    (path : String) :
    Except FileError String :=
  match directory.follow path (partsToWrite path) with
  | .ok (.file name) => .ok name
  | .ok (.vacant name) => .ok name
  | .ok _ => .error .isDirectory
  | .error cause => .error cause

/-- Puts content in the place of a file, or at the end. -/
def replaceFile
    (name : String)
    (content : ByteArray) :
    List (String × ByteArray) → List (String × ByteArray)
  | [] => [(name, content)]
  | file :: files =>
    if file.1 == name then (name, content) :: files
    else file :: replaceFile name content files

def writeBytes
    (directory : Directory)
    (path : String)
    (content : ByteArray) :
    Except FileError Directory :=
  match directory.nameToWrite path with
  | .ok name => .ok ⟨replaceFile name content directory.files⟩
  | .error cause => .error cause

def writeText
    (directory : Directory)
    (path text : String) :
    Except FileError Directory :=
  directory.writeBytes path text.toUTF8

/-- After a file is replaced it has the new content, and every other file has
the content it had. -/
theorem find?_replaceFile
    (name other : String)
    (content : ByteArray)
    (files : List (String × ByteArray)) :
    ((replaceFile name content files).find? (·.1 == other)).map Prod.snd
      = if name = other then some content
        else (files.find? (·.1 == other)).map Prod.snd := by
  induction files with
  | nil =>
    by_cases same : name = other
    · simp [replaceFile, same]
    · simp [replaceFile, same]
  | cons file files hypothesis =>
    by_cases replaced : file.1 = name
    · by_cases same : name = other
      · simp [replaceFile, replaced, same]
      · simp [replaceFile, replaced, same]
    · by_cases found : file.1 = other
      · have differs : name ≠ other := fun same =>
          replaced (found.trans same.symm)
        simp [replaceFile, found, differs, differs.symm]
      · simp [replaceFile, replaced, found, hypothesis]

end Directory

end Toolpath
