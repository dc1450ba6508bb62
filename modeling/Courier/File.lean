import Courier.Text.Bytes

/-!
# Files by name

Templates and settings come from text files, and the extension of the name says which data format to
expect. A name is a row of parts between slashes; empty parts and dots do not count.
-/

namespace Courier

/-- Why a file cannot be read as text. -/
inductive ReadFault where
  | notFound
  | isDirectory
  | notDirectory
  | notPermitted
  | nameTooLong
  /-- No name holds a null character. -/
  | nullInName
  | notUtf8
deriving DecidableEq, Repr

/-- The wording of a fault, with the number the operating system gives it. -/
def ReadFault.message : ReadFault → String
  | .notFound => "No such file or directory (os error 2)"
  | .isDirectory => "Is a directory (os error 21)"
  | .notDirectory => "Not a directory (os error 20)"
  | .notPermitted => "Permission denied (os error 13)"
  | .nameTooLong => "File name too long (os error 36)"
  | .nullInName => "file name contained an unexpected NUL byte"
  | .notUtf8 => "stream did not contain valid UTF-8"

/-- What the files of a system hold, by name. -/
abbrev Files := String → Except ReadFault String

namespace FileName

/-- How many bytes a name has to stay below. -/
def byteLimit : Nat := 4096

/-- How many bytes a part of a name may have. -/
def partLimit : Nat := 255

/-- Why a name leads nowhere, whatever files there are. -/
def fault? (name : String) : Option ReadFault :=
  if name.toList.contains '\x00' then some .nullInName
  else if byteLimit ≤ name.utf8ByteSize then some .nameTooLong
  else if name = "" then some .notFound
  else none

/-- The parts of a name. -/
def parts : List Char → List (List Char)
  | [] => [[]]
  | c :: rest =>
    if c == '/' then [] :: parts rest
    else
      match parts rest with
      | first :: more => (c :: first) :: more
      | [] => [[c]]

/-- The last part that counts. -/
def last? (name : String) : Option (List Char) :=
  ((parts name.toList).filter fun p => p ≠ [] && p ≠ ['.']).getLast?

/-- What follows the last dot of the last part, unless nothing else precedes that dot. -/
def extension? (name : String) : Option String := do
  let part ← last? name
  let back := part.reverse
  let tail := back.takeWhile (· != '.')
  match back.dropWhile (· != '.') with
  | _ :: stem =>
    if part = ['.', '.'] || stem.isEmpty then none else some (String.ofList tail.reverse)
  | [] => none

/-- The extension with its ASCII letters in lower case. -/
def lowerExtension? (name : String) : Option String :=
  (extension? name).map String.toLower

end FileName

end Courier
