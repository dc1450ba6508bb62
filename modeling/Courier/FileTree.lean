import Courier.File

/-!
# Files in memory

Directories and files that are held in memory, and what a name leads to. The parts of a name are
gone through from left to right, from the root if the name starts with a slash and else from the
working directory, and each but the last has to lead to a directory. Two dots lead to the directory
around; the root is around itself.
-/

namespace Courier

/-- What stands under a name. -/
inductive FileEntry where
  | file (content : ByteArray)
  | directory

/-- A path from the root, part by part. -/
abbrev FilePath := List (List Char)

/-- Directories and files by their paths. -/
structure FileTree where
  /-- The working directory. -/
  home : FilePath
  entries : List (FilePath × FileEntry)

namespace FileTree

/-- A part of a name that leads to the directory itself. An empty one, as after a slash at the end,
does as well. -/
def isHere (part : List Char) : Bool :=
  part == [] || part == ['.']

/-- A name that starts from the root. -/
def isAbsolute (name : String) : Bool :=
  name.toList.head? = some '/'

/-- The tree of these entries, whose names are read from the working directory. -/
def ofEntries (home : FilePath) (entries : List (String × FileEntry)) : FileTree :=
  let path (name : String) : FilePath :=
    (if isAbsolute name then [] else home) ++
      (FileName.parts name.toList).filter (!isHere ·)
  { home, entries := entries.map fun (name, entry) => (path name, entry) }

/-- What stands at a path; what has something below it is a directory. -/
def entry? (t : FileTree) (path : FilePath) : Option FileEntry :=
  (t.entries.lookup path).or <|
    if path.isPrefixOf t.home || t.entries.any fun (p, _) => path.isPrefixOf p then some .directory
    else none

/-- Follows one more part of a name. -/
def enter (t : FileTree) (path : FilePath) (part : List Char) : Except ReadFault FilePath :=
  match t.entry? path with
  | some .directory =>
    if isHere part then .ok path
    else if part == ['.', '.'] then .ok path.dropLast
    else if FileName.partLimit < Text.byteLength part then .error .nameTooLong
    else if (t.entry? (path ++ [part])).isSome then .ok (path ++ [part])
    else .error .notFound
  | _ => .error .notDirectory

/-- The path that a name leads to. -/
def resolve (t : FileTree) (name : String) : Except ReadFault FilePath :=
  match FileName.fault? name with
  | some fault => .error fault
  | none =>
    (FileName.parts name.toList).foldlM t.enter (if isAbsolute name then [] else t.home)

/-- Reads a file as text. -/
def read (t : FileTree) : Files := fun name => do
  match t.entry? (← t.resolve name) with
  | some (.file content) => (String.fromUTF8? content).elim (.error .notUtf8) .ok
  | some .directory => .error .isDirectory
  | none => .error .notFound

end FileTree

end Courier
