import QueryMetrics.Document.Entries
import QueryMetrics.Text.Split

/-!
# Files

The files that the exporter reads: a tree of directories below the working directory. A path is
normalised by dropping empty parts and single points; two points go up when the path is followed,
and only through directories.

Of what lies outside the tree, only the directories are known that two points lead to, and the
root. The system refuses paths with a null character, names that are too long, and paths that are
too long as a whole.
-/

namespace QueryMetrics

open Text

/-! ### Paths -/

/-- The parts of a path that count. -/
def pathParts (path : String) : List String :=
  ((splitAtEvery '/' path.toList).map String.ofList).filter fun part => part ≠ "" ∧ part ≠ "."

/-- The slashes at the front of an absolute path: two stay two, any other number is one. -/
def pathRoot (path : String) : String :=
  match (path.toList.takeWhile (· = '/')).length with
  | 0 => ""
  | 2 => "//"
  | _ => "/"

/-- The path without needless parts. -/
def normalizePath (path : String) : String :=
  let body := "/".intercalate (pathParts path)
  let text := pathRoot path ++ body
  if text.isEmpty then "." else text

/-! ### Trees -/

/-- What stands at a path. -/
inductive FileEntry where
  | file (bytes : List UInt8)
  | directory
  deriving DecidableEq

/-- The entries below the working directory, by the parts of their paths. -/
abbrev FileTree := Entries (List String) FileEntry

/-- Why a file cannot be read. -/
inductive FileFault where
  /-- Nothing stands at the path, or the path leads through something that is no directory. -/
  | missing
  /-- A directory stands at the path. -/
  | isDirectory
  /-- A name or the whole path is too long. -/
  | nameTooLong
  /-- The path holds a null character. -/
  | nullCharacter
  deriving DecidableEq, Repr

/-- The fault as a sentence. -/
def FileFault.message : FileFault → String
  | missing => "No such file or directory"
  | isDirectory => "Is a directory"
  | nameTooLong => "File name too long"
  | nullCharacter => "embedded null byte"

/-- The most octets in a name. -/
def maxNameLength : Nat := 255

/-- The most octets in a path. -/
def maxPathLength : Nat := 4095

namespace FileTree

/-- What stands at resolved parts. -/
def entryAt? (files : FileTree) (parts : List String) : Option FileEntry :=
  if parts.isEmpty then some .directory else Entries.find? parts files

/-- The fault of a name that stands for nothing. -/
def absent (name : String) : FileFault :=
  if maxNameLength < name.utf8ByteSize then .nameTooLong else .missing

/-- Follows the parts of a path from a directory outside the tree. -/
def followOutside : List String → Except FileFault FileEntry
  | [] => .ok .directory
  | ".." :: rest => followOutside rest
  | part :: _ => .error (absent part)

/-- Follows the parts of a path from a directory; `here` holds the parts of that directory, the
innermost first. -/
def follow (files : FileTree) (here : List String) : List String → Except FileFault FileEntry
  | [] => match files.entryAt? here.reverse with
    | some entry => .ok entry
    | none => .error .missing
  | ".." :: rest =>
    match here with
    | [] => followOutside rest
    | _ :: parent => follow files parent rest
  | part :: rest =>
    match files.entryAt? (part :: here).reverse with
    | some .directory => follow files (part :: here) rest
    | some entry => if rest.isEmpty then .ok entry else .error .missing
    | none => .error (absent part)

/-- What stands at a path. -/
def lookup (files : FileTree) (path : String) : Except FileFault FileEntry :=
  if '\x00' ∈ path.toList then .error .nullCharacter
  else if maxPathLength < (normalizePath path).utf8ByteSize then .error .nameTooLong
  else if pathRoot path ≠ "" then followOutside (pathParts path)
  else files.follow [] (pathParts path)

/-- The bytes of the file at a path. -/
def read (files : FileTree) (path : String) : Except FileFault (List UInt8) :=
  match files.lookup path with
  | .ok (.file bytes) => .ok bytes
  | .ok .directory => .error .isDirectory
  | .error fault => .error fault

/-- The places that a path passes from a place on, its own place last. -/
def places (here : List String) : List String → List (List String)
  | [] => []
  | part :: rest =>
    let next := if part = ".." then here.dropLast else here ++ [part]
    next :: places next rest

/-- Makes a directory unless something stands there. -/
def makeDirectory (files : FileTree) (place : List String) : FileTree :=
  if (files.entryAt? place).isSome then files else Entries.put place .directory files

/-- Puts an entry at a path and makes the directories that lead there. -/
def write (files : FileTree) (path : String) (entry : FileEntry) : FileTree :=
  let passed := places [] (pathParts path)
  Entries.put (passed.getLastD []) entry (passed.dropLast.foldl makeDirectory files)

/-- Removes the entry at a path. The directories that lead there stay. -/
def delete (files : FileTree) (path : String) : FileTree :=
  Entries.keep (· ≠ (places [] (pathParts path)).getLastD []) files

end FileTree

end QueryMetrics
