import DocSite.Text.Utf8

/-!
# File systems

A file system tells what is at every place. A place is the list of the names on the way from the
root. A path is a text that leads to a place from a directory, one part after the other; only a
directory can be walked through.
-/

namespace DocSite

namespace Storage

/-- The names on the way from the root of a file system. -/
abbrev Place := List Text

/-- What is at a place. -/
inductive Entry
  /-- Nothing. -/
  | missing
  /-- A directory. -/
  | directory
  /-- A file with its content. -/
  | file (content : Text.Bytes)
  deriving DecidableEq, Repr

/-- Why a file cannot be used. -/
inductive FileError
  /-- There is nothing at the place. -/
  | missing
  /-- A directory cannot be used as a file. -/
  | isDirectory
  /-- A file cannot be walked through. -/
  | notDirectory
  /-- The content of the file is no text. -/
  | notText
  deriving DecidableEq, Repr

/-- The message of an error. -/
def FileError.message : FileError → Text
  | missing => "No such file or directory (os error 2)"
  | isDirectory => "Is a directory (os error 21)"
  | notDirectory => "Not a directory (os error 20)"
  | notText => "stream did not contain valid UTF-8"

/-! ## Paths -/

/-- The place of a text that begins at the root. -/
def placeOf (path : Text) : Place :=
  (Text.splitAt (· == '/') path).filter fun part => !part.isEmpty

/-- The path of a place, from the root. -/
def pathOf (place : Place) : Text :=
  match place with
  | [] => ['/']
  | place => place.flatMap ('/' :: ·)

/-- The path of a file in the directory at a place. -/
def pathIn (place : Place) (name : Text) : Text :=
  place.flatMap ('/' :: ·) ++ '/' :: name

/-- The place where a path begins to lead: the root or the current directory. -/
def startOf (current : Place) (path : Text) : Place :=
  if Text.startsWith path ['/'] then [] else current

/-- A path without the part behind its last slash, and that part. -/
def lastPart (path : Text) : Text × Text :=
  let last := (path.reverse.takeWhile (· != '/')).reverse
  (path.take (path.length - last.length), last)

end Storage

open Storage

/-- What is at every place. -/
structure FileSystem where
  /-- What is at a place. -/
  entry : Place → Entry

namespace FileSystem

/-- The place that one part of a path leads to from a place. -/
def step (files : FileSystem) (place : Place) (part : Text) : Except FileError Place :=
  match files.entry place with
  | .missing => .error .missing
  | .file _ => .error .notDirectory
  | .directory =>
    if part = [] ∨ part = ['.'] then .ok place
    else if part = ['.', '.'] then .ok place.dropLast
    else .ok (place ++ [part])

/-- The place that a path leads to. -/
def locate (files : FileSystem) (current : Place) (path : Text) : Except FileError Place :=
  if path.isEmpty then .error .missing
  else (Text.splitAt (· == '/') path).foldlM files.step (startOf current path)

/-- The places that are looked at on the way along a path, and the place it leads to. -/
def visited (current : Place) (path : Text) : List Place :=
  (Text.splitAt (· == '/') path).foldl (fun places part =>
    let place := places.headD []
    if part = [] ∨ part = ['.'] then places
    else if part = ['.', '.'] then place.dropLast :: places
    else (place ++ [part]) :: places) [startOf current path]

/-- Whether there is something where a path leads to. -/
def isPresent (files : FileSystem) (current : Place) (path : Text) : Bool :=
  match files.locate current path with
  | .ok place => files.entry place != .missing
  | .error _ => false

/-- The text of a file. -/
def read (files : FileSystem) (current : Place) (path : Text) : Except FileError Text := do
  match files.entry (← files.locate current path) with
  | .missing => throw .missing
  | .directory => throw .isDirectory
  | .file content =>
    match Text.ofUtf8? content with
    | some text => return text
    | none => throw .notText

/-- The place of the file that a path makes or replaces. Its directory must be there, and the path
must not end in a slash. -/
def writable (files : FileSystem) (current : Place) (path : Text) : Except FileError Place := do
  if path.isEmpty then throw .missing
  let trimmed := Text.dropEndWhile (· == '/') path
  let (parent, name) := lastPart trimmed
  let directory ←
    if parent.isEmpty then pure (startOf current path) else files.locate current parent
  let place ← files.step directory name
  if trimmed != path || name = [] || name = ['.'] || name = ['.', '.'] then throw .isDirectory
  match files.entry place with
  | .directory => throw .isDirectory
  | .missing | .file _ => return place

/-- The file system with a file at a place. -/
def write (files : FileSystem) (place : Place) (content : Text.Bytes) : FileSystem where
  entry other := if other = place then .file content else files.entry other

end FileSystem

end DocSite
