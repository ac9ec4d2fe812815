import HttpDispatch.FileTree.Error
import HttpDispatch.Text.Split

/-!
# Files

Text files and directories, with paths relative to a working directory.  A path is followed name
by name, down and up, so every directory on the way has to be there, also one that is left again.
Reading a path fails where a name is missing, where a file stands in the place of a directory, and
where a directory stands at the end.

Making a directory makes those that are missing on the way, and writing a file makes the directory
that the path names it in.  What was made stays also where the rest fails.

A place is given by the names that lead to it from the working directory.  The directories above
that one are there as well, and the one that a path with a leading slash starts from; nothing
stands in them but what was written.
-/

namespace HttpDispatch

/-- Files and directories, by the names that lead to them. -/
structure FileTree where
  files : List (List String × String)
  directories : List (List String)

namespace FileTree

def empty : FileTree := ⟨[], []⟩

instance : Inhabited FileTree := ⟨empty⟩

/-! ### Paths -/

/-- The names of a path, those that stay in place included. -/
def names (path : String) : List String :=
  (Text.splitAtEach '/' path.toList).map String.ofList

/-- Whether a name of a path leads nowhere else. -/
def stays (name : String) : Bool := name = "" || name = "."

/-- The octets that a name may have. -/
def nameLimit : Nat := 255

/-- The octets that a path may have. -/
def pathLimit : Nat := 4095

/-- The names before the last one of a path.  Slashes at its end do not count. -/
def holderNames (path : String) : List String :=
  ((names path).reverse.dropWhile (· = "")).reverse.dropLast

/-- The path of the directory that a path names a file in. -/
def holder (path : String) : String :=
  let text := String.intercalate "/" (holderNames path)
  if text ≠ "" then text else if path.toList.head? = some '/' then "/" else "."

/-! ### Places -/

/-- The place that a path with a leading slash starts from.  No name holds a slash. -/
def top : List String := ["/"]

/-- Where a path starts. -/
def start (path : String) : List String := if path.toList.head? = some '/' then top else []

/-- Whether a place is the working directory or above it. -/
def isAbove (place : List String) : Bool := place.all (· = "..")

/-- The directory that holds a place. -/
def parent (place : List String) : List String :=
  if place = top then top else if isAbove place then ".." :: place else place.dropLast

/-- The content of a file. -/
def content? (t : FileTree) (place : List String) : Option String :=
  t.files.lookup place

/-- Whether a directory stands at a place. -/
def isDirectory (t : FileTree) (place : List String) : Bool :=
  isAbove place || place = top || t.directories.contains place

/-! ### Reading -/

/-- Goes down from a place. -/
def readFrom (t : FileTree) (place : List String) : List String → Except Obstacle String
  | [] =>
    match t.content? place with
    | some content => .ok content
    | none => .error (if t.isDirectory place then .directory else .missing)
  | name :: rest =>
    if (t.content? place).isSome then .error .notDirectory
    else if !t.isDirectory place then .error .missing
    else if stays name then readFrom t place rest
    else if name = ".." then readFrom t (parent place) rest
    else if nameLimit < name.utf8ByteSize then .error .nameTooLong
    else readFrom t (place ++ [name]) rest

/-- What keeps a path from being followed, wherever it leads. -/
def refusal? (path : String) (access : Access) : Option FileError :=
  if path.toList.contains '\x00' then some (.malformed path)
  else if path = "" then some (.obstructed .missing access)
  else if pathLimit < path.utf8ByteSize then some (.obstructed .nameTooLong access)
  else none

/-- The content of the file at a path.  A directory can be opened, but not read. -/
def read (t : FileTree) (path : String) : Except FileError String :=
  match refusal? path (.opening path) with
  | some e => .error e
  | none =>
    match t.readFrom (start path) (names path) with
    | .ok content => .ok content
    | .error .directory => .error (.obstructed .directory .reading)
    | .error obstacle => .error (.obstructed obstacle (.opening path))

/-! ### Writing -/

/-- Goes down from a place and makes the directories that are missing; answers where it leads. -/
def enter (t : FileTree) (place : List String) :
    List String → FileTree × Except Obstacle (List String)
  | [] => (t, .ok place)
  | name :: rest =>
    if stays name then enter t place rest
    else if name = ".." then enter t (parent place) rest
    else if nameLimit < name.utf8ByteSize then (t, .error .nameTooLong)
    else
      let next := place ++ [name]
      if (t.content? next).isSome then
        (t, .error (if rest.isEmpty then .occupied else .notDirectory))
      else if t.isDirectory next then enter t next rest
      else enter { t with directories := next :: t.directories } next rest

/-- Makes a directory; answers its place. -/
def makeDirectory (t : FileTree) (path : String) : FileTree × Except FileError (List String) :=
  match refusal? path (.making path) with
  | some e => (t, .error e)
  | none =>
    match t.enter (start path) (names path) with
    | (t', .ok place) => (t', .ok place)
    | (t', .error obstacle) => (t', .error (.obstructed obstacle (.making path)))

/-- Writes a file into a directory. -/
def writeIn (t : FileTree) (directory : List String) (path content : String) :
    Except FileError FileTree :=
  match refusal? path (.opening path) with
  | some e => .error e
  | none =>
    let name := (names path).getLastD ""
    let place := directory ++ [name]
    if stays name || name = ".." || t.isDirectory place then
      .error (.obstructed .directory (.opening path))
    else if nameLimit < name.utf8ByteSize then
      .error (.obstructed .nameTooLong (.opening path))
    else .ok { t with files := (place, content) :: t.files.filter fun f => f.1 != place }

/-- Writes a file. -/
def write (t : FileTree) (path content : String) : FileTree × Except FileError Unit :=
  match t.makeDirectory (holder path) with
  | (t', .error e) => (t', .error e)
  | (t', .ok directory) =>
    match t'.writeIn directory path content with
    | .ok t'' => (t'', .ok ())
    | .error e => (t', .error e)

end FileTree

end HttpDispatch
