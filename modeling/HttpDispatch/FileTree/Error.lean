import HttpDispatch.Text.Quoted

/-!
# Errors of files

Something in the way of an access to a file: a name that is missing, a file where a directory has
to be or the other way round, or a name that no file can have.  The message tells the obstacle
first and the access after it.  A path with a zero character is not a path at all.
-/

namespace HttpDispatch

/-- What is in the way of an access. -/
inductive Obstacle
  /-- A name on the path is missing. -/
  | missing
  /-- A file stands where a directory is to be made. -/
  | occupied
  /-- A file stands in the place of a directory on the way. -/
  | notDirectory
  /-- A directory stands in the place of a file. -/
  | directory
  /-- A name on the path, or the path, is longer than names may be. -/
  | nameTooLong
deriving DecidableEq, Repr

namespace Obstacle

/-- An obstacle in words. -/
def text : Obstacle → String
  | missing => "ENOENT: no such file or directory"
  | occupied => "EEXIST: file already exists"
  | notDirectory => "ENOTDIR: not a directory"
  | directory => "EISDIR: illegal operation on a directory"
  | nameTooLong => "ENAMETOOLONG: name too long"

end Obstacle

/-- What is done to files. -/
inductive Access
  /-- A file is opened. -/
  | opening (path : String)
  /-- An open file is read. -/
  | reading
  /-- A directory is made. -/
  | making (path : String)
deriving DecidableEq, Repr

namespace Access

/-- An access in words. -/
def text : Access → String
  | opening path => "open '" ++ path ++ "'"
  | reading => "read"
  | making path => "mkdir '" ++ path ++ "'"

end Access

/-- Why an access to files fails. -/
inductive FileError
  /-- Something is in its way. -/
  | obstructed (obstacle : Obstacle) (access : Access)
  /-- There is a zero character in the path. -/
  | malformed (path : String)
deriving DecidableEq, Repr

namespace FileError

/-- The name of the error, where it has one of its own. -/
def ownName? : FileError → Option String
  | obstructed .. => none
  | malformed _ => some "TypeError"

/-- The message of the error. -/
def message : FileError → String
  | obstructed obstacle access => obstacle.text ++ ", " ++ access.text
  | malformed path =>
    "The argument 'path' must be a string, Uint8Array, or URL without null bytes. Received " ++
      Text.shown path

end FileError

end HttpDispatch
