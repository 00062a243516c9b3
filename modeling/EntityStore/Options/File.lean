import EntityStore.Error

/-!
# Configuration files

A configuration may stand in a file. If there is none at the given path, the reason is told: a file
system looks for the parts of a path one after another, and refuses the first one that it does not
find or that no name can be.
-/

namespace EntityStore.Options

/-- Why no file is read at a path. -/
inductive FileFault where
  /-- The path contains the character that ends paths. -/
  | endMark
  /-- The path, or the part of it that is looked for, is too long. -/
  | tooLong
  | notFound
  | directory
  deriving DecidableEq, Repr

def FileFault.message : FileFault → String
  | endMark => "file name contained an unexpected NUL byte"
  | tooLong => "File name too long (os error 36)"
  | notFound => "No such file or directory (os error 2)"
  | directory => "Is a directory (os error 21)"

/-- The greatest number of octets in a path. -/
def maxPathSize : Nat := 4095

/-- The greatest number of octets in a part of a path. -/
def maxNameSize : Nat := 255

/-- The parts of `path`, but for those that stay at, or go up to, a directory that is there. -/
def pathNames (path : String) : List String :=
  ((path.toList.splitOn '/').map String.ofList).filter fun part =>
    !(["", ".", ".."].contains part)

/-- Why no file is read at a `path` whose first name is not found. -/
def FileFault.ofPath (path : String) : FileFault :=
  if path.toList.contains '\x00' then endMark
  else if maxPathSize < path.utf8ByteSize then tooLong
  else if path.isEmpty then notFound
  else
    match pathNames path with
    | [] => directory
    | name :: _ => if maxNameSize < name.utf8ByteSize then tooLong else notFound

/-- The error for a configuration file that does not exist. -/
def missingFile (path : String) : Error :=
  .config (path ++ ": " ++ (FileFault.ofPath path).message)

end EntityStore.Options
