namespace RoccCodec

/-!
# Files

A program sees files through a few questions, so it runs alike on the files of
a machine and on a tree held in memory.
-/

/-- The questions a program asks about files.  A question that fails is
answered with the reason. -/
structure Files (m : Type → Type) where
  isDirectory : String → m Bool
  isFile : String → m Bool
  names : String → m (Except String (List String))
  read : String → m (Except String (List UInt8))

namespace Path

/-- What stands between the slashes. -/
def parts (path : String) : List String := path.splitOn "/"

/-- The path of an entry of a directory. -/
def join (directory name : String) : String :=
  if (parts directory).getLast? = some "" then directory ++ name
  else directory ++ "/" ++ name

/-- The last name of a path, or the whole path if it does not end in a name. -/
def fileName (path : String) : String :=
  match ((parts path).filter fun part => part != "" && part != ".").getLast? with
  | none | some ".." => path
  | some name => name

end Path

/-- Why a path does not lead to what it is followed for.  A zero byte is a
character that no name can hold. -/
inductive PathError where
  | notFound
  | notDirectory
  | isDirectory
  | denied
  | nameTooLong
  | zeroByte
  deriving DecidableEq, Repr

namespace PathError

def message : PathError → String
  | .notFound => "No such file or directory (os error 2)"
  | .notDirectory => "Not a directory (os error 20)"
  | .isDirectory => "Is a directory (os error 21)"
  | .denied => "Permission denied (os error 13)"
  | .nameTooLong => "File name too long (os error 36)"
  | .zeroByte => "file name contained an unexpected NUL byte"

end PathError

end RoccCodec
