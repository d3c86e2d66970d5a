import RoccCodec.Files

namespace RoccCodec

/-!
# File trees

A file tree is held in memory, by the places of its files and of its explicit
directories; whatever lies above one of them is a directory.  A path is followed
name by name from the root.  Every step, also one that stays where it is, starts
in a directory.
-/

/-- The files and directories below a root. -/
structure FileTree where
  files : List (List String × List UInt8)
  directories : List (List String)

namespace FileTree

def empty : FileTree := ⟨[], []⟩

/-- The names in a path. -/
def place (path : String) : List String :=
  (Path.parts path).filter fun part => part != "" && part != "."

/-- Put a file at a path, in the place of one that is there. -/
def insertFile (tree : FileTree) (path : String) (bytes : List UInt8) : FileTree :=
  { tree with
    files := (place path, bytes) :: tree.files.filter fun file => file.1 != place path }

def insertDirectory (tree : FileTree) (path : String) : FileTree :=
  { tree with directories := place path :: tree.directories }

def file? (tree : FileTree) (place : List String) : Option (List UInt8) :=
  tree.files.lookup place

/-- Every file and directory that has a place of its own. -/
def places (tree : FileTree) : List (List String) :=
  tree.directories ++ tree.files.map fun file => file.1

def isDirectoryAt (tree : FileTree) (place : List String) : Bool :=
  (tree.file? place).isNone && (place.isEmpty || tree.places.any place.isPrefixOf)

def maxName : Nat := 255

def maxPath : Nat := 4095

/-- Follow the parts of a path from a place. -/
def follow (tree : FileTree) (place : List String) : List String → Except PathError (List String)
  | [] => .ok place
  | part :: rest =>
    if !tree.isDirectoryAt place then .error .notDirectory
    else if part = "" ∨ part = "." then tree.follow place rest
    else if part = ".." then
      if place.isEmpty then .error .notFound else tree.follow place.dropLast rest
    else if maxName < part.utf8ByteSize then .error .nameTooLong
    else
      let next := place ++ [part]
      if (tree.file? next).isSome || tree.isDirectoryAt next then tree.follow next rest
      else .error .notFound

/-- The place a path leads to.  A path that starts with a slash does not start
at the root of the tree. -/
def resolve (tree : FileTree) (path : String) : Except PathError (List String) :=
  if path.toList.contains '\x00' then .error .zeroByte
  else if maxPath < path.utf8ByteSize then .error .nameTooLong
  else
    match Path.parts path with
    | "" :: _ => .error .notFound
    | parts => tree.follow [] parts

def isDirectory (tree : FileTree) (path : String) : Bool :=
  match tree.resolve path with
  | .ok place => tree.isDirectoryAt place
  | .error _ => false

def isFile (tree : FileTree) (path : String) : Bool :=
  match tree.resolve path with
  | .ok place => (tree.file? place).isSome
  | .error _ => false

def namesAt (tree : FileTree) (place : List String) : List String :=
  (tree.places.filterMap fun other =>
    if place.isPrefixOf other then (other.drop place.length).head? else none).eraseDups

def names (tree : FileTree) (path : String) : Except PathError (List String) := do
  let place ← tree.resolve path
  if tree.isDirectoryAt place then return tree.namesAt place else .error .notDirectory

def read (tree : FileTree) (path : String) : Except PathError (List UInt8) := do
  let place ← tree.resolve path
  match tree.file? place with
  | some bytes => return bytes
  | none => .error .isDirectory

/-- The tree as a program sees it. -/
def asFiles (tree : FileTree) {m : Type → Type} [Pure m] : Files m where
  isDirectory path := pure (tree.isDirectory path)
  isFile path := pure (tree.isFile path)
  names path := pure ((tree.names path).mapError PathError.message)
  read path := pure ((tree.read path).mapError PathError.message)

end FileTree

end RoccCodec
