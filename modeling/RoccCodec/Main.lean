import RoccCodec.Program

namespace RoccCodec.Host

/-!
# The host

The program on the files and the clock of the machine it runs on.
-/

/-- What a question about files is answered with when it fails. -/
def explain : IO.Error → String
  | .noFileOrDirectory .. => PathError.notFound.message
  | .inappropriateType _ 21 _ => PathError.isDirectory.message
  | .inappropriateType .. => PathError.notDirectory.message
  | .permissionDenied .. => PathError.denied.message
  | error => toString error

/-- The answer to a question, or the reason why there is none. -/
def ask {α : Type} (question : IO α) : IO (Except String α) := do
  try
    return .ok (← question)
  catch error =>
    return .error (explain error)

/-- An entry of the directory the program was started in. -/
def entry (path : String) : IO.FS.DirEntry := ⟨".", path⟩

/-- The kind of what a path leads to, if it leads anywhere. -/
def kind? (path : String) : IO (Option IO.FS.FileType) := do
  match ← ask (entry path).path.metadata with
  | .ok metadata => return some metadata.type
  | .error _ => return none

def files : Files IO where
  isDirectory path := do return (← kind? path) == some .dir
  isFile path := do return (← kind? path) == some .file
  names path := ask do
    return (← (entry path).path.readDir).toList.map fun found => found.fileName
  read path := ask do
    return (← IO.FS.readBinFile path).toList

end RoccCodec.Host

def main (arguments : List String) : IO UInt32 := do
  let ending ← RoccCodec.Program.execute RoccCodec.Host.files IO.monoNanosNow arguments
  for line in ending.output do
    IO.println line
  IO.eprint ending.errors
  return ending.code
