import RoccCodec.CommandLine.Usage
import RoccCodec.Invocation

namespace RoccCodec.CommandLine

/-!
# Drafts

A draft holds the values a command line has given so far.  An option that
stands for one value may be given once; one that stands for a list adds to it.
-/

def codecName : Algorithm → String
  | .snappy => "snappy"
  | .zstd => "zstd"

def buildName : Build → String
  | .snappyStandalone => "snappy-standalone"
  | .compressor => "compressor-soc"
  | .decompressor => "decompressor-soc"

/-- What has been looked at so far. -/
structure Draft where
  codec : Option Algorithm
  build : Option Build
  builds : List Build
  backend : Option Backend
  latencyCycles : Option UInt64
  hasCache : Bool
  spinBudget : Option UInt64
  histories : List UInt64
  hashTables : List UInt64
  level : Option Int32
  files : List String

def Draft.empty : Draft := ⟨none, none, [], none, none, false, none, [], [], none, []⟩

/-- A value that is one of several names. -/
def choose {α : Type} (all : List α) (name : α → String) (text : String) : Except UsageError α :=
  match all.find? fun choice => name choice == text with
  | some choice => .ok choice
  | none => .error .invalidValue

/-- A value that has to be readable. -/
def readable {α : Type} (value : Option α) : Except UsageError α :=
  match value with
  | some value => .ok value
  | none => .error .valueValidation

/-- The value of an option that may be given once. -/
def once {α : Type} (old : Option α) (value : Except UsageError α) :
    Except UsageError (Option α) :=
  if old.isSome then .error .argumentConflict else value.map some

/-- The values of an option that may be given again and again, added to the
older ones.  Commas separate them. -/
def append {α : Type} (old : List α) (read : String → Except UsageError α) (text : String) :
    Except UsageError (List α) := do
  return old ++ (← (text.splitOn ",").mapM read)

/-- A number of 64 bits. -/
def readWord (text : String) : Except UsageError UInt64 := readable (Numeral.word? text.toList)

def readSize (text : String) : Except UsageError UInt64 :=
  readable (Size.read text.toList).toOption

def readBuild : String → Except UsageError Build := choose Build.all buildName

/-- Look at the value of an option. -/
def Draft.assign (draft : Draft) (setting : Setting) (text : String) : Except UsageError Draft := do
  match setting with
  | .codec =>
    let codec ← once draft.codec (choose [.snappy, .zstd] codecName text)
    return { draft with codec }
  | .profile =>
    let build ← once draft.build (readBuild text)
    return { draft with build }
  | .profiles =>
    let builds ← append draft.builds readBuild text
    return { draft with builds }
  | .backend =>
    let backend ← once draft.backend (choose Backend.all Backend.name text)
    return { draft with backend }
  | .latencyCycles =>
    let latencyCycles ← once draft.latencyCycles (readWord text)
    return { draft with latencyCycles }
  | .spinBudget =>
    let spinBudget ← once draft.spinBudget (readWord text)
    return { draft with spinBudget }
  | .histories =>
    let histories ← append draft.histories readSize text
    return { draft with histories }
  | .hashTables =>
    let hashTables ← append draft.hashTables readWord text
    return { draft with hashTables }
  | .level =>
    let level ← once draft.level (readable (Numeral.signed? text.toList))
    return { draft with level }

/-- A list, or what stands for it when it was not given. -/
def orElse {α : Type} (values default : List α) : List α :=
  if values.isEmpty then default else values

def Draft.grid (draft : Draft) : TuningGrid :=
  ⟨orElse draft.histories [65536], orElse draft.hashTables [14], draft.level.getD 16⟩

def Draft.options (draft : Draft) : DeviceOptions where
  build := draft.build.getD .compressor
  backend := draft.backend.getD .inline
  latency := draft.latencyCycles.map fun cycles => ⟨cycles, draft.hasCache⟩
  policy := draft.spinBudget.map .bounded

/-- The invocation of a command with everything looked at. -/
def Draft.invocation (draft : Draft) (verb : Verb) : Except UsageError Invocation :=
  if draft.files.isEmpty then .error .missingArgument
  else
    match verb, draft.codec with
    | .compress, some codec => .ok (.compress codec draft.options draft.grid draft.files)
    | .decompress, some codec => .ok (.decompress codec draft.options draft.grid draft.files)
    | .sweep, _ =>
      .ok (.sweep (orElse draft.builds Build.all) (draft.backend.getD .inline) draft.grid
        draft.latencyCycles draft.hasCache draft.files)
    | _, none => .error .missingArgument

end RoccCodec.CommandLine
