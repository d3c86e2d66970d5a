namespace RoccCodec

/-!
# Usage

The commands of the program, the options each of them knows, and the ways in
which a command line can be refused.
-/

/-- Why a command line is no invocation.  A request for help counts too, as
nothing is run. -/
inductive UsageError where
  | displayHelp
  | missingCommand
  | invalidCommand
  | unknownArgument
  | tooManyValues
  | invalidValue
  | valueValidation
  | argumentConflict
  | missingArgument
  deriving DecidableEq, Repr

namespace UsageError

def name : UsageError → String
  | .displayHelp => "DisplayHelp"
  | .missingCommand => "DisplayHelpOnMissingArgumentOrSubcommand"
  | .invalidCommand => "InvalidSubcommand"
  | .unknownArgument => "UnknownArgument"
  | .tooManyValues => "TooManyValues"
  | .invalidValue => "InvalidValue"
  | .valueValidation => "ValueValidation"
  | .argumentConflict => "ArgumentConflict"
  | .missingArgument => "MissingRequiredArgument"

/-- The exit code of a program that was called like this. -/
def exitCode : UsageError → UInt32
  | .displayHelp => 0
  | _ => 2

end UsageError

/-- The options that take a value. -/
inductive Setting where
  | codec
  | profile
  | profiles
  | backend
  | latencyCycles
  | spinBudget
  | histories
  | hashTables
  | level
  deriving DecidableEq, Repr

namespace Setting

def name : Setting → String
  | .codec => "codec"
  | .profile => "profile"
  | .profiles => "profiles"
  | .backend => "backend"
  | .latencyCycles => "latency-cycles"
  | .spinBudget => "spin-budget"
  | .histories => "hist"
  | .hashTables => "ht-log2"
  | .level => "level"

end Setting

inductive Verb where
  | compress
  | decompress
  | sweep
  deriving DecidableEq, Repr

namespace Verb

def name : Verb → String
  | .compress => "compress"
  | .decompress => "decompress"
  | .sweep => "sweep"

def find? (text : String) : Option Verb :=
  [compress, decompress, sweep].find? fun verb => verb.name == text

def settings : Verb → List Setting
  | .compress | .decompress =>
    [.codec, .profile, .backend, .latencyCycles, .spinBudget, .histories, .hashTables, .level]
  | .sweep => [.profiles, .backend, .latencyCycles, .histories, .hashTables, .level]

/-- The option of a command with this name. -/
def setting? (verb : Verb) (name : String) : Option Setting :=
  verb.settings.find? fun setting => setting.name == name

end Verb

end RoccCodec
