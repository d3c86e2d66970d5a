import RoccCodec.CommandLine.Draft

namespace RoccCodec.CommandLine

/-!
# Command lines

A value is not looked at when it is read, but when the next option or the first
path of a row follows, or the line ends; only a value after an equals sign is
looked at once.  So an unknown argument is reported before a pending value that
is wrong, and a value that was looked at before is reported first of all.
-/

/-- What has been read and not been looked at: an option whose value has not come
yet, an option with its value, or a row of paths. -/
inductive Pending where
  | nothing
  | option (setting : Setting)
  | value (setting : Setting) (text : String)
  | paths (files : List String)

/-- A command line on its way.  Once the options have ended, only paths follow. -/
structure Progress where
  draft : Draft
  pending : Pending
  onlyPaths : Bool

namespace Progress

def start : Progress := ⟨.empty, .nothing, false⟩

/-- Look at what is pending. -/
def settle (progress : Progress) : Except UsageError Draft :=
  match progress.pending with
  | .nothing => .ok progress.draft
  | .option _ => .error .invalidValue
  | .value setting text => progress.draft.assign setting text
  | .paths files =>
    if files.contains "" then .error .invalidValue
    else .ok { progress.draft with files := progress.draft.files ++ files }

def path (progress : Progress) (text : String) : Except UsageError Progress :=
  match progress.pending with
  | .paths files => .ok { progress with pending := .paths (files ++ [text]) }
  | _ => do return { progress with draft := ← progress.settle, pending := .paths [text] }

/-- Take an argument that does not look like an option: a value that is waited
for, or a path. -/
def word (progress : Progress) (text : String) : Except UsageError Progress :=
  match progress.pending with
  | .option setting => .ok { progress with pending := .value setting text }
  | _ => progress.path text

/-- Take an option, with the value that is attached to it. -/
def option (progress : Progress) (setting : Setting) (attached : Option String) :
    Except UsageError Progress := do
  let draft ← progress.settle
  match attached with
  | some text => return { progress with draft := ← draft.assign setting text, pending := .nothing }
  | none => return { progress with draft, pending := .option setting }

def cacheFlag (progress : Progress) : Except UsageError Progress := do
  let draft ← progress.settle
  if draft.hasCache then .error .argumentConflict
  else return { progress with draft := { draft with hasCache := true }, pending := .nothing }

/-- Show the help, unless something pending is wrong. -/
def help (progress : Progress) : Except UsageError Progress := do
  let _ ← progress.settle
  .error .displayHelp

end Progress

/-- The text looks like a number without a sign: digits, then a point and
digits or not, then an exponent or not. -/
def isNumber (text : List Char) : Bool :=
  let isExponent (character : Char) : Bool := character == 'e' || character == 'E'
  let mantissa := text.takeWhile fun character => !isExponent character
  let exponent := text.dropWhile fun character => !isExponent character
  let whole := mantissa.takeWhile fun character => character != '.'
  let fraction := (mantissa.dropWhile fun character => character != '.').drop 1
  !text.isEmpty && !whole.isEmpty && whole.all Char.isDigit && fraction.all Char.isDigit &&
    (exponent.isEmpty || (1 < exponent.length && (exponent.drop 1).all Char.isDigit))

/-- The name of an option, and the value behind the equals sign if there is
one. -/
def splitAttached (text : List Char) : String × Option String :=
  let isName (character : Char) : Bool := character != '='
  (String.ofList (text.takeWhile isName),
    match text.dropWhile isName with
    | [] => none
    | _ :: value => some (String.ofList value))

/-- Take an argument that starts with two dashes and goes on. -/
def long (verb : Verb) (progress : Progress) (text : List Char) : Except UsageError Progress :=
  let (name, attached) := splitAttached text
  match verb.setting? name with
  | some setting => progress.option setting attached
  | none =>
    if name = "help" ∨ name = "has-cache" then
      if attached.isSome then .error .tooManyValues
      else if name = "help" then progress.help
      else progress.cacheFlag
    else .error .unknownArgument

/-- Take letters behind one dash.  The only letter there is asks for help. -/
def letters (progress : Progress) (text : List Char) : Except UsageError Progress :=
  if text.head? = some 'h' then progress.help else .error .unknownArgument

/-- Take an argument that starts with one dash and goes on.  Only the level may
be a negative number. -/
def short (progress : Progress) (argument : String) (text : List Char) :
    Except UsageError Progress :=
  match progress.pending with
  | .option .level => if isNumber text then progress.word argument else letters progress text
  | _ => letters progress text

/-- Take the next argument of a command. -/
def take (verb : Verb) (progress : Progress) (argument : String) : Except UsageError Progress :=
  if progress.onlyPaths then progress.path argument
  else
    match argument.toList with
    | ['-', '-'] => .ok { progress with onlyPaths := true }
    | '-' :: '-' :: text => long verb progress text
    | '-' :: first :: rest => short progress argument (first :: rest)
    | _ => progress.word argument

def parseCommand (verb : Verb) (arguments : List String) : Except UsageError Invocation := do
  let progress ← arguments.foldlM (take verb) .start
  (← progress.settle).invocation verb

/-- The text is a command, or the word for help. -/
def isCommand (text : String) : Bool := (Verb.find? text).isSome || text == "help"

/-- What to say of arguments that do not start with a command. -/
def refuse (first : String) (rest : List String) : UsageError :=
  match first.toList with
  | ['-', '-'] =>
    match rest with
    | [] => .missingCommand
    | next :: _ => if isCommand next then .unknownArgument else .invalidCommand
  | '-' :: '-' :: text =>
    match splitAttached text with
    | ("help", none) => .displayHelp
    | ("help", some _) => .tooManyValues
    | _ => .unknownArgument
  | '-' :: letter :: _ => if letter = 'h' then .displayHelp else .unknownArgument
  | _ =>
    if first = "help" then
      match rest with
      | [] => .displayHelp
      | [topic] => if isCommand topic then .displayHelp else .invalidCommand
      | _ => .invalidCommand
    else .invalidCommand

/-- The invocation that the arguments of the program stand for. -/
def parse : List String → Except UsageError Invocation
  | [] => .error .missingCommand
  | first :: rest =>
    match Verb.find? first with
    | some verb => parseCommand verb rest
    | none => .error (refuse first rest)

end RoccCodec.CommandLine
