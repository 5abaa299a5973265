import ManifestCheck.CommandLine.Switch

/-!
# Arguments

Arguments are read from left to right. What comes behind a switch that takes a value is that value,
unless it starts with a dash and goes on; letters behind one dash are switches that stand together;
two dashes alone end the switches. A request for help or for the version is granted as soon as it is
met, and an error found before it wins.
-/

namespace ManifestCheck.CommandLine

/-- What a command does. -/
inductive Task where
  | validate (options : Preferences) (paths : List String)
  | listMediaTypes (quiet : Bool)
  deriving DecidableEq, Repr

structure Command where
  settingsFile : Option String
  task : Task
  deriving DecidableEq, Repr

/-- What the arguments ask for. -/
inductive Request where
  | version
  | help (topic : Option CommandName) (full : Bool)
  | command (c : Command)
  deriving DecidableEq, Repr

/-- Why the arguments ask for nothing. -/
inductive UsageError where
  | missingCommand
  | missingPath
  | emptyPath
  | unknownArgument (text : String)
  | repeated (s : Switch)
  | missingValue (s : Switch)
  | unexpectedValue (s : Switch)
  | badValue (s : Switch) (value : String)
  deriving DecidableEq, Repr

namespace UsageError

def message : UsageError → String
  | missingCommand => "a command is required"
  | missingPath => "a path is required"
  | emptyPath => "a path must not be empty"
  | unknownArgument text => "unexpected argument " ++ text
  | repeated s => s.name ++ " cannot be used multiple times"
  | missingValue s => s.name ++ " requires a value"
  | unexpectedValue s => s.name ++ " takes no value"
  | badValue s value => "invalid value " ++ value ++ " for " ++ s.name

end UsageError

/-- What the arguments up to some place have said. -/
structure Reading where
  command : Option CommandName := none
  /-- The switches before the command, with their values. -/
  before : List (Switch × String) := []
  /-- The switches since then, with their values. -/
  given : List (Switch × String) := []
  words : List String := []
  /-- The switch whose value comes next. -/
  waiting : Option Switch := none
  /-- Whether all that follows are words. -/
  wordsOnly : Bool := false

/-- Why reading ends before the last argument. -/
inductive Ending where
  | granted (r : Request)
  | refused (e : UsageError)

namespace Reading

/-- Takes note of a switch and its value. -/
def give (r : Reading) (s : Switch) (value : String) : Except Ending Reading :=
  match s with
  | .version => .error (.granted .version)
  | .help => .error (.granted (.help r.command false))
  | .fullHelp => .error (.granted (.help r.command true))
  | s =>
    if !s.repeats && (r.given.lookup s).isSome then .error (.refused (.repeated s))
    else if !s.admits value then .error (.refused (.badValue s value))
    else .ok { r with given := r.given ++ [(s, value)], waiting := none }

/-- Takes note of a word: the name of the command, a path, or the command that help is about. -/
def addWord (r : Reading) (word : String) : Except Ending Reading :=
  let unknown := .error (.refused (.unknownArgument word))
  match r.command with
  | none =>
    if r.wordsOnly then unknown
    else match CommandName.ofText? word with
      | some c => .ok { command := some c, before := r.given }
      | none => unknown
  | some .validate =>
    if word = "" then .error (.refused .emptyPath)
    else .ok { r with words := r.words ++ [word] }
  | some .mediaTypes => unknown
  | some .help =>
    if r.words.isEmpty && (CommandName.ofText? word).isSome then .ok { r with words := [word] }
    else unknown

/-- Reads a switch behind two dashes; a value may be attached by an equals sign. -/
def readLong (r : Reading) (cs : List Char) : Except Ending Reading :=
  let name := String.ofList (cs.takeWhile fun c => c ≠ '=')
  let attached := (cs.dropWhile fun c => c ≠ '=').tail?.map String.ofList
  match (Switch.known r.command).find? fun s => s.long? == some name with
  | none => .error (.refused (.unknownArgument ("--" ++ name)))
  | some s =>
    match s.takesValue, attached with
    | false, none => r.give s ""
    | false, some _ => .error (.refused (.unexpectedValue s))
    | true, none => .ok { r with waiting := some s }
    | true, some value => r.give s value

/-- Reads letters behind one dash. Behind one that takes a value the rest is that value, with or
without an equals sign before it. -/
def readLetters (r : Reading) : List Char → Except Ending Reading
  | [] => .ok r
  | c :: cs =>
    match (Switch.known r.command).find? fun s => s.short? == some c with
    | none => .error (.refused (.unknownArgument (String.ofList ['-', c])))
    | some s =>
      if s.takesValue then
        match cs with
        | [] => .ok { r with waiting := some s }
        | '=' :: value => r.give s (String.ofList value)
        | value => r.give s (String.ofList value)
      else
        match r.give s "" with
        | .error e => .error e
        | .ok more => more.readLetters cs

/-- Reads an argument that starts with a dash and goes on. -/
def readSwitch (r : Reading) (read : Except Ending Reading) : Except Ending Reading :=
  match r.waiting with
  | some s => .error (.refused (.missingValue s))
  | none => read

/-- Reads one argument. -/
def step (r : Reading) (argument : String) : Except Ending Reading :=
  if r.wordsOnly || r.command = some .help then r.addWord argument
  else match argument.toList with
    | ['-', '-'] => r.readSwitch (.ok { r with wordsOnly := true })
    | '-' :: '-' :: cs => r.readSwitch (r.readLong cs)
    | '-' :: c :: cs => r.readSwitch (r.readLetters (c :: cs))
    | _ =>
      match r.waiting with
      | some s => r.give s argument
      | none => r.addWord argument

/-- The settings file that was named last. -/
def settingsFile (r : Reading) : Option String :=
  (r.given.lookup .settingsFile).or (r.before.lookup .settingsFile)

/-- The preferences that the switches state. -/
def options (r : Reading) : Preferences :=
  { maxDepth := (r.given.lookup .maxDepth).bind fun v => (readCount v.toList).toOption
    mediaType := r.given.lookup .mediaType
    format := (r.given.lookup .format).bind OutputFormat.ofName? }

/-- What is asked for when no argument is left. -/
def finish (r : Reading) : Except UsageError Request :=
  match r.waiting, r.command with
  | some s, _ => .error (.missingValue s)
  | none, none => .error .missingCommand
  | none, some .help => .ok (.help (r.words.head?.bind CommandName.ofText?) true)
  | none, some .mediaTypes =>
    .ok (.command ⟨r.settingsFile, .listMediaTypes (r.given.lookup .quiet).isSome⟩)
  | none, some .validate =>
    if r.words.isEmpty then .error .missingPath
    else .ok (.command ⟨r.settingsFile, .validate r.options r.words⟩)

end Reading

/-- What a command line asks for; the name of the program is no part of it. -/
def Request.ofArguments (arguments : List String) : Except UsageError Request :=
  match arguments.foldlM Reading.step {} with
  | .ok r => r.finish
  | .error (.granted r) => .ok r
  | .error (.refused e) => .error e

end ManifestCheck.CommandLine
