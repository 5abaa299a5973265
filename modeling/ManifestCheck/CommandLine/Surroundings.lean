import ManifestCheck.Report
import ManifestCheck.Settings.File
import ManifestCheck.Text.Fields

/-!
# Surroundings

What a run finds around it: files, standard input and variables. Documents are read in the order in
which they are named, and the first that cannot be read ends the run. Standard input is named by a
dash and delivers what it has once.
-/

namespace ManifestCheck.CommandLine

structure Surroundings where
  file : String → Option (List UInt8)
  input : Option (List UInt8)
  lookup : String → Option String

/-- Why a run comes to no result. -/
inductive RunError where
  | unreadableSettings (path : String)
  | invalidSettings (path : String)
  | settings (cause : SettingsError)
  | unreadableInput
  | unreadable (path : String)
  | noSchema (cause : SchemaError)

namespace RunError

def message : RunError → String
  | unreadableSettings path => "failed to read config file " ++ path
  | invalidSettings path => "invalid config file " ++ path
  | settings cause => cause.message
  | unreadableInput => "failed to read standard input"
  | unreadable path => "failed to read " ++ path
  | noSchema cause => "schema lookup failed: " ++ cause.message

end RunError

/-- Whether a path is a dash alone, up to slashes and dots behind it. -/
def isInputPath (path : String) : Bool :=
  match Text.fields '/' path.toList with
  | ['-'] :: rest => rest.all fun f => f.isEmpty || f = ['.']
  | _ => false

/-- The documents at several paths; `input` is what standard input has left. -/
def readSources (file : String → Option (List UInt8)) (input : Option (List UInt8)) :
    List String → Except RunError (List Source)
  | [] => .ok []
  | path :: rest =>
    if isInputPath path then
      match input with
      | none => .error .unreadableInput
      | some bytes => (readSources file (some []) rest).map (⟨"<stdin>", bytes⟩ :: ·)
    else
      match file path with
      | none => .error (.unreadable path)
      | some bytes => (readSources file input rest).map (⟨path, bytes⟩ :: ·)

namespace Surroundings

/-- The preferences in a settings file; without a file there are none. -/
def preferences (s : Surroundings) : Option String → Except RunError Preferences
  | none => .ok {}
  | some path =>
    match (s.file path).bind Utf8.decode? with
    | none => .error (.unreadableSettings path)
    | some text =>
      match Preferences.read? text with
      | none => .error (.invalidSettings path)
      | some p => .ok p

/-- The report on the documents at several paths. -/
def report (s : Surroundings) (l : Loader) (mediaType : MediaType) (paths : List String) :
    Except RunError Report :=
  match Registry.builtin with
  | .error e => .error (.noSchema e)
  | .ok registry =>
    match readSources s.file s.input paths with
    | .error e => .error e
    | .ok sources =>
      match registry.report l mediaType sources with
      | .error e => .error (.noSchema e)
      | .ok report => .ok report

end Surroundings

end ManifestCheck.CommandLine
