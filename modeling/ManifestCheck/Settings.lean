import ManifestCheck.Loader
import ManifestCheck.MediaType

/-!
# Settings

Preferences come from a file and from options; a variable stands between them for the limit on
nesting. What an option says wins over the variable, and the variable over the file. The variable is
read whenever it is set, so a bad value in it is an error even if an option takes its place.
-/

namespace ManifestCheck

/-- How a report is written. -/
inductive OutputFormat where
  | text
  | json
  deriving DecidableEq, Repr

namespace OutputFormat

def name : OutputFormat → String
  | text => "text"
  | json => "json"

def ofName? (text' : String) : Option OutputFormat :=
  [text, json].find? fun f => f.name == text'

end OutputFormat

/-- What may be preferred; what is absent is left to others. -/
structure Preferences where
  maxDepth : Option Nat := none
  mediaType : Option String := none
  format : Option OutputFormat := none
  deriving DecidableEq, Repr

structure Settings where
  loader : Loader
  mediaType : MediaType
  format : OutputFormat
  deriving DecidableEq, Repr

/-- Why there are no settings. -/
inductive SettingsError where
  | limit (cause : LimitError)
  | unknownMediaType (name : String)
  deriving DecidableEq, Repr

namespace SettingsError

def message : SettingsError → String
  | limit cause => cause.message
  | unknownMediaType name => MediaType.unknownMessage name

end SettingsError

namespace Settings

/-- The limit on nesting before it is checked. -/
def depth (file options : Preferences) (lookup : String → Option String) :
    Except LimitError Nat :=
  match lookup depthVariable with
  | none => .ok (options.maxDepth.getD (file.maxDepth.getD ({} : Loader).maxDepth))
  | some _ =>
    match Loader.ofVariables lookup with
    | .error e => .error e
    | .ok l => .ok (options.maxDepth.getD l.maxDepth)

/-- The media type that is preferred, or manifest lists. -/
def preferredMediaType (file options : Preferences) : Except SettingsError MediaType :=
  match options.mediaType.or file.mediaType with
  | none => .ok .manifestList
  | some name =>
    match MediaType.ofName name with
    | .ok m => .ok m
    | .error name => .error (.unknownMediaType name)

def resolve (file options : Preferences) (lookup : String → Option String) :
    Except SettingsError Settings :=
  match depth file options lookup with
  | .error e => .error (.limit e)
  | .ok depth =>
    match Loader.withDepth depth with
    | .error e => .error (.limit e)
    | .ok loader =>
      match preferredMediaType file options with
      | .error e => .error e
      | .ok mediaType =>
        .ok { loader, mediaType, format := (options.format.or file.format).getD .text }

end Settings

end ManifestCheck
