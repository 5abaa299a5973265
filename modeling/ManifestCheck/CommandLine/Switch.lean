import ManifestCheck.Settings
import ManifestCheck.Text.Count

/-!
# Commands and switches

The names of the commands, and the switches that may stand before a command and behind it. A switch
either takes a value or stands alone; only the one for verbosity may be repeated.
-/

namespace ManifestCheck.CommandLine

inductive CommandName where
  | validate
  | mediaTypes
  | help
  deriving DecidableEq, Repr

namespace CommandName

/-- Every command, in listing order. -/
def all : List CommandName := [validate, mediaTypes, help]

def text : CommandName → String
  | validate => "validate"
  | mediaTypes => "media-types"
  | help => "help"

def ofText? (word : String) : Option CommandName := all.find? fun c => c.text == word

end CommandName

inductive Switch where
  | mediaType
  | format
  | maxDepth
  | quiet
  | verbose
  | settingsFile
  | logJson
  /-- Asks for the short help. -/
  | help
  /-- Asks for the long help. -/
  | fullHelp
  | version
  deriving DecidableEq, Repr

namespace Switch

/-- The name behind two dashes. -/
def long? : Switch → Option String
  | mediaType => some "media-type"
  | format => some "format"
  | maxDepth => some "max-depth"
  | quiet => some "quiet"
  | verbose => some "verbose"
  | settingsFile => some "config"
  | logJson => some "log-json"
  | help => none
  | fullHelp => some "help"
  | version => some "version"

/-- The letter behind one dash. -/
def short? : Switch → Option Char
  | mediaType => some 't'
  | quiet => some 'q'
  | verbose => some 'v'
  | help => some 'h'
  | version => some 'V'
  | _ => none

def takesValue : Switch → Bool
  | mediaType | format | maxDepth | settingsFile => true
  | _ => false

/-- Whether a switch may be given more than once. -/
def repeats (s : Switch) : Bool := s == verbose

/-- Whether a value is one for the switch. Any text may name a media type; whether one goes by that
name is for the settings. -/
def admits (s : Switch) (value : String) : Bool :=
  match s with
  | format => (OutputFormat.ofName? value).isSome
  | maxDepth => (readCount value.toList).toOption.isSome
  | settingsFile => value ≠ ""
  | _ => true

/-- The switches behind a command, or before any. -/
def known : Option CommandName → List Switch
  | none => [verbose, settingsFile, logJson, help, fullHelp, version]
  | some .validate =>
    [mediaType, verbose, settingsFile, format, logJson, maxDepth, help, fullHelp]
  | some .mediaTypes => [quiet, verbose, settingsFile, logJson, help, fullHelp]
  | some .help => []

/-- How a switch is referred to. -/
def name (s : Switch) : String :=
  match s.long? with
  | some long => "--" ++ long
  | none => "-h"

end Switch

end ManifestCheck.CommandLine
