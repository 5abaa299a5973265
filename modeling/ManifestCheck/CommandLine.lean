import ManifestCheck.CommandLine.Help
import ManifestCheck.CommandLine.Surroundings
import ManifestCheck.MediaTypeTable

/-!
# The command line

What a run of the program prints and the code with which it ends: 0 if all is well, 1 if some
document is not valid, 2 if the run comes to no result. In that case nothing is printed. The settings
file is read before anything else, also for a command that needs no settings.
-/

namespace ManifestCheck.CommandLine

/-- How a run ends: its code, the text on standard output, and a complaint for the user. -/
structure RunResult where
  exitCode : Nat
  output : String := ""
  complaint : String := ""
  deriving DecidableEq, Repr

def RunResult.failure (complaint : String) : RunResult := { exitCode := 2, complaint }

def versionLine : String := "imgidx 0.1.0\n"

/-- A report in the format that the settings ask for. -/
def written (format : OutputFormat) (r : Report) : String :=
  match format with
  | .text => r.text
  | .json => r.json

/-- Validates documents with preferences from a file. -/
def validate (s : Surroundings) (file options : Preferences) (paths : List String) :
    Except RunError RunResult :=
  match Settings.resolve file options s.lookup with
  | .error e => .error (.settings e)
  | .ok settings =>
    match s.report settings.loader settings.mediaType paths with
    | .error e => .error e
    | .ok r => .ok { exitCode := r.exitCode, output := written settings.format r }

/-- Carries out a command. -/
def Command.run (c : Command) (s : Surroundings) : Except RunError RunResult :=
  match s.preferences c.settingsFile with
  | .error e => .error e
  | .ok file =>
    match c.task with
    | .validate options paths => validate s file options paths
    | .listMediaTypes quiet => .ok { exitCode := 0, output := MediaTypeTable.render quiet }

/-- Carries out what the arguments ask for. -/
def Request.run (r : Request) (s : Surroundings) : RunResult :=
  match r with
  | .version => { exitCode := 0, output := versionLine }
  | .help topic full => { exitCode := 0, output := HelpPage.text topic full }
  | .command c =>
    match c.run s with
    | .error e => .failure e.message
    | .ok outcome => outcome

/-- The whole run for a list of arguments. -/
def run (arguments : List String) (s : Surroundings) : RunResult :=
  match Request.ofArguments arguments with
  | .error e => .failure e.message
  | .ok r => r.run s

/-- The files that a request may read. -/
def Request.files : Request → List String
  | .command c =>
    c.settingsFile.toList ++
      match c.task with
      | .validate _ paths => paths.filter fun p => !isInputPath p
      | .listMediaTypes _ => []
  | _ => []

/-- Whether a request may read standard input. -/
def Request.readsInput : Request → Bool
  | .command ⟨_, .validate _ paths⟩ => paths.any isInputPath
  | _ => false

end ManifestCheck.CommandLine
