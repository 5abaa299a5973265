import ManifestCheck.CommandLine.Arguments

/-!
# Help

A page says what the program or one of its commands is for, how it is called, and what it takes. A
short page sets explanations beside what they explain, a full page below it. Only the command that
has choices to explain has a full page of its own; the other pages are the same at either length.
-/

namespace ManifestCheck.CommandLine

/-- A line of a page: how something is written, what it is, and the values to choose from. -/
structure HelpEntry where
  form : String
  about : String
  choices : List (String × String) := []

structure HelpPage where
  about : String
  usage : String
  sections : List (String × List HelpEntry)

namespace HelpEntry

/-- The explanation on one line. -/
def summary (e : HelpEntry) : String :=
  if e.choices.isEmpty then e.about
  else e.about ++ " [possible values: " ++ ", ".intercalate (e.choices.map Prod.fst) ++ "]"

/-- The explanation beside the form. -/
def short (width : Nat) (e : HelpEntry) : String :=
  "  " ++ e.form ++ String.ofList (List.replicate (width - e.form.length + 2) ' ') ++ e.summary

/-- The margin of what stands below a form. -/
def margin : String := "          "

/-- The explanation below the form, and one line for each choice. -/
def full (e : HelpEntry) : String :=
  let choices := e.choices.map fun (name, about) => "\n" ++ margin ++ "- " ++ name ++ ": " ++ about
  "  " ++ e.form ++ "\n" ++ margin ++ e.about ++
    (if e.choices.isEmpty then ""
    else "\n\n" ++ margin ++ "Possible values:" ++ String.join choices)

/-- What a command is for. -/
def ofCommand : CommandName → HelpEntry
  | .validate => ⟨"validate", "Validate documents against a built-in schema", []⟩
  | .mediaTypes => ⟨"media-types", "List media types with a built-in schema", []⟩
  | .help => ⟨"help", "Print this message or the help of the given subcommand(s)", []⟩

/-- What a switch is for. The two that ask for help share one line. -/
def ofSwitch? (aboutHelp : String) : Switch → Option HelpEntry
  | .mediaType => some ⟨"-t, --media-type <MEDIA_TYPE>",
      "Media type to validate against: a full identifier or one of `manifest-list`, `index`, " ++
        "`manifest`, `descriptor`, `layout`", []⟩
  | .format => some ⟨"    --format <FORMAT>", "Report format",
      [("text", "`OK:` / `FAIL:` lines and a summary"), ("json", "A single JSON report on stdout")]⟩
  | .maxDepth => some ⟨"    --max-depth <MAX_DEPTH>", "Maximum nesting depth of a document", []⟩
  | .quiet => some ⟨"-q, --quiet", "Print only the full identifiers, one per line", []⟩
  | .verbose => some ⟨"-v, --verbose...",
      "Enable verbose output. Repeat for more verbosity (-v, -vv, -vvv)", []⟩
  | .settingsFile => some ⟨"    --config <CONFIG>", "Path to a YAML configuration file", []⟩
  | .logJson => some ⟨"    --log-json", "Emit log lines as JSON", []⟩
  | .help => some ⟨"-h, --help", aboutHelp, []⟩
  | .fullHelp => none
  | .version => some ⟨"-V, --version", "Print version", []⟩

end HelpEntry

namespace HelpPage

/-- The entries for the switches of a command. -/
def switches (topic : Option CommandName) (aboutHelp : String) : String × List HelpEntry :=
  ("Options:", (Switch.known topic).filterMap (HelpEntry.ofSwitch? aboutHelp))

/-- The page about a command, or about the program. -/
def ofTopic (topic : Option CommandName) (aboutHelp : String) : HelpPage :=
  match topic with
  | none =>
    { about := "CLI tool for imgidx: validate manifest lists, manifests, descriptors and image " ++
        "layout headers against the built-in schemas."
      usage := "imgidx [OPTIONS] <COMMAND>"
      sections := [("Commands:", CommandName.all.map HelpEntry.ofCommand),
        switches none aboutHelp] }
  | some .validate =>
    { about := (HelpEntry.ofCommand .validate).about
      usage := "imgidx validate [OPTIONS] <PATH>..."
      sections := [
        ("Arguments:", [⟨"<PATH>...", "Documents to validate. `-` reads standard input", []⟩]),
        switches topic aboutHelp] }
  | some .mediaTypes =>
    { about := (HelpEntry.ofCommand .mediaTypes).about
      usage := "imgidx media-types [OPTIONS]"
      sections := [switches topic aboutHelp] }
  | some .help =>
    { about := (HelpEntry.ofCommand .help).about
      usage := "imgidx help [COMMAND]..."
      sections := [
        ("Arguments:", [⟨"[COMMAND]...", "Print help for the subcommand(s)", []⟩])] }

/-- The page with each section laid out. -/
def layout (page : HelpPage) (lay : List HelpEntry → String) : String :=
  let sections := page.sections.map fun (heading, entries) => "\n" ++ heading ++ "\n" ++ lay entries
  page.about ++ "\n\nUsage: " ++ page.usage ++ "\n" ++ String.join sections

/-- A section with explanations beside their forms, in one column. -/
def shortSection (entries : List HelpEntry) : String :=
  let width := (entries.map fun e => e.form.length).foldl max 0
  String.join (entries.map fun e => e.short width ++ "\n")

/-- A section with explanations below their forms, and blank lines between them. -/
def fullSection (entries : List HelpEntry) : String :=
  "\n\n".intercalate (entries.map HelpEntry.full) ++ "\n"

/-- The help about a command, or about the program. -/
def text (topic : Option CommandName) (full : Bool) : String :=
  if topic ≠ some .validate then (ofTopic topic "Print help").layout shortSection
  else if full then (ofTopic topic "Print help (see a summary with '-h')").layout fullSection
  else (ofTopic topic "Print help (see more with '--help')").layout shortSection

end HelpPage

end ManifestCheck.CommandLine
