import ManifestCheck.CommandLine
import ManifestCheck.Proofs.Builtin.OpenObjects
import ManifestCheck.Proofs.Outcome
import ManifestCheck.Proofs.Report.DocumentStates
import ManifestCheck.Proofs.Report.WrittenReport

/-!
# Runs that validate

A run that validates documents ends in one of two ways.  It fails, if there are no settings or if
there is a path at which nothing can be read, wherever among the paths it stands; then it prints
nothing and ends with code 2.  Or it prints one report, in the format that the settings ask for: the
lines that tell of the report and nothing else, or a document from which the report is read back
(`Report.WrittenIn`).  The report has a place for each path, and what stands there comes from the
bytes at this path alone (`CoversPaths`).  The code is 0 if every document is valid and 1 otherwise
(`validate_outcomes`).

Standard input delivers what it has once.  A path that names it a second time would find nothing
left, so that it must not be named twice if the bytes at a path are to be independent of the other
paths.
-/

namespace ManifestCheck

/-! ## Reports -/

namespace Report

variable (r : Report)

/-- A text has a report in a format: it is the lines that tell of the report, or the report is read
back from it. -/
def WrittenIn (text : String) : OutputFormat → Prop
  | .text => r.ToldBy text
  | .json => r.LoadsFrom text

theorem failed_eq_zero_iff : r.failed = 0 ↔ ∀ d ∈ r.documents, d.valid = true := by
  have htotal := r.total_eq
  rw [← List.length_filter_eq_length_iff]
  show r.failed = 0 ↔ r.passed = r.total
  omega

theorem exitCode_eq_zero_iff : r.exitCode = 0 ↔ ∀ d ∈ r.documents, d.valid = true := by
  rw [← failed_eq_zero_iff, exitCode]
  split <;> omega

theorem exitCode_eq : r.exitCode = 0 ∨ r.exitCode = 1 := by
  unfold exitCode
  split
  · exact .inr rfl
  · exact .inl rfl

end Report

namespace CommandLine

/-! ## Reading the documents -/

/-- What can be read at a path when nothing has been read before. -/
def bytesAt? (file : String → Option (List UInt8)) (input : Option (List UInt8)) (path : String) :
    Option (List UInt8) :=
  if isInputPath path then input else file path

/-- How a report names the document at a path. -/
def reportedPath (path : String) : String := if isInputPath path then "<stdin>" else path

def Surroundings.bytesAt? (s : Surroundings) (path : String) : Option (List UInt8) :=
  CommandLine.bytesAt? s.file s.input path

section Reading

variable {file : String → Option (List UInt8)} {input : Option (List UInt8)} {paths : List String}

theorem readSources_of_input {path : String} (h : isInputPath path = true) (rest : List String) :
    readSources file input (path :: rest) =
      match input with
      | none => .error .unreadableInput
      | some bytes => (readSources file (some []) rest).map (⟨"<stdin>", bytes⟩ :: ·) := by
  rw [readSources.eq_def]
  exact if_pos h

theorem readSources_of_file {path : String} (h : ¬isInputPath path = true) (rest : List String) :
    readSources file input (path :: rest) =
      match file path with
      | none => .error (.unreadable path)
      | some bytes => (readSources file input rest).map (⟨path, bytes⟩ :: ·) := by
  rw [readSources.eq_def]
  exact if_neg h

theorem map_fails_iff {ε α β : Type} {reading : Except ε α} {f : α → β} :
    (∃ e, reading.map f = .error e) ↔ ∃ e, reading = .error e := by
  cases reading <;> simp [Except.map]

/-- Reading fails just if there is a path at which nothing can be read.  What standard input has left
makes no difference to that. -/
theorem readSources_fails_iff : (∃ e, readSources file input paths = .error e) ↔
    ∃ path ∈ paths, bytesAt? file input path = none := by
  induction paths generalizing input with
  | nil => simp [readSources]
  | cons path rest ih =>
    rw [List.exists_mem_cons_iff]
    by_cases hinput : isInputPath path = true
    · rw [readSources_of_input hinput, bytesAt?, if_pos hinput]
      cases input with
      | none => exact ⟨fun _ => .inl rfl, fun _ => ⟨_, rfl⟩⟩
      | some bytes =>
        have hleft : (∃ path ∈ rest, bytesAt? file (some []) path = none) ↔
            ∃ path ∈ rest, bytesAt? file (some bytes) path = none := by
          refine exists_congr fun other => and_congr_right fun _ => ?_
          unfold bytesAt?
          split <;> simp
        rw [map_fails_iff, ih, hleft]
        simp
    · rw [readSources_of_file hinput, bytesAt?, if_neg hinput]
      cases file path with
      | none => exact ⟨fun _ => .inl rfl, fun _ => ⟨_, rfl⟩⟩
      | some bytes =>
        rw [map_fails_iff, ih]
        simp

/-- What standard input has makes no difference if no path names it. -/
theorem readSources_eq_of_input (input' : Option (List UInt8))
    (h : ∀ path ∈ paths, ¬isInputPath path = true) :
    readSources file input paths = readSources file input' paths := by
  induction paths with
  | nil => rfl
  | cons path rest ih =>
    obtain ⟨hpath, hrest⟩ := List.forall_mem_cons.mp h
    rw [readSources_of_file hpath, readSources_of_file hpath, ih hrest]

/-- Where standard input is named at most once, each path has the bytes that it would have alone. -/
theorem readSources_eq_ok (honce : paths.countP isInputPath ≤ 1)
    (h : ∀ path ∈ paths, bytesAt? file input path ≠ none) :
    ∃ sources, readSources file input paths = .ok sources ∧
      List.Forall₂ (fun path (source : Source) => source.path = reportedPath path ∧
        bytesAt? file input path = some source.bytes) paths sources := by
  induction paths with
  | nil => exact ⟨[], rfl, .nil⟩
  | cons path rest ih =>
    obtain ⟨hpath, hrest⟩ := List.forall_mem_cons.mp h
    rw [List.countP_cons] at honce
    obtain ⟨sources, hsources, hall⟩ := ih (by omega) hrest
    obtain ⟨bytes, hbytes⟩ := Option.ne_none_iff_exists'.mp hpath
    have hread : readSources file input (path :: rest) =
        .ok (⟨reportedPath path, bytes⟩ :: sources) := by
      unfold bytesAt? at hbytes
      unfold reportedPath
      by_cases hinput : isInputPath path = true
      · rw [if_pos hinput] at hbytes honce
        have hnone : ∀ other ∈ rest, ¬isInputPath other = true := fun other hother hname => by
          have hpos := List.countP_pos_iff.mpr ⟨other, hother, hname⟩
          omega
        rw [readSources_of_input hinput, if_pos hinput, hbytes]
        dsimp only
        rw [readSources_eq_of_input input hnone, hsources]
        rfl
      · rw [if_neg hinput] at hbytes
        rw [readSources_of_file hinput, if_neg hinput, hbytes, hsources]
        rfl
    exact ⟨_, hread, .cons ⟨rfl, hbytes⟩ hall⟩

end Reading

/-! ## The report -/

/-- A report has a place for each path, in their order.  At each place is what examining the bytes at
this path gives, and the counts are those of the documents. -/
structure CoversPaths (s : Surroundings) (registry : Registry) (settings : Settings)
    (paths : List String) (report : Report) : Prop where
  mediaType : report.mediaType = settings.mediaType
  document : ∀ (i : Nat) (path : String), paths[i]? = some path → ∃ bytes document,
    s.bytesAt? path = some bytes ∧ report.documents[i]? = some document ∧
      registry.examine settings.loader settings.mediaType ⟨reportedPath path, bytes⟩ = .ok document
  total : report.total = paths.length
  total_eq : report.total = report.passed + report.failed
  passed : report.passed = report.documents.countP fun d => d.valid

variable {s : Surroundings} {paths : List String} {file options : Preferences}

/-- What is read at the paths leaves only one report that covers them. -/
theorem CoversPaths.eq_of_examined {registry : Registry} {settings : Settings} {report : Report}
    {sources : List Source} {documents : List DocumentReport}
    (h : CoversPaths s registry settings paths report)
    (hsources : List.Forall₂ (fun path (source : Source) => source.path = reportedPath path ∧
      s.bytesAt? path = some source.bytes) paths sources)
    (hdocuments : List.Forall₂ (fun source document =>
      registry.examine settings.loader settings.mediaType source = .ok document)
        sources documents) :
    report = ⟨settings.mediaType, documents⟩ := by
  obtain ⟨mediaType, found⟩ := report
  have hfound : found = documents := by
    refine List.ext_getElem? fun i => ?_
    cases hpath : paths[i]? with
    | none =>
      have hi : paths.length ≤ i := List.getElem?_eq_none_iff.mp hpath
      have hlength : found.length = paths.length := h.total
      have hlength' := hsources.length_eq.trans hdocuments.length_eq
      rw [List.getElem?_eq_none (by omega), List.getElem?_eq_none (by omega)]
    | some path =>
      obtain ⟨⟨name, bytes⟩, hsource, rfl, hbytes⟩ := exists_getElem?_of_forall₂ hsources hpath
      obtain ⟨document, hdocument, hexamined⟩ := exists_getElem?_of_forall₂ hdocuments hsource
      obtain ⟨bytes', document', hbytes', hdocument', hexamined'⟩ := h.document i path hpath
      cases hbytes.symm.trans hbytes'
      cases hexamined.symm.trans hexamined'
      exact hdocument'.trans hdocument.symm
  cases h.mediaType
  rw [hfound]

/-- The built-in registry examines whatever has been read. -/
theorem exists_documents {registry : Registry} (hr : Registry.builtin = .ok registry) (l : Loader)
    (m : MediaType) (sources : List Source) : ∃ documents,
      List.Forall₂ (fun source document => registry.examine l m source = .ok document)
        sources documents := by
  obtain ⟨schema, -, hschema⟩ := Builtin.exists_schema hr m
  exact Registry.exists_examined hschema l sources

/-- A report comes from reading the documents and examining them with the built-in registry. -/
theorem report_eq_bind {registry : Registry} (hr : Registry.builtin = .ok registry) (l : Loader)
    (m : MediaType) : s.report l m paths =
      (readSources s.file s.input paths).bind fun sources =>
        (registry.report l m sources).mapError RunError.noSchema := by
  -- unfolded where it is not applied: applied, the kernel would evaluate the built-in registry
  have hdef := Eq.refl Surroundings.report
  conv at hdef => rhs; delta Surroundings.report
  rw [hdef, hr]
  dsimp only
  cases readSources s.file s.input paths with
  | error e => rfl
  | ok sources =>
    change _ = (registry.report l m sources).mapError RunError.noSchema
    dsimp only
    cases registry.report l m sources <;> rfl

/-- There is no report just if some path cannot be read. -/
theorem report_fails_iff (l : Loader) (m : MediaType) :
    (∃ e, s.report l m paths = .error e) ↔ ∃ path ∈ paths, s.bytesAt? path = none := by
  obtain ⟨registry, hr⟩ := Builtin.exists_builtin
  refine Iff.trans ?_ readSources_fails_iff
  rw [report_eq_bind hr]
  cases readSources s.file s.input paths with
  | error e => simp [Except.bind]
  | ok sources =>
    obtain ⟨documents, hdocuments⟩ := exists_documents hr l m sources
    simp [Except.bind, Registry.report_of_examined hdocuments, Except.mapError]

theorem exists_report_of_readable {registry : Registry} (hr : Registry.builtin = .ok registry)
    (settings : Settings) (honce : paths.countP isInputPath ≤ 1)
    (h : ∀ path ∈ paths, s.bytesAt? path ≠ none) :
    ∃ report, s.report settings.loader settings.mediaType paths = .ok report ∧
      CoversPaths s registry settings paths report := by
  obtain ⟨sources, hread, hsources⟩ := readSources_eq_ok honce h
  obtain ⟨documents, hdocuments⟩ :=
    exists_documents hr settings.loader settings.mediaType sources
  refine ⟨⟨settings.mediaType, documents⟩, ?_, rfl, fun i path hpath => ?_, ?_, Report.total_eq _,
    Report.passed_eq_countP _⟩
  · rw [report_eq_bind hr, hread]
    simp only [Except.bind, Registry.report_of_examined hdocuments, Except.mapError]
  · obtain ⟨⟨name, bytes⟩, hsource, rfl, hbytes⟩ := exists_getElem?_of_forall₂ hsources hpath
    obtain ⟨document, hdocument, hexamined⟩ := exists_getElem?_of_forall₂ hdocuments hsource
    exact ⟨bytes, document, hbytes, hdocument, hexamined⟩
  · exact (hsources.length_eq.trans hdocuments.length_eq).symm

/-! ## The run -/

/-- A report is written in the format that is asked for. -/
theorem writtenIn_written (format : OutputFormat) (r : Report) :
    r.WrittenIn (written format r) format := by
  cases format with
  | text => exact Report.toldBy_iff.mpr rfl
  | json => exact r.loadsFrom_json

/-- With settings, validating writes the report. -/
theorem validate_eq_map {settings : Settings}
    (hsettings : Settings.resolve file options s.lookup = .ok settings) :
    validate s file options paths =
      (s.report settings.loader settings.mediaType paths).map fun report =>
        { exitCode := report.exitCode, output := written settings.format report } := by
  -- what makes the report is kept closed here, or the kernel would evaluate the built-in registry
  obtain ⟨makeReport, hmake⟩ : ∃ makeReport, s.report = makeReport := ⟨_, rfl⟩
  rw [validate, hmake, hsettings]
  dsimp only
  cases makeReport settings.loader settings.mediaType paths <;> rfl

/-- Validating fails just if there are no settings or some path cannot be read. -/
theorem validate_fails_iff : (∃ e, validate s file options paths = .error e) ↔
    (∃ e, Settings.resolve file options s.lookup = .error e) ∨
      ∃ path ∈ paths, s.bytesAt? path = none := by
  cases hsettings : Settings.resolve file options s.lookup with
  | error e =>
    refine ⟨fun _ => .inl ⟨e, rfl⟩, fun _ => ⟨.settings e, ?_⟩⟩
    simp only [validate, hsettings]
  | ok settings =>
    rw [validate_eq_map hsettings, map_fails_iff, report_fails_iff]
    simp

/-- **A run fails and prints nothing, or prints one report on all documents.**  Validating fails just
if there are no settings or some path cannot be read, and a run then ends with code 2 and has no
output.  Otherwise there is a report that covers the paths, and the output has this report in the
format of the settings, and nothing else: just its lines, or a document from which it is read back.
The code is 0 if every document is valid and else 1. -/
theorem validate_outcomes (s : Surroundings) (file options : Preferences) {paths : List String}
    (honce : paths.countP isInputPath ≤ 1) :
    ∃ registry, Registry.builtin = .ok registry ∧
      ((∃ e, validate s file options paths = .error e) ↔
        (∃ e, Settings.resolve file options s.lookup = .error e) ∨
          ∃ path ∈ paths, s.bytesAt? path = none) ∧
      (∀ arguments name e,
        Request.ofArguments arguments = .ok (.command ⟨name, .validate options paths⟩) →
        s.preferences name = .ok file → validate s file options paths = .error e →
          run arguments s = { exitCode := 2, output := "", complaint := e.message }) ∧
      ∀ outcome, validate s file options paths = .ok outcome →
        (∀ arguments name,
          Request.ofArguments arguments = .ok (.command ⟨name, .validate options paths⟩) →
          s.preferences name = .ok file → run arguments s = outcome) ∧
        ∃ settings report, Settings.resolve file options s.lookup = .ok settings ∧
          CoversPaths s registry settings paths report ∧
          report.WrittenIn outcome.output settings.format ∧
          (outcome.exitCode = 0 ↔ ∀ d ∈ report.documents, d.valid = true) ∧
          (outcome.exitCode = 0 ∨ outcome.exitCode = 1) := by
  obtain ⟨registry, hr⟩ := Builtin.exists_builtin
  refine ⟨registry, hr, validate_fails_iff, fun arguments name e hrequest hfile herror => ?_,
    fun outcome houtcome => ⟨fun arguments name hrequest hfile => ?_, ?_⟩⟩
  · simp only [run, hrequest, Request.run, Command.run, hfile, herror]
    rfl
  · simp only [run, hrequest, Request.run, Command.run, hfile, houtcome]
  · have hsucceeds : ¬∃ e, validate s file options paths = .error e := fun hfails => by
      obtain ⟨e, he⟩ := hfails
      cases houtcome.symm.trans he
    rw [validate_fails_iff, not_or] at hsucceeds
    obtain ⟨hresolved, hreadable⟩ := hsucceeds
    cases hsettings : Settings.resolve file options s.lookup with
    | error e => exact absurd ⟨e, hsettings⟩ hresolved
    | ok settings =>
      simp only [not_exists, not_and] at hreadable
      obtain ⟨report, hreport, hcovers⟩ := exists_report_of_readable hr settings honce hreadable
      rw [validate_eq_map hsettings, hreport] at houtcome
      cases houtcome
      exact ⟨settings, report, rfl, hcovers, writtenIn_written settings.format report,
        report.exitCode_eq_zero_iff, report.exitCode_eq⟩

/-! ### A mixed run -/

/-- The header of a layout. -/
def validHeader : String := "\x7b\"imageLayoutVersion\":\"1.0.0\"\x7d"

/-- A header whose version is no text. -/
def invalidHeader : String := "\x7b\"imageLayoutVersion\":1\x7d"

/-- A header that ends too early. -/
def unfinishedHeader : String := "\x7b"

def mixedSources : List Source := [
  ⟨"oci-layout", Utf8.encode validHeader⟩,
  ⟨"bad.json", Utf8.encode invalidHeader⟩,
  ⟨"<stdin>", Utf8.encode unfinishedHeader⟩]

/-- What becomes of the three headers. -/
def mixedDocuments : List DocumentReport := [
  { path := "oci-layout", valid := true },
  { path := "bad.json"
    violations := [
      ⟨[.key "imageLayoutVersion"], .wrongType (TypeSet.ofList [.string]) .integer⟩] },
  { path := "<stdin>"
    error := some <| "invalid document: unexpected end of input at line 1 column 1: " ++
      "EOF while parsing an object" }]

/-- The record of the report on them. -/
def mixedRecord : ReportRecord where
  mediaType := .imageLayout
  total := 3
  passed := 1
  failed := 2
  documents := [
    ⟨"oci-layout", true, none, []⟩,
    ⟨"bad.json", false, none,
      [⟨"imageLayoutVersion", .typeMismatch, "expected string, got integer"⟩]⟩,
    ⟨"<stdin>", false, some <| "invalid document: unexpected end of input at line 1 column 1: " ++
      "EOF while parsing an object", []⟩]

theorem examine_mixedSources {registry : Registry} (hr : Registry.builtin = .ok registry) :
    List.Forall₂ (fun source document => registry.examine {} .imageLayout source = .ok document)
      mixedSources mixedDocuments := by
  have hs := Builtin.lookup_of_denotes (m := .imageLayout) hr rfl Builtin.denotes_layout
  refine .cons ?valid (.cons ?invalid (.cons ?unfinished .nil))
  case valid =>
    have hd : (Document.object [("imageLayoutVersion", .string "1.0.0")]).Faithful :=
      .object (by decide) (by decide) (List.forall_mem_singleton.mpr (.string _))
    exact Registry.examine_of_ok hs
      (hd.load_eq_ok (Document.writtenAs_render hd.numbersLiteral) (by decide) (by decide))
  case invalid =>
    have hd : (Document.object [("imageLayoutVersion", .number ⟨"1"⟩)]).Faithful :=
      .object (by decide) (by decide)
        (List.forall_mem_singleton.mpr (.number (isLiteral_toString 1)))
    exact Registry.examine_of_ok hs
      (hd.load_eq_ok (Document.writtenAs_render hd.numbersLiteral) (by decide) (by decide))
  case unfinished =>
    obtain ⟨e, he, hmessage⟩ : ∃ e,
        ({} : Loader).load (Utf8.encode unfinishedHeader) = .error e ∧
          e.message = "invalid document: unexpected end of input at line 1 column 1: " ++
            "EOF while parsing an object" := ⟨_, rfl, by decide +kernel⟩
    exact hmessage ▸ Registry.examine_of_error he

/-- Two of the headers are files, and the third is on standard input. -/
def mixedInput : Surroundings where
  file path :=
    ([("oci-layout", validHeader), ("bad.json", invalidHeader)].lookup path).map Utf8.encode
  input := some (Utf8.encode unfinishedHeader)
  lookup := fun _ => none

/-- The paths of the three headers. -/
def mixedPaths : List String := ["oci-layout", "bad.json", "-"]

theorem bytesAt?_mixedInput :
    List.Forall₂ (fun path (source : Source) => source.path = reportedPath path ∧
      mixedInput.bytesAt? path = some source.bytes) mixedPaths mixedSources :=
  .cons (by decide +kernel) (.cons (by decide +kernel) (.cons (by decide +kernel) .nil))

/-- In both formats the run on the three headers ends with code 1, and with a path between them at
which there is nothing it ends with code 2. -/
theorem validate_outcomes_mixed :
    (mixedPaths.countP isInputPath ≤ 1 ∧ ["oci-layout", "missing", "-"].countP isInputPath ≤ 1) ∧
      ((run (["validate", "-t", "layout"] ++ mixedPaths) mixedInput).exitCode = 1 ∧
        (run (["validate", "-t", "layout"] ++ mixedPaths) mixedInput).output =
          "OK: oci-layout\n" ++
          "FAIL: bad.json\n" ++
          "  imageLayoutVersion: expected string, got integer\n" ++
          "FAIL: <stdin>\n" ++
          "  invalid document: unexpected end of input at line 1 column 1: " ++
            "EOF while parsing an object\n" ++
          "Documents: 1/3 passed\n") ∧
      ((run (["validate", "-t", "layout", "--format", "json"] ++ mixedPaths) mixedInput).exitCode =
          1 ∧
        mixedRecord.LoadsFrom
          (run (["validate", "-t", "layout", "--format", "json"] ++ mixedPaths) mixedInput).output) ∧
      (run ["validate", "-t", "layout", "oci-layout", "missing", "-"] mixedInput).exitCode = 2 ∧
      (run ["validate", "-t", "layout", "oci-layout", "missing", "-"] mixedInput).output = "" := by
  have honce : mixedPaths.countP isInputPath ≤ 1 := by decide +kernel
  have honce' : ["oci-layout", "missing", "-"].countP isInputPath ≤ 1 := by decide +kernel
  -- the two formats differ in the settings only
  have reported (format : Option OutputFormat) (arguments : List String)
      (hasks : Request.ofArguments arguments =
        .ok (.command ⟨none, .validate { mediaType := some "layout", format } mixedPaths⟩)) :
      (run arguments mixedInput).exitCode = 1 ∧ Report.WrittenIn ⟨.imageLayout, mixedDocuments⟩
        (run arguments mixedInput).output (format.getD .text) := by
    obtain ⟨registry, hr, hfails, -, hruns⟩ :=
      validate_outcomes mixedInput {} { mediaType := some "layout", format } honce
    have hsettings : Settings.resolve {} { mediaType := some "layout", format } mixedInput.lookup =
        .ok ⟨{}, .imageLayout, format.getD .text⟩ := by
      obtain _ | _ | _ := format <;> decide +kernel
    cases hvalidate : validate mixedInput {} { mediaType := some "layout", format } mixedPaths with
    | error e =>
      obtain ⟨e, he⟩ | ⟨path, hpath, hnone⟩ := hfails.mp ⟨e, hvalidate⟩
      · cases hsettings.symm.trans he
      · obtain ⟨i, hi⟩ := List.mem_iff_getElem?.mp hpath
        obtain ⟨source, -, -, hbytes⟩ := exists_getElem?_of_forall₂ bytesAt?_mixedInput hi
        cases hbytes.symm.trans hnone
    | ok outcome =>
      obtain ⟨hrun, settings, report, hsettings', hcovers, hwritten, hzero, hcode⟩ :=
        hruns outcome hvalidate
      cases hsettings.symm.trans hsettings'
      cases hcovers.eq_of_examined bytesAt?_mixedInput (examine_mixedSources hr)
      rw [hrun _ none hasks rfl]
      refine ⟨hcode.resolve_left fun hpassed => ?_, hwritten⟩
      cases hzero.mp hpassed _ (List.mem_cons_of_mem _ List.mem_cons_self)
  obtain ⟨htext, hlines⟩ := reported none (["validate", "-t", "layout"] ++ mixedPaths)
    (by decide +kernel)
  obtain ⟨hjson, record, hrecorded, hloads⟩ := reported (some .json)
    (["validate", "-t", "layout", "--format", "json"] ++ mixedPaths) (by decide +kernel)
  have hrecord : record = mixedRecord :=
    (Report.recordedBy_iff.mp hrecorded).trans (by decide +kernel)
  refine ⟨⟨honce, honce'⟩, ⟨htext, (Report.toldBy_iff.mp hlines).trans (by decide +kernel)⟩,
    ⟨hjson, hrecord ▸ hloads⟩, ?_⟩
  obtain ⟨registry, hr, hfails, hstops, -⟩ :=
    validate_outcomes mixedInput {} { mediaType := some "layout" } honce'
  obtain ⟨e, he⟩ := hfails.mpr (.inr ⟨"missing", by simp, by decide +kernel⟩)
  have hasks : Request.ofArguments ["validate", "-t", "layout", "oci-layout", "missing", "-"] =
      .ok (.command ⟨none,
        .validate { mediaType := some "layout" } ["oci-layout", "missing", "-"]⟩) := by
    decide +kernel
  rw [hstops _ none e hasks rfl he]
  exact ⟨rfl, rfl⟩

end CommandLine

end ManifestCheck
