import ManifestCheck.Proofs.Builtin.Denotation
import ManifestCheck.Proofs.Outcome
import ManifestCheck.Proofs.Schema.ValidationOutcomes
import ManifestCheck.Report

/-!
# The states of a report on one document

Examining a document for a report and validating its bytes with a registry are two ways to the same
answer.  They load first and check then, one with a loader of its own and one with that of the
registry, and where the registry is given the same loader the fields of the report say just what the
outcome of validation is (`Builtin.examine_agrees`).

A report has three states: passed, unloaded with a text, and faulted with violations.  Its fields
could mix them; what is examined never does.
-/

namespace ManifestCheck

namespace DocumentReport

/-- Valid, with nothing to say against it. -/
def Passed (d : DocumentReport) : Prop := d.valid = true ∧ d.error = none ∧ d.violations = []

/-- Not valid because it could not be loaded, for the reason that a text gives. -/
def Unloaded (d : DocumentReport) (text : String) : Prop :=
  d.valid = false ∧ d.error = some text ∧ d.violations = []

/-- Not valid because of violations, of which there are some. -/
def Faulted (d : DocumentReport) (violations : List Violation) : Prop :=
  d.valid = false ∧ d.error = none ∧ d.violations = violations ∧ violations ≠ []

/-- No two states hold together. -/
theorem states_exclusive (d : DocumentReport) :
    ¬(d.Passed ∧ ∃ text, d.Unloaded text) ∧ ¬(d.Passed ∧ ∃ vs, d.Faulted vs) ∧
      ¬((∃ text, d.Unloaded text) ∧ ∃ vs, d.Faulted vs) := by
  refine ⟨?_, ?_, ?_⟩
  · intro h
    obtain ⟨⟨hvalid, -⟩, text, hinvalid, -⟩ := h
    cases hvalid.symm.trans hinvalid
  · intro h
    obtain ⟨⟨hvalid, -⟩, vs, hinvalid, -⟩ := h
    cases hvalid.symm.trans hinvalid
  · intro h
    obtain ⟨⟨text, -, herror, -⟩, vs, -, hnone, -⟩ := h
    cases herror.symm.trans hnone

end DocumentReport

namespace Registry

variable {r : Registry} {l : Loader} {m : MediaType} {source : Source} {s : Schema}
  {report : DocumentReport}

theorem examine_of_error {e : LoadError} (hl : l.load source.bytes = .error e) :
    r.examine l m source = .ok { path := source.path, error := some e.message } := by
  rw [examine, hl]

theorem examine_of_ok (h : r.schemas.lookup m.identifier = some s) {d : Document}
    (hl : l.load source.bytes = .ok d) :
    r.examine l m source = .ok {
      path := source.path
      valid := (s.violations d).isEmpty
      violations := s.violations d } := by
  rw [examine, hl]
  dsimp only
  rw [violations_of_lookup h]
  cases s.violations d <;> rfl

/-- With a schema there is always a report, and it is in one of the states. -/
theorem exists_report (h : r.schemas.lookup m.identifier = some s) (l : Loader)
    (source : Source) :
    ∃ report, r.examine l m source = .ok report ∧ report.path = source.path ∧
      (report.Passed ∨ (∃ text, report.Unloaded text) ∨ ∃ vs, report.Faulted vs) := by
  cases hl : l.load source.bytes with
  | error e => exact ⟨_, examine_of_error hl, rfl, .inr (.inl ⟨e.message, rfl, rfl, rfl⟩)⟩
  | ok d =>
    refine ⟨_, examine_of_ok h hl, rfl, ?_⟩
    by_cases hvs : s.violations d = []
    · exact .inl ⟨List.isEmpty_iff.mpr hvs, rfl, hvs⟩
    · exact .inr (.inr ⟨s.violations d, List.isEmpty_eq_false_iff.mpr hvs, rfl, rfl, hvs⟩)

/-- What becomes of each source is what the report holds. -/
theorem report_of_examined {sources : List Source} {documents : List DocumentReport}
    (h : List.Forall₂ (fun source document => r.examine l m source = .ok document)
      sources documents) :
    r.report l m sources = .ok ⟨m, documents⟩ := by
  rw [Registry.report, mapM_of_forall₂ h]
  rfl

/-- With a schema every list of sources is examined. -/
theorem exists_examined (h : r.schemas.lookup m.identifier = some s) (l : Loader)
    (sources : List Source) : ∃ documents,
      List.Forall₂ (fun source document => r.examine l m source = .ok document)
        sources documents :=
  exists_forall₂_of_forall fun source _ => by
    obtain ⟨document, hdocument, -⟩ := exists_report h l source
    exact ⟨document, hdocument⟩

/-- A report names its sources, in their order. -/
theorem paths_of_examined (h : r.schemas.lookup m.identifier = some s) {sources : List Source}
    {documents : List DocumentReport}
    (hall : List.Forall₂ (fun source document => r.examine l m source = .ok document)
      sources documents) :
    documents.map DocumentReport.path = sources.map Source.path := by
  induction hall with
  | nil => rfl
  | @cons source document sources documents hdocument _ ih =>
    obtain ⟨report, hreport, hpath, -⟩ := exists_report h l source
    cases hdocument.symm.trans hreport
    rw [List.map_cons, List.map_cons, hpath, ih]

section States

variable (h : r.schemas.lookup m.identifier = some s) (hreport : r.examine l m source = .ok report)

include h hreport

theorem passed_iff : report.Passed ↔ ∃ d, l.load source.bytes = .ok d ∧ s.violations d = [] := by
  cases hl : l.load source.bytes with
  | error e =>
    cases (examine_of_error hl).symm.trans hreport
    simp [DocumentReport.Passed]
  | ok d =>
    cases (examine_of_ok h hl).symm.trans hreport
    simp [DocumentReport.Passed]

theorem unloaded_iff {text : String} :
    report.Unloaded text ↔ ∃ e, l.load source.bytes = .error e ∧ e.message = text := by
  cases hl : l.load source.bytes with
  | error e =>
    cases (examine_of_error hl).symm.trans hreport
    simp [DocumentReport.Unloaded]
  | ok d =>
    cases (examine_of_ok h hl).symm.trans hreport
    simp [DocumentReport.Unloaded]

theorem faulted_iff {vs : List Violation} :
    report.Faulted vs ↔ vs ≠ [] ∧ ∃ d, l.load source.bytes = .ok d ∧ s.violations d = vs := by
  cases hl : l.load source.bytes with
  | error e =>
    cases (examine_of_error hl).symm.trans hreport
    simp [DocumentReport.Faulted]
  | ok d =>
    cases (examine_of_ok h hl).symm.trans hreport
    simp only [DocumentReport.Faulted, Except.ok.injEq, exists_eq_left', true_and]
    constructor
    · intro hx
      obtain ⟨-, hvs, hne⟩ := hx
      exact ⟨hne, hvs⟩
    · intro hx
      obtain ⟨hne, rfl⟩ := hx
      exact ⟨List.isEmpty_eq_false_iff.mpr hne, rfl, hne⟩

end States

end Registry

namespace Builtin

/-- **A report says what validation finds.**  There is a registry of the built-in schemas, and with
it examining never fails, whatever the media type, the loader and the source.  The report names the
source, and it has passed, is unloaded with a text, or is faulted with violations exactly if the
registry with that loader finds the bytes valid, refuses to load them for a reason with that text, or
reports just these violations.  It is in one of these states and in no two of them. -/
theorem examine_agrees : ∃ r, Registry.builtin = .ok r ∧
    ∀ (l : Loader) (m : MediaType) (source : Source),
      ∃ report, r.examine l m source = .ok report ∧ report.path = source.path ∧
        (report.Passed ↔
          (r.withLoader l).validateBytes m.identifier source.bytes = .ok ()) ∧
        (∀ text, report.Unloaded text ↔ ∃ e,
          (r.withLoader l).validateBytes m.identifier source.bytes = .error (.unloadable e) ∧
            e.message = text) ∧
        (∀ vs, report.Faulted vs ↔
          (r.withLoader l).validateBytes m.identifier source.bytes =
            .error (.invalid m.identifier vs)) ∧
        (report.Passed ∨ (∃ text, report.Unloaded text) ∨ ∃ vs, report.Faulted vs) ∧
        ¬(report.Passed ∧ ∃ text, report.Unloaded text) ∧
        ¬(report.Passed ∧ ∃ vs, report.Faulted vs) ∧
        ¬((∃ text, report.Unloaded text) ∧ ∃ vs, report.Faulted vs) := by
  obtain ⟨r, hr⟩ := exists_builtin
  refine ⟨r, hr, fun l m source => ?_⟩
  obtain ⟨s, -, hs⟩ := exists_schema hr m
  have hs' : (r.withLoader l).schemas.lookup m.identifier = some s := hs
  obtain ⟨report, hreport, hpath, hstate⟩ := Registry.exists_report hs l source
  refine ⟨report, hreport, hpath, ?_, fun text => ?_, fun vs => ?_, hstate,
    report.states_exclusive⟩
  · rw [Registry.passed_iff hs hreport, Registry.validateBytes_eq_ok_iff hs']
    rfl
  · rw [Registry.unloaded_iff hs hreport]
    simp only [Registry.validateBytes_eq_unloadable_iff hs']
    rfl
  · rw [Registry.faulted_iff hs hreport, Registry.validateBytes_eq_invalid_iff hs',
      and_iff_right rfl]
    rfl

end Builtin

end ManifestCheck
