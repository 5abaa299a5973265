import Mathlib.Data.List.Forall2
import ManifestCheck.Proofs.Document.IndentedText
import ManifestCheck.Proofs.Outcome
import ManifestCheck.Proofs.Schema.KeywordFields
import ManifestCheck.Report

/-!
# Written reports

What is written of a report is described here by itself, without the functions that write it: the
keys of an indented document with what stands under each (`ReportRecord.SaidBy`), what the record of
a report takes from it (`Report.RecordedBy`), and lines of text (`Report.ToldBy`).  A report is
written as described in both of its forms (`Report.loadsFrom_json`, `Report.toldBy_iff`).  The
indented document is loaded with the standard limit, whatever texts the report holds, and the record
is read back from it by looking up its keys (`Report.load_json`).

The two fields of a document that do not always apply, its error and its violations, have a key
only if there is something under it.
-/

namespace ManifestCheck

/-! ## Counts -/

/-- The digits of a number start with a zero only if it is zero. -/
theorem toDigits_of_head_zero {n : Nat} (h : (Nat.toDigits 10 n).head? = some '0') : n = 0 := by
  induction n using Nat.strongRecOn with
  | ind n ih =>
    by_cases hn : n < 10
    · rw [Nat.toDigits_of_lt_base hn, List.head?_cons, Option.some.injEq] at h
      exact (by decide : ∀ d < 10, Nat.digitChar d = '0' → d = 0) n hn h
    · rw [Nat.toDigits_of_base_le (by decide) (Nat.not_lt.mp hn),
        List.head?_append_of_ne_nil _ Nat.toDigits_ne_nil] at h
      have hzero := ih (n / 10) (by omega) h
      omega

theorem isWhole_toDigits (n : Nat) : Number.IsWhole (Nat.toDigits 10 n) := by
  refine ⟨⟨Nat.toDigits_ne_nil, fun c => Nat.isDigit_of_mem_toDigits (by decide) (by decide)⟩, ?_⟩
  intro h
  rw [toDigits_of_head_zero h]
  rfl

theorem isLiteral_toString (n : Nat) : (⟨toString n⟩ : Number).IsLiteral :=
  ⟨[], Nat.toDigits 10 n, [], [], .inl rfl, isWhole_toDigits n, .inl rfl, .inl rfl,
    by rw [List.nil_append, List.append_nil, List.append_nil]; exact Nat.toList_repr⟩

/-- The digits of a number are read as the number. -/
theorem Digits.read?_toDigits (n : Nat) : read? (Nat.toDigits 10 n) = some n := by
  obtain ⟨⟨hne, hdigits⟩, -⟩ := isWhole_toDigits n
  have hvalue : value (Nat.toDigits 10 n) = n := Nat.ofDigitChars_ten_toDigits
  rw [read?, List.all_eq_true.mpr hdigits, List.isEmpty_eq_false_iff.mpr hne, hvalue]
  rfl

/-! ## What a document says -/

/-- The words for the kinds of faults. -/
inductive FaultKind.Spelled : FaultKind → String → Prop where
  | typeMismatch : Spelled .typeMismatch "type_mismatch"
  | missingProperty : Spelled .missingProperty "missing_required_property"
  | patternMismatch : Spelled .patternMismatch "pattern_mismatch"
  | enumMismatch : Spelled .enumMismatch "enum_mismatch"
  | rangeViolation : Spelled .rangeViolation "range_violation"

/-- A document says where a violation is, of what kind it is, and what its message is. -/
structure ViolationRecord.SaidBy (v : ViolationRecord) (d : Document) : Prop where
  path : d.get? "path" = some (.string v.path)
  kind : ∃ word, v.kind.Spelled word ∧ d.get? "kind" = some (.string word)
  message : d.get? "message" = some (.string v.message)

/-- A document says what became of another one: always whether it is valid, an error if there is
one, and the violations if there are any, in their order. -/
structure DocumentRecord.SaidBy (r : DocumentRecord) (d : Document) : Prop where
  path : d.get? "path" = some (.string r.path)
  valid : d.get? "valid" = some (.bool r.valid)
  error : d.get? "error" = r.error.map .string
  noViolations : r.violations = [] → d.get? "violations" = none
  violations : r.violations ≠ [] → ∃ items, d.get? "violations" = some (.array items) ∧
    List.Forall₂ ViolationRecord.SaidBy r.violations items

/-- A document says what a record of a report does: the media type by its identifier, the counts in
digits, and what became of each document, in their order. -/
structure ReportRecord.SaidBy (r : ReportRecord) (d : Document) : Prop where
  mediaType : d.get? "media_type" = some (.string r.mediaType.identifier)
  total : d.get? "total" = some (.number ⟨toString r.total⟩)
  passed : d.get? "passed" = some (.number ⟨toString r.passed⟩)
  failed : d.get? "failed" = some (.number ⟨toString r.failed⟩)
  documents : ∃ items, d.get? "documents" = some (.array items) ∧
    List.Forall₂ DocumentRecord.SaidBy r.documents items

/-! ## Reading records -/

namespace Document

/-- The number that a row of digits denotes, however large. -/
def wholeNumber? (d : Document) : Option Nat :=
  d.number?.bind fun n => Digits.read? n.literal.toList

/-- The elements of a list. -/
def items? : Document → Option (List Document)
  | array items => some items
  | _ => none

theorem wholeNumber?_toString (n : Nat) : (number ⟨toString n⟩).wholeNumber? = some n := by
  have htext : (toString n).toList = Nat.toDigits 10 n := Nat.toList_repr
  rw [wholeNumber?, number?, Option.bind_some, htext, Digits.read?_toDigits]

end Document

open Document

/-- What is read from each element is read from the list. -/
theorem mapM_of_said {α β : Type} {Said : α → β → Prop} {read? : β → Option α}
    (h : ∀ a b, Said a b → read? b = some a) {as : List α} {bs : List β}
    (hall : List.Forall₂ Said as bs) : bs.mapM read? = some as :=
  mapM_of_forall₂ (hall.flip.imp fun b a hab => h a b hab)

theorem FaultKind.Spelled.find?_eq_some {k : FaultKind} {word : String} (h : k.Spelled word) :
    FaultKind.all.find? (fun k => k.identifier == word) = some k := by
  cases h <;> rfl

namespace ViolationRecord

/-- What is written of a violation, read from an object. -/
def ofDocument? (d : Document) : Option ViolationRecord := do
  let path ← (d.get? "path").bind text?
  let identifier ← (d.get? "kind").bind text?
  let kind ← FaultKind.all.find? fun k => k.identifier == identifier
  let message ← (d.get? "message").bind text?
  return ⟨path, kind, message⟩

theorem ofDocument?_of_saidBy (v : ViolationRecord) (d : Document) (h : v.SaidBy d) :
    ofDocument? d = some v := by
  obtain ⟨word, hword, hkind⟩ := h.kind
  simp only [ofDocument?, h.path, hkind, h.message, text?, hword.find?_eq_some,
    Option.bind_eq_bind, Option.bind_some, Option.pure_def]

end ViolationRecord

namespace DocumentRecord

/-- The error of a document: none if the key is absent. -/
def error? (d : Document) : Option (Option String) :=
  match d.get? "error" with
  | none => some none
  | some error => error.text?.map some

/-- The violations in a document: none if the key is absent, and one at least behind the key. -/
def violations? (d : Document) : Option (List ViolationRecord) :=
  match d.get? "violations" with
  | none => some []
  | some violations => violations.members?.bind (List.mapM ViolationRecord.ofDocument?)

/-- What is written of a document, read from an object. -/
def ofDocument? (d : Document) : Option DocumentRecord := do
  let path ← (d.get? "path").bind text?
  let valid ← (d.get? "valid").bind truth?
  let error ← error? d
  let violations ← violations? d
  return ⟨path, valid, error, violations⟩

section Said

variable {r : DocumentRecord} {d : Document}

theorem error?_of_saidBy (h : r.SaidBy d) : error? d = some r.error := by
  rw [error?, h.error]
  cases r.error <;> rfl

theorem violations?_of_saidBy (h : r.SaidBy d) : violations? d = some r.violations := by
  rw [violations?]
  by_cases hempty : r.violations = []
  · rw [h.noViolations hempty, hempty]
  · obtain ⟨items, hitems, hall⟩ := h.violations hempty
    have hread := mapM_of_said ViolationRecord.ofDocument?_of_saidBy hall
    rw [hitems]
    cases items with
    | nil => exact absurd (List.forall₂_nil_right_iff.mp hall) hempty
    | cons item items => exact hread

end Said

theorem ofDocument?_of_saidBy (r : DocumentRecord) (d : Document) (h : r.SaidBy d) :
    ofDocument? d = some r := by
  simp only [ofDocument?, h.path, h.valid, text?, truth?, error?_of_saidBy h,
    violations?_of_saidBy h, Option.bind_eq_bind, Option.bind_some, Option.pure_def]

end DocumentRecord

namespace ReportRecord

/-- A record of a report, read from an object. -/
def ofDocument? (d : Document) : Option ReportRecord := do
  let identifier ← (d.get? "media_type").bind text?
  let mediaType ← MediaType.ofIdentifier? identifier
  let total ← (d.get? "total").bind wholeNumber?
  let passed ← (d.get? "passed").bind wholeNumber?
  let failed ← (d.get? "failed").bind wholeNumber?
  let items ← (d.get? "documents").bind items?
  let documents ← items.mapM DocumentRecord.ofDocument?
  return ⟨mediaType, total, passed, failed, documents⟩

/-- A record is read from whatever document says what it does. -/
theorem ofDocument?_of_saidBy {r : ReportRecord} {d : Document} (h : r.SaidBy d) :
    ofDocument? d = some r := by
  have htype : MediaType.ofIdentifier? r.mediaType.identifier = some r.mediaType := by
    cases r.mediaType <;> rfl
  obtain ⟨items, hitems, hall⟩ := h.documents
  have hdocuments := mapM_of_said DocumentRecord.ofDocument?_of_saidBy hall
  simp only [ofDocument?, h.mediaType, h.total, h.passed, h.failed, hitems, text?, items?,
    wholeNumber?_toString, htype, hdocuments, Option.bind_eq_bind, Option.bind_some,
    Option.pure_def]

end ReportRecord

/-! ## Records as documents -/

theorem FaultKind.spelled_identifier (k : FaultKind) : k.Spelled k.identifier := by
  cases k <;> constructor

theorem faithful_countDocument (n : Nat) : (countDocument n).Faithful :=
  .number (isLiteral_toString n)

/-- What holds between each element and its image holds between the lists. -/
theorem forall₂_map_of_forall {α β : Type} {R : α → β → Prop} {write : α → β}
    (h : ∀ a, R a (write a)) (as : List α) : List.Forall₂ R as (as.map write) :=
  List.forall₂_map_right_iff.mpr (List.forall₂_same.mpr fun a _ => h a)

namespace ViolationRecord

theorem saidBy_toDocument (v : ViolationRecord) : v.SaidBy v.toDocument :=
  ⟨rfl, ⟨_, v.kind.spelled_identifier, rfl⟩, rfl⟩

theorem faithful_toDocument (v : ViolationRecord) : v.toDocument.Faithful :=
  .object (by simp [numberKey]) (by simp [Entries.keys]) (by simp [Faithful.string])

theorem nesting_toDocument (v : ViolationRecord) : v.toDocument.nesting = 1 := rfl

end ViolationRecord

namespace DocumentRecord

/-- There is an error behind its key just if there is an error. -/
theorem get?_error (r : DocumentRecord) :
    (Document.object r.entries).get? "error" = r.error.map .string := by
  obtain ⟨path, valid, error, violations⟩ := r
  cases error <;> cases violations <;> rfl

/-- There are violations behind their key just if there are violations. -/
theorem get?_violations (r : DocumentRecord) : (Document.object r.entries).get? "violations" =
    if r.violations = [] then none
    else some (.array (r.violations.map ViolationRecord.toDocument)) := by
  obtain ⟨path, valid, error, violations⟩ := r
  cases error <;> cases violations <;> rfl

theorem saidBy_entries (r : DocumentRecord) : r.SaidBy (.object r.entries) where
  path := rfl
  valid := rfl
  error := r.get?_error
  noViolations h := r.get?_violations.trans (if_pos h)
  violations h := ⟨_, r.get?_violations.trans (if_neg h),
    forall₂_map_of_forall ViolationRecord.saidBy_toDocument r.violations⟩

/-- The keys of a document in a report are distinct, whichever of them there are. -/
theorem nodup_keys_entries (r : DocumentRecord) : (Entries.keys r.entries).Nodup := by
  obtain ⟨path, valid, error, violations⟩ := r
  cases error <;> cases violations <;> simp [entries, Entries.keys]

/-- Behind the keys of a document are texts, a truth value and the list of its violations. -/
theorem forall_mem_entries {P : Document → Prop} {r : DocumentRecord}
    (htext : ∀ text, P (.string text)) (hvalid : P (.bool r.valid))
    (hviolations : P (.array (r.violations.map ViolationRecord.toDocument))) :
    ∀ e ∈ r.entries, P e.2 := by
  intro e he
  rcases List.mem_append.mp he with he | he
  · rcases List.mem_append.mp he with he | he
    · rcases List.mem_pair.mp he with rfl | rfl
      · exact htext r.path
      · exact hvalid
    · obtain ⟨error, -, rfl⟩ := List.mem_map.mp he
      exact htext error
  · split at he
    · cases he
    · rw [List.mem_singleton.mp he]
      exact hviolations

theorem faithful_entries (r : DocumentRecord) : (Document.object r.entries).Faithful :=
  .object (by simp [entries, numberKey]) r.nodup_keys_entries
    (forall_mem_entries .string (.bool r.valid)
      (.array (List.forall_mem_map.mpr fun v _ => v.faithful_toDocument)))

theorem nesting_entries_le (r : DocumentRecord) : (Document.object r.entries).nesting ≤ 3 := by
  have hviolations : (Document.array (r.violations.map ViolationRecord.toDocument)).nesting ≤ 2 :=
    nesting_array_le.mpr (List.forall_mem_map.mpr fun v _ => v.nesting_toDocument.le)
  exact nesting_object_le.mpr (forall_mem_entries (P := fun d => d.nesting ≤ 2)
    (fun _ => Nat.zero_le 2) (Nat.zero_le 2) hviolations)

end DocumentRecord

namespace ReportRecord

theorem saidBy_toDocument (r : ReportRecord) : r.SaidBy r.toDocument where
  mediaType := rfl
  total := rfl
  passed := rfl
  failed := rfl
  documents := ⟨_, rfl, forall₂_map_of_forall DocumentRecord.saidBy_entries r.documents⟩

theorem faithful_toDocument (r : ReportRecord) : r.toDocument.Faithful := by
  refine .object (by simp [numberKey]) (by simp [Entries.keys]) ?_
  simp only [List.forall_mem_cons]
  exact ⟨.string _, faithful_countDocument _, faithful_countDocument _, faithful_countDocument _,
    .array (List.forall_mem_map.mpr fun d _ => d.faithful_entries), List.forall_mem_nil _⟩

/-- The containers of a report: its record, the list of its documents, each of these, the list of
the violations in it, and each of those. -/
theorem nesting_toDocument_le (r : ReportRecord) : r.toDocument.nesting ≤ 5 := by
  refine nesting_object_le.mpr ?_
  simp only [List.forall_mem_cons]
  exact ⟨Nat.zero_le 4, Nat.zero_le 4, Nat.zero_le 4, Nat.zero_le 4,
    nesting_array_le.mpr (List.forall_mem_map.mpr fun d _ => d.nesting_entries_le),
    List.forall_mem_nil _⟩

/-- A text from which a record is read: it loads with the standard limit, the document says what the
record does, and the record is read back from there. -/
def LoadsFrom (record : ReportRecord) (text : String) : Prop :=
  ∃ d, ({} : Loader).load (Utf8.encode text) = .ok d ∧ record.SaidBy d ∧
    ofDocument? d = some record

theorem loadsFrom_json (r : ReportRecord) : r.LoadsFrom r.json := by
  have hwritten : r.toDocument.WrittenAs (Utf8.encode r.json) :=
    Document.writtenAs_indented r.faithful_toDocument.numbersLiteral
  have hload : ({} : Loader).load (Utf8.encode r.json) = .ok r.toDocument :=
    r.faithful_toDocument.load_eq_ok hwritten (r.nesting_toDocument_le.trans (by decide))
      (r.nesting_toDocument_le.trans (by decide))
  exact ⟨r.toDocument, hload, r.saidBy_toDocument, ofDocument?_of_saidBy r.saidBy_toDocument⟩

end ReportRecord

/-! ## Records of reports -/

/-- A step of a path is shown by its key as it is, or by its position in digits. -/
inductive Segment.Shown : Segment → String → Prop where
  | key (name : String) : Shown (.key name) name
  | index (position : Nat) : Shown (.index position) (toString position)

/-- A record of a violation has its path as a text, the steps joined by points. -/
structure Violation.RecordedBy (v : Violation) (record : ViolationRecord) : Prop where
  path : record.path = v.path.render
  steps : ∃ steps, List.Forall₂ Segment.Shown v.path steps ∧ record.path = ".".intercalate steps
  kind : record.kind = v.kind
  message : record.message = v.message

structure DocumentReport.RecordedBy (d : DocumentReport) (record : DocumentRecord) : Prop where
  path : record.path = d.path
  valid : record.valid = d.valid
  error : record.error = d.error
  violations : List.Forall₂ Violation.RecordedBy d.violations record.violations

/-- A record of a report counts its documents: all of them, the valid ones, and the others. -/
structure Report.RecordedBy (r : Report) (record : ReportRecord) : Prop where
  mediaType : record.mediaType = r.mediaType
  total : record.total = r.documents.length
  passed : record.passed = r.documents.countP fun d => d.valid
  failed : record.failed = r.documents.countP fun d => !d.valid
  documents : List.Forall₂ DocumentReport.RecordedBy r.documents record.documents

/-! A report has one record only, and this is the record that is written. -/

/-- Where each element has one image only, so has the list. -/
theorem forall₂_iff_eq_map {α β : Type} {R : α → β → Prop} {write : α → β}
    (h : ∀ {a b}, R a b ↔ b = write a) {as : List α} {bs : List β} :
    List.Forall₂ R as bs ↔ bs = as.map write := by
  constructor
  · intro hall
    induction hall with
    | nil => rfl
    | cons hab _ ih => rw [List.map_cons, h.mp hab, ih]
  · rintro rfl
    exact forall₂_map_of_forall (fun a => h.mpr rfl) as

theorem Segment.shown_iff {step : Segment} {text : String} :
    step.Shown text ↔ text = step.render := by
  constructor
  · intro h
    cases h <;> rfl
  · rintro rfl
    cases step <;> constructor

theorem Violation.recordedBy_iff {v : Violation} {record : ViolationRecord} :
    v.RecordedBy record ↔ record = v.record := by
  constructor
  · intro h
    obtain ⟨path, kind, message⟩ := record
    obtain ⟨rfl, -, rfl, rfl⟩ := h
    rfl
  · rintro rfl
    exact ⟨rfl, ⟨_, (forall₂_iff_eq_map @Segment.shown_iff).mpr rfl, rfl⟩, rfl, rfl⟩

theorem DocumentReport.recordedBy_iff {d : DocumentReport} {record : DocumentRecord} :
    d.RecordedBy record ↔ record = d.record := by
  constructor
  · intro h
    obtain ⟨path, valid, error, violations⟩ := record
    obtain ⟨rfl, rfl, rfl, hrecords⟩ := h
    cases (forall₂_iff_eq_map @Violation.recordedBy_iff).mp hrecords
    rfl
  · rintro rfl
    exact ⟨rfl, rfl, rfl, (forall₂_iff_eq_map @Violation.recordedBy_iff).mpr rfl⟩

namespace Report

variable (r : Report)

theorem passed_eq_countP : r.passed = r.documents.countP fun d => d.valid :=
  List.countP_eq_length_filter.symm

theorem total_eq : r.total = r.passed + r.failed := by
  have hle : r.passed ≤ r.total := List.length_filter_le _ _
  rw [failed]
  omega

theorem failed_eq_countP : r.failed = r.documents.countP fun d => !d.valid := by
  have hall : r.documents.length = (r.documents.countP fun d => d.valid) +
      r.documents.countP fun d => !d.valid := by
    simpa using List.length_eq_countP_add_countP fun d : DocumentReport => d.valid
  have htotal : r.documents.length = r.passed + r.failed := r.total_eq
  rw [passed_eq_countP] at htotal
  omega

theorem recordedBy_iff {r : Report} {record : ReportRecord} :
    r.RecordedBy record ↔ record = r.record := by
  constructor
  · intro h
    obtain ⟨mediaType, total, passed, failed, documents⟩ := record
    obtain ⟨rfl, rfl, hpassed, hfailed, hrecords⟩ := h
    rw [← passed_eq_countP] at hpassed
    rw [← failed_eq_countP] at hfailed
    cases hpassed
    cases hfailed
    cases (forall₂_iff_eq_map @DocumentReport.recordedBy_iff).mp hrecords
    rfl
  · rintro rfl
    exact ⟨rfl, rfl, r.passed_eq_countP, r.failed_eq_countP,
      (forall₂_iff_eq_map @DocumentReport.recordedBy_iff).mpr rfl⟩

/-- A text from which what a report says is read back. -/
def LoadsFrom (r : Report) (text : String) : Prop :=
  ∃ record, r.RecordedBy record ∧ record.LoadsFrom text

theorem loadsFrom_json : r.LoadsFrom r.json :=
  ⟨r.record, recordedBy_iff.mpr rfl, r.record.loadsFrom_json⟩

/-- **A written report is loaded back as it was**, with the standard limit.  The document that is
loaded says what the record of the report does: the identifier of the media type, the counts, and
for each document in its order the path, whether it is valid, its error and its violations, each
with the path in its written form, the word for its kind, and the message.  The whole record is read
back from it.  Every record is loaded back in this way, also one that no report has, whatever texts
and counts it holds. -/
theorem load_json :
    (∀ r : Report, ∃ record, r.RecordedBy record ∧ ∃ d,
      ({} : Loader).load (Utf8.encode r.json) = .ok d ∧ record.SaidBy d ∧
        ReportRecord.ofDocument? d = some record) ∧
      ∀ record : ReportRecord, ∃ d,
        ({} : Loader).load (Utf8.encode record.json) = .ok d ∧ record.SaidBy d ∧
          ReportRecord.ofDocument? d = some record :=
  ⟨loadsFrom_json, ReportRecord.loadsFrom_json⟩

end Report

/-! ## Lines of text -/

/-- A violation is told in one line: where it is, the root having a name of its own, and the
message. -/
inductive Violation.ToldBy : Violation → String → Prop where
  | root {v : Violation} : v.path = [] → ToldBy v ("(root): " ++ v.message)
  | inside {v : Violation} : v.path ≠ [] → ToldBy v (v.path.render ++ ": " ++ v.message)

/-- What became of a document is told in one line if it is valid.  Otherwise there is one indented
line more for the error, if there is one, and one for each violation. -/
inductive DocumentReport.ToldBy : DocumentReport → List String → Prop where
  | passed {d : DocumentReport} : d.valid = true → ToldBy d ["OK: " ++ d.path]
  | failed {d : DocumentReport} {complaints : List String} : d.valid = false →
      List.Forall₂ Violation.ToldBy d.violations complaints →
        ToldBy d (("FAIL: " ++ d.path) :: (d.error.toList ++ complaints).map fun c => "  " ++ c)

/-- A text that tells of a report holds the lines for its documents in their order, then one with
the counts, and nothing else; a line break ends each of them. -/
def Report.ToldBy (r : Report) (text : String) : Prop :=
  ∃ parts, List.Forall₂ DocumentReport.ToldBy r.documents parts ∧
    text = String.join ((parts.flatten ++ ["Documents: " ++
      toString (r.documents.countP fun d => d.valid) ++ "/" ++ toString r.documents.length ++
        " passed"]).map fun line => line ++ "\n")

/-! A report is told in one text only, and this is the text that is written. -/

theorem Violation.toldBy_iff {v : Violation} {line : String} :
    v.ToldBy line ↔ line = v.render := by
  have eq_render : ∀ line, v.ToldBy line → line = v.render := by
    intro line h
    cases h with
    | root h =>
      rw [render, h]
      rfl
    | inside h =>
      rw [render, List.isEmpty_eq_false_iff.mpr h]
      rfl
  refine ⟨eq_render line, ?_⟩
  rintro rfl
  by_cases h : v.path = []
  · exact eq_render _ (.root h) ▸ .root h
  · exact eq_render _ (.inside h) ▸ .inside h

theorem DocumentReport.toldBy_iff {d : DocumentReport} {lines : List String} :
    d.ToldBy lines ↔ lines = Report.documentLines d := by
  unfold Report.documentLines
  cases hvalid : d.valid with
  | true =>
    refine ⟨fun h => ?_, fun h => h ▸ .passed hvalid⟩
    cases h with
    | passed => rfl
    | failed hinvalid => cases hvalid.symm.trans hinvalid
  | false =>
    have hcomplaints : List.Forall₂ Violation.ToldBy d.violations _ :=
      (forall₂_iff_eq_map @Violation.toldBy_iff).mpr rfl
    refine ⟨fun h => ?_, fun h => h ▸ .failed hvalid hcomplaints⟩
    cases h with
    | passed hvalid' => cases hvalid.symm.trans hvalid'
    | failed _ hall =>
      rw [(forall₂_iff_eq_map @Violation.toldBy_iff).mp hall]
      rfl

theorem Report.toldBy_iff {r : Report} {text : String} : r.ToldBy text ↔ text = r.text := by
  rw [Report.text, lines, passed_eq_countP, List.flatMap_def]
  constructor
  · intro h
    obtain ⟨parts, hdocuments, rfl⟩ := h
    rw [(forall₂_iff_eq_map @DocumentReport.toldBy_iff).mp hdocuments]
    rfl
  · rintro rfl
    exact ⟨_, (forall₂_iff_eq_map @DocumentReport.toldBy_iff).mpr rfl, rfl⟩

end ManifestCheck
