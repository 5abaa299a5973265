import ManifestCheck.Document.Indented
import ManifestCheck.Schema.Registry

/-!
# Reports

What became of several documents that were checked against the schema of one media type. A report is
written as lines of text or as an indented document. What does not apply to a document is left out
of both. An indented document holds records: of a violation the path in its written form, the kind
and the message.
-/

namespace ManifestCheck

/-- What became of one document: whether it is valid, why it could not be loaded if it could not, and
the violations in it. -/
structure DocumentReport where
  path : String
  valid : Bool := false
  error : Option String := none
  violations : List Violation := []

structure Report where
  mediaType : MediaType
  documents : List DocumentReport

/-- The bytes of a document, and the path under which it is reported. -/
structure Source where
  path : String
  bytes : List UInt8

namespace Registry

/-- Loads and checks one document. Only a missing schema is an error. -/
def examine (r : Registry) (l : Loader) (mediaType : MediaType) (s : Source) :
    Except SchemaError DocumentReport :=
  match l.load s.bytes with
  | .error cause => .ok { path := s.path, error := some cause.message }
  | .ok d =>
    match r.violations mediaType.identifier d with
    | .error cause => .error cause
    | .ok [] => .ok { path := s.path, valid := true }
    | .ok violations => .ok { path := s.path, violations }

/-- Examines several documents, each by itself. -/
def report (r : Registry) (l : Loader) (mediaType : MediaType) (sources : List Source) :
    Except SchemaError Report :=
  (sources.mapM (r.examine l mediaType)).map fun documents => ⟨mediaType, documents⟩

end Registry

namespace Report

def total (r : Report) : Nat := r.documents.length

def passed (r : Report) : Nat := (r.documents.filter fun d => d.valid).length

def failed (r : Report) : Nat := r.total - r.passed

/-- Success only if every document is valid. -/
def exitCode (r : Report) : Nat := if 0 < r.failed then 1 else 0

/-- The lines for one document. -/
def documentLines (d : DocumentReport) : List String :=
  if d.valid then ["OK: " ++ d.path]
  else
    let complaints := d.error.toList ++ d.violations.map Violation.render
    ("FAIL: " ++ d.path) :: complaints.map fun c => "  " ++ c

/-- The lines of the report, the count of valid documents last. -/
def lines (r : Report) : List String :=
  r.documents.flatMap documentLines ++
    ["Documents: " ++ toString r.passed ++ "/" ++ toString r.total ++ " passed"]

def text (r : Report) : String := String.join (r.lines.map fun l => l ++ "\n")

end Report

/-! ## Records -/

/-- What is written of a violation. -/
structure ViolationRecord where
  path : String
  kind : FaultKind
  message : String
  deriving DecidableEq, Repr

/-- What is written of a document. -/
structure DocumentRecord where
  path : String
  valid : Bool
  error : Option String
  violations : List ViolationRecord
  deriving DecidableEq, Repr

/-- What is written of a report. -/
structure ReportRecord where
  mediaType : MediaType
  total : Nat
  passed : Nat
  failed : Nat
  documents : List DocumentRecord
  deriving DecidableEq, Repr

/-- A count as a number of a document. -/
def countDocument (n : Nat) : Document := .number ⟨toString n⟩

namespace ViolationRecord

def toDocument (v : ViolationRecord) : Document :=
  .object [
    ("path", .string v.path),
    ("kind", .string v.kind.identifier),
    ("message", .string v.message)]

end ViolationRecord

namespace DocumentRecord

/-- The entries for one document; what does not apply is left out. -/
def entries (d : DocumentRecord) : List (String × Document) :=
  [("path", .string d.path), ("valid", .bool d.valid)] ++
  (d.error.toList.map fun error => ("error", .string error)) ++
  (if d.violations.isEmpty then []
    else [("violations", .array (d.violations.map ViolationRecord.toDocument))])

end DocumentRecord

namespace ReportRecord

def toDocument (r : ReportRecord) : Document :=
  .object [
    ("media_type", .string r.mediaType.identifier),
    ("total", countDocument r.total),
    ("passed", countDocument r.passed),
    ("failed", countDocument r.failed),
    ("documents", .array (r.documents.map fun d => .object d.entries))]

/-- The text of a record. -/
def json (r : ReportRecord) : String := r.toDocument.indented ++ "\n"

end ReportRecord

def Violation.record (v : Violation) : ViolationRecord := ⟨v.path.render, v.kind, v.message⟩

def DocumentReport.record (d : DocumentReport) : DocumentRecord :=
  ⟨d.path, d.valid, d.error, d.violations.map Violation.record⟩

namespace Report

def record (r : Report) : ReportRecord :=
  ⟨r.mediaType, r.total, r.passed, r.failed, r.documents.map DocumentReport.record⟩

/-- The report as an indented document. -/
def json (r : Report) : String := r.record.json

end Report

end ManifestCheck
