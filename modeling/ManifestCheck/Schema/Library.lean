import ManifestCheck.Document.Reader
import ManifestCheck.Document.Utf8
import ManifestCheck.Schema.SchemaError

/-!
# Schema documents

A library holds documents by name. References lead from one place in it to another, in the same
document or in another one. As there are finitely many names and references, there are finitely many
places that any reference can lead to.
-/

namespace ManifestCheck

/-- Documents by name. -/
structure Library where
  documents : List (String × Document) := []

mutual

/-- The references in a document: every string under the key `$ref`. -/
def Document.references : Document → List String
  | array items => referencesInItems items
  | object entries => referencesInEntries entries
  | _ => []

def Document.referencesInItems : List Document → List String
  | [] => []
  | d :: ds => d.references ++ referencesInItems ds

def Document.referencesInEntries : List (String × Document) → List String
  | [] => []
  | (key, d) :: rest =>
    (match d with
      | string reference => if key = "$ref" then [reference] else []
      | d => d.references) ++ referencesInEntries rest

end

namespace Library

/-- A document under a name, in place of any other of that name. -/
def add (lib : Library) (name : String) (d : Document) : Library :=
  ⟨Entries.insert name d lib.documents⟩

/-- A document given as text. -/
def addText (lib : Library) (name text : String) : Except SchemaError Library :=
  match Document.read (Utf8.encode text) with
  | .error e => .error (.invalidJson name e)
  | .ok d => .ok (lib.add name d)

/-- Several documents given as text; the first that cannot be read decides. -/
def ofTexts (texts : List (String × String)) : Except SchemaError Library :=
  texts.foldlM (fun lib (t : String × String) => lib.addText t.1 t.2) {}

/-- What stands at a place. -/
def find? (lib : Library) (l : Location) : Option Document :=
  (lib.documents.lookup l.document).bind fun d => d.pointer? l.pointer

/-- Every place that a reference in any document can lead to, as written. -/
def targets (lib : Library) : List String :=
  let references := lib.documents.flatMap fun d => d.2.references
  lib.documents.flatMap fun d =>
    references.map fun r => ((⟨d.1, ""⟩ : Location).target r).render

end Library

end ManifestCheck
