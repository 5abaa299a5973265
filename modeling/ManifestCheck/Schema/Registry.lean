import ManifestCheck.Loader
import ManifestCheck.Schema.Builtin
import ManifestCheck.Schema.Compilation
import ManifestCheck.Schema.Validation

/-!
# Registries

A registry binds schemas to media types and validates documents that it loads itself. A media type
without a schema is reported before the document is looked at, a document that cannot be loaded
before any violation.
-/

namespace ManifestCheck

/-- Schemas by media type, in ascending order of media type and each once, and the loader for the
documents. -/
structure Registry where
  schemas : List (String × Schema) := []
  loader : Loader := {}

/-- Why a document was not found valid. -/
inductive ValidationError where
  | unloadable (cause : LoadError)
  | invalid (mediaType : String) (violations : List Violation)
  | noSchema (cause : SchemaError)

namespace ValidationError

def message : ValidationError → String
  | unloadable cause => cause.message
  | invalid mediaType violations =>
    "document does not conform to " ++ mediaType ++ ":\n" ++ Violation.renderAll violations
  | noSchema cause => "schema configuration error: " ++ cause.message

end ValidationError

/-- Inserts in ascending order of keys, in place of any entry with that key. -/
def insertSorted {α : Type} (key : String) (value : α) : List (String × α) → List (String × α)
  | [] => [(key, value)]
  | (k, v) :: rest =>
    if key < k then (key, value) :: (k, v) :: rest
    else if key = k then (key, value) :: rest
    else (k, v) :: insertSorted key value rest

namespace Registry

/-- Binds a schema to a media type, in place of any other. -/
def insert (r : Registry) (mediaType : String) (s : Schema) : Registry :=
  { r with schemas := insertSorted mediaType s r.schemas }

def withLoader (r : Registry) (l : Loader) : Registry := { r with loader := l }

/-- The media types that have a schema. -/
def mediaTypes (r : Registry) : List String := Entries.keys r.schemas

def schema (r : Registry) (mediaType : String) : Except SchemaError Schema :=
  match r.schemas.lookup mediaType with
  | some s => .ok s
  | none => .error (.unregistered mediaType)

/-- Binds the schemas of several documents to media types, one after the other. -/
def ofLibrary (lib : Library) (bindings : List (String × String)) :
    Except SchemaError Registry :=
  bindings.foldlM (fun r (b : String × String) => (lib.compile b.2).map (r.insert b.1)) {}

/-- A registry of documents given as text. -/
def ofTexts (texts bindings : List (String × String)) : Except SchemaError Registry :=
  match Library.ofTexts texts with
  | .error e => .error e
  | .ok lib => ofLibrary lib bindings

/-- The registry of the built-in schemas. -/
def builtin : Except SchemaError Registry :=
  ofLibrary Builtin.library (MediaType.all.map fun m => (m.identifier, m.schemaDocument))

/-- The violations of a document that is loaded already. -/
def violations (r : Registry) (mediaType : String) (d : Document) :
    Except SchemaError (List Violation) :=
  (r.schema mediaType).map fun s => s.violations d

/-- Validates a document that is loaded already. -/
def validate (r : Registry) (mediaType : String) (d : Document) : Except ValidationError Unit :=
  match r.violations mediaType d with
  | .error e => .error (.noSchema e)
  | .ok [] => .ok ()
  | .ok vs => .error (.invalid mediaType vs)

/-- Validates what a loader makes of some input. -/
def validateLoaded (r : Registry) (mediaType : String) (load : Loader → Except LoadError Document) :
    Except ValidationError Unit :=
  match r.schema mediaType with
  | .error e => .error (.noSchema e)
  | .ok _ =>
    match load r.loader with
    | .error e => .error (.unloadable e)
    | .ok d => r.validate mediaType d

def validateBytes (r : Registry) (mediaType : String) (bytes : List UInt8) :
    Except ValidationError Unit :=
  r.validateLoaded mediaType fun l => l.load bytes

/-- Validates what a stream delivers. -/
def validateStream (r : Registry) (mediaType : String) (arrivals : List Arrival) :
    Except ValidationError Unit :=
  r.validateLoaded mediaType fun l => l.loadStream arrivals

end Registry

end ManifestCheck
