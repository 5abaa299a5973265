import ManifestCheck.Document.Reader
import ManifestCheck.Text.Blank
import ManifestCheck.Text.Count
import ManifestCheck.Text.Escaped

/-!
# Loading documents

A loader reads a document and holds it to a limit on nesting. The limit is checked on the document
that was read, so a syntax error anywhere wins over it, and values that a repeated key has replaced
do not count. A document too deep for the reader itself is reported as too deep for the loader; that
refusal is known by its wording.
-/

namespace ManifestCheck

/-- Why a limit on nesting cannot be used. -/
inductive LimitError where
  /-- The variable holds no count. -/
  | badVariable (value : String) (cause : CountError)
  /-- The count is outside the permitted range. -/
  | outOfRange (depth : Nat)
  deriving DecidableEq, Repr

/-- The environment variable that sets the limit. -/
def depthVariable : String := "IMGIDX_MAX_DEPTH"

namespace LimitError

def message : LimitError → String
  | badVariable value cause =>
    "invalid value " ++ Escaped.render value ++ " for " ++ depthVariable ++ ": " ++ cause.message
  | outOfRange depth =>
    "invalid setting max_depth: must be between 1 and " ++ toString maxOpenContainers ++ ", got " ++
      toString depth

end LimitError

/-- How deep a document may be nested. -/
structure Loader where
  maxDepth : Nat := 64
  deriving DecidableEq, Repr

/-- Why no document was loaded. -/
inductive LoadError where
  | syntaxError (error : SyntaxError)
  | tooDeep (limit : Nat)
  | unreadable (cause : String)
  deriving DecidableEq, Repr

namespace LoadError

def message : LoadError → String
  | syntaxError e =>
    "invalid document: " ++ e.category.describe ++ " at " ++ e.place ++ ": " ++ e.reason.message
  | tooDeep limit => "document nesting exceeds the maximum depth of " ++ toString limit
  | unreadable cause => "io error: " ++ cause

end LoadError

/-- One outcome of asking a stream for more bytes. -/
inductive Arrival where
  | bytes (chunk : List UInt8)
  | interrupted
  | failed (cause : String)

/-- Everything a stream delivers: an interruption is passed over, a failure ends it, and so does an
arrival without bytes. -/
def drain : List Arrival → Except String (List UInt8)
  | [] => .ok []
  | .bytes [] :: _ => .ok []
  | .bytes chunk :: rest => (drain rest).map fun more => chunk ++ more
  | .interrupted :: rest => drain rest
  | .failed cause :: _ => .error cause

namespace Loader

/-- A loader whose limit the reader can reach and that lets some container in. -/
def withDepth (depth : Nat) : Except LimitError Loader :=
  if depth = 0 || maxOpenContainers < depth then .error (.outOfRange depth)
  else .ok { maxDepth := depth }

/-- A loader with the limit that a variable sets, or the usual one. Blanks around the count do not
matter. -/
def ofVariables (lookup : String → Option String) : Except LimitError Loader :=
  match lookup depthVariable with
  | none => .ok {}
  | some raw =>
    match readCount (Text.trimChars raw.toList) with
    | .error cause => .error (.badVariable raw cause)
    | .ok depth => withDepth depth

mutual

/-- The document made of a value that was read. Depths count from one at the root, and a container
below the limit is refused. -/
def convert (l : Loader) (depth : Nat) : Document → Except LoadError Document
  | .array items =>
    if l.maxDepth < depth then .error (.tooDeep l.maxDepth)
    else (convertItems l (depth + 1) items).map .array
  | .object entries =>
    if l.maxDepth < depth then .error (.tooDeep l.maxDepth)
    else (convertEntries l (depth + 1) entries).map .object
  | d => .ok d

/-- The elements of a list, the first that is refused ending the conversion. -/
def convertItems (l : Loader) (depth : Nat) : List Document → Except LoadError (List Document)
  | [] => .ok []
  | d :: ds =>
    (convert l depth d).bind fun made => (convertItems l depth ds).map fun more => made :: more

/-- The entries of an object, whose keys are distinct already. -/
def convertEntries (l : Loader) (depth : Nat) :
    List (String × Document) → Except LoadError (List (String × Document))
  | [] => .ok []
  | (key, d) :: rest =>
    (convert l depth d).bind fun made =>
      (convertEntries l depth rest).map fun more => (key, made) :: more

end

/-- The document within the limit. -/
def withinLimit (l : Loader) (d : Document) : Except LoadError Document := l.convert 1 d

/-- A syntax error as this loader reports it. -/
def report (l : Loader) (e : SyntaxError) : LoadError :=
  if e.isRefusal then .tooDeep l.maxDepth else .syntaxError e

def load (l : Loader) (bytes : List UInt8) : Except LoadError Document :=
  match Document.read bytes with
  | .error e => .error (l.report e)
  | .ok d => l.withinLimit d

/-- Loads what a stream delivers, once it has ended. -/
def loadStream (l : Loader) (arrivals : List Arrival) : Except LoadError Document :=
  match drain arrivals with
  | .error cause => .error (.unreadable cause)
  | .ok bytes => l.load bytes

end Loader

end ManifestCheck
