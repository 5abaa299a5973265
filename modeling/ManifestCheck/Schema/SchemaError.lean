import ManifestCheck.Document.Pointer
import ManifestCheck.Document.SyntaxError
import ManifestCheck.Pattern.Phrase
import ManifestCheck.Text.Escaped

/-!
# Schema errors

A place among schema documents is the name of a document and a pointer into it, written with a
number sign between them. A reference is written the same way; without a name it stays in the
document where it stands. A schema error says what is wrong and at which place.
-/

namespace ManifestCheck

/-- A place among schema documents. -/
structure Location where
  document : String
  pointer : String := ""
  deriving DecidableEq, Repr

namespace Location

def render (l : Location) : String := l.document ++ "#" ++ l.pointer

/-- The place one step further inside. -/
def child (l : Location) (step : String) : Location :=
  { l with
    pointer := l.pointer ++ "/" ++ String.ofList (Pointer.escape step.toList) }

/-- The place that a reference at this place leads to. The first number sign divides it. -/
def target (l : Location) (reference : String) : Location :=
  let document := String.ofList (reference.toList.takeWhile (· ≠ '#'))
  let pointer := String.ofList ((reference.toList.dropWhile (· ≠ '#')).drop 1)
  { document := if document = "" then l.document else document, pointer }

end Location

/-- What a keyword should have held. -/
inductive Expectation where
  | schema (found : String)
  | typeNames
  | onlyTypeNames
  | strings
  | anObject
  | openObject
  | oneSchema
  | aString
  | members
  | aNumber
  | aCount
  deriving DecidableEq, Repr

def Expectation.message : Expectation → String
  | schema found => "expected an object, got " ++ found
  | typeNames => "expected a type name or a non-empty array of them"
  | onlyTypeNames => "expected type names"
  | strings => "expected an array of strings"
  | anObject => "expected an object"
  | openObject => "closed objects are not supported"
  | oneSchema => "tuple-form items are not supported"
  | aString => "expected a string"
  | members => "expected a non-empty array"
  | aNumber => "expected a number"
  | aCount => "expected a non-negative integer"

/-- Why there is no usable schema. -/
inductive SchemaError where
  | invalidJson (document : String) (cause : SyntaxError)
  | unknownDocument (name : String)
  | invalidKeyword (location : Location) (keyword : String) (expectation : Expectation)
  | unknownType (location : Location) (name : String)
  | invalidPattern (location : Location) (pattern : String) (cause : Pattern.PatternError)
  | unresolvedReference (location : Location) (reference : String)
  | cyclicReference (location : Location) (reference : String)
  | unregistered (mediaType : String)

def SchemaError.message : SchemaError → String
  | invalidJson document cause =>
    "schema document " ++ Escaped.render document ++ " is not valid JSON: " ++ cause.placed
  | unknownDocument name => "unknown schema document " ++ Escaped.render name
  | invalidKeyword location keyword expectation =>
    location.render ++ ": invalid `" ++ keyword ++ "`: " ++ expectation.message
  | unknownType location name =>
    location.render ++ ": unknown type " ++ Escaped.render name
  | invalidPattern location pattern _ =>
    location.render ++ ": invalid pattern " ++ Escaped.render pattern
  | unresolvedReference location reference =>
    location.render ++ ": unresolved reference " ++ Escaped.render reference
  | cyclicReference location reference =>
    location.render ++ ": cyclic reference " ++ Escaped.render reference
  | unregistered mediaType =>
    "no schema registered for media type " ++ Escaped.render mediaType

end ManifestCheck
