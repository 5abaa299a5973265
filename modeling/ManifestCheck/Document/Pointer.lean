import ManifestCheck.Document
import ManifestCheck.Text.Digits
import ManifestCheck.Text.Fields

/-!
# Pointers into documents

A pointer is empty or a slash in front of each step. In a step `~1` stands for a slash and `~0` for
a tilde; a step into a list is the number of an element without leading zeros.
-/

namespace ManifestCheck

namespace Pointer

/-- A step as it is written. -/
def escape (step : List Char) : List Char :=
  step.flatMap fun c => if c = '~' then ['~', '0'] else if c = '/' then ['~', '1'] else [c]

/-- The step that is meant. -/
def unescape : List Char → List Char
  | '~' :: '1' :: rest => '/' :: unescape rest
  | '~' :: '0' :: rest => '~' :: unescape rest
  | c :: rest => c :: unescape rest
  | [] => []

/-- The number of an element. -/
def index? (step : List Char) : Option Nat :=
  if step.head? = some '0' && step.length ≠ 1 then none else Digits.read? step

/-- The steps of a pointer; none if it starts with anything but a slash. -/
def steps? (pointer : List Char) : Option (List (List Char)) :=
  match pointer with
  | [] => some []
  | '/' :: rest => some ((Text.fields '/' rest).map unescape)
  | _ => none

end Pointer

namespace Document

/-- The value one step inside. -/
def step? (step : List Char) : Document → Option Document
  | object entries => entries.lookup (String.ofList step)
  | array items => (Pointer.index? step).bind fun i => items[i]?
  | _ => none

/-- The value that several steps lead to. -/
def follow? : List (List Char) → Document → Option Document
  | [], d => some d
  | s :: rest, d => (d.step? s).bind (follow? rest)

/-- The value that a pointer leads to. -/
def pointer? (pointer : String) (d : Document) : Option Document :=
  (Pointer.steps? pointer.toList).bind fun steps => d.follow? steps

end Document

end ManifestCheck
