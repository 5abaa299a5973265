import ManifestCheck.Document
import ManifestCheck.Pattern
import ManifestCheck.Schema.TypeSet
import ManifestCheck.Text.Escaped

/-!
# Checks on one value

What a schema asks of a value without looking at the values inside it, and the faults that a value
can have. A check on one kind of value says nothing about values of another kind.
-/

namespace ManifestCheck

/-- The class of a fault. -/
inductive FaultKind where
  | typeMismatch
  | missingProperty
  | patternMismatch
  | enumMismatch
  | rangeViolation
  deriving DecidableEq, Repr

namespace FaultKind

def all : List FaultKind :=
  [typeMismatch, missingProperty, patternMismatch, enumMismatch, rangeViolation]

/-- The name in a line of text. -/
def name : FaultKind → String
  | typeMismatch => "type mismatch"
  | missingProperty => "missing required property"
  | patternMismatch => "pattern mismatch"
  | enumMismatch => "enum mismatch"
  | rangeViolation => "range violation"

/-- The name in a written document. -/
def identifier : FaultKind → String
  | typeMismatch => "type_mismatch"
  | missingProperty => "missing_required_property"
  | patternMismatch => "pattern_mismatch"
  | enumMismatch => "enum_mismatch"
  | rangeViolation => "range_violation"

end FaultKind

/-- What a bound on a size counts. -/
inductive CountUnit where
  | item
  | character
  deriving DecidableEq, Repr

def CountUnit.name : CountUnit → String
  | item => "item"
  | character => "character"

/-- What is wrong with a value. -/
inductive Fault where
  | wrongType (expected : TypeSet) (actual : Kind)
  | missing (property : String)
  | tooFew (unit : CountUnit) (count least : Nat)
  | tooMany (unit : CountUnit) (count most : Nat)
  | tooSmall (value minimum : Number)
  | tooLarge (value maximum : Number)
  | unmatched (value pattern : String)
  | unlisted (value : Document) (options : List Document)

namespace Fault

def kind : Fault → FaultKind
  | wrongType _ _ => .typeMismatch
  | missing _ => .missingProperty
  | tooFew _ _ _ | tooMany _ _ _ | tooSmall _ _ | tooLarge _ _ => .rangeViolation
  | unmatched _ _ => .patternMismatch
  | unlisted _ _ => .enumMismatch

def message : Fault → String
  | wrongType expected actual => "expected " ++ expected.render ++ ", got " ++ actual.name
  | missing property => "missing required property " ++ Escaped.render property
  | tooFew unit count least =>
    "has " ++ toString count ++ " " ++ unit.name ++ "(s), fewer than the minimum of " ++
      toString least
  | tooMany unit count most =>
    "has " ++ toString count ++ " " ++ unit.name ++ "(s), more than the maximum of " ++
      toString most
  | tooSmall value minimum =>
    value.literal ++ " is less than the minimum of " ++ minimum.literal
  | tooLarge value maximum =>
    value.literal ++ " is greater than the maximum of " ++ maximum.literal
  | unmatched value pattern =>
    Escaped.render value ++ " does not match pattern " ++ Escaped.render pattern
  | unlisted value options =>
    value.render ++ " is not one of [" ++ ", ".intercalate (options.map Document.render) ++ "]"

end Fault

/-- What a schema asks of one value; what is absent asks nothing. -/
structure Checks where
  types : Option TypeSet := none
  required : List String := []
  pattern : Option Pattern := none
  enumeration : Option (List Document) := none
  minimum : Option Number := none
  maximum : Option Number := none
  minLength : Option Nat := none
  maxLength : Option Nat := none
  minItems : Option Nat := none
  maxItems : Option Nat := none

/-- Two absent values are the same, and so are two present ones that pass a test. -/
def sameOption {α : Type} (same : α → α → Bool) : Option α → Option α → Bool
  | none, none => true
  | some a, some b => same a b
  | _, _ => false

namespace Checks

/-- Equality by value: numbers and listed documents compare by value, patterns by source. -/
def equal (a b : Checks) : Bool :=
  a.types == b.types && a.required == b.required && sameOption (· == ·) a.pattern b.pattern &&
    sameOption Document.equalItems a.enumeration b.enumeration &&
    sameOption Number.equal a.minimum b.minimum && sameOption Number.equal a.maximum b.maximum &&
    a.minLength == b.minLength && a.maxLength == b.maxLength &&
    a.minItems == b.minItems && a.maxItems == b.maxItems

/-- The fault of a value whose kind is not asked for. -/
def typeFault? (c : Checks) (d : Document) : Option Fault :=
  match c.types with
  | none => none
  | some types => if types.accepts d.kind then none else some (.wrongType types d.kind)

/-- A size below its least or above its greatest value. -/
def countFaults (unit : CountUnit) (count : Nat) (least most : Option Nat) : List Fault :=
  (match least with
    | some n => if count < n then [.tooFew unit count n] else []
    | none => []) ++
  (match most with
    | some n => if n < count then [.tooMany unit count n] else []
    | none => [])

/-- The required properties that an object lacks, in the order in which they are required. -/
def missingFaults (c : Checks) (entries : List (String × Document)) : List Fault :=
  (c.required.filter fun name => !Entries.contains name entries).map .missing

def stringFaults (c : Checks) (value : String) : List Fault :=
  countFaults .character value.length c.minLength c.maxLength ++
  (match c.pattern with
    | some p => if p.isMatch value then [] else [.unmatched value p.source]
    | none => [])

def numberFaults (c : Checks) (value : Number) : List Fault :=
  (match c.minimum with
    | some m => if value.atLeast m then [] else [.tooSmall value m]
    | none => []) ++
  (match c.maximum with
    | some m => if value.atMost m then [] else [.tooLarge value m]
    | none => [])

/-- The faults that come before those of the values inside. -/
def ownFaults (c : Checks) : Document → List Fault
  | .object entries => c.missingFaults entries
  | .array items => countFaults .item items.length c.minItems c.maxItems
  | .string value => c.stringFaults value
  | .number value => c.numberFaults value
  | .null | .bool _ => []

/-- The fault of a value that equals none of those listed; it comes last. -/
def listFaults (c : Checks) (d : Document) : List Fault :=
  match c.enumeration with
  | some options => if options.any fun o => o.equal d then [] else [.unlisted d options]
  | none => []

end Checks

end ManifestCheck
