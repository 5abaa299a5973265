/-!
# Kinds of document nodes

A schema names the shape of a value by its kind. Numbers have two kinds, told apart by how they
are written: a literal without fraction and exponent is an integer, every other one a number.
The order of the constructors is the order in which a set of kinds is listed.
-/

namespace ManifestCheck

/-- What a schema's `type` keyword can ask of a value. -/
inductive Kind where
  | null
  | boolean
  | integer
  | number
  | string
  | array
  | object
  deriving DecidableEq, Repr

namespace Kind

/-- Every kind, in listing order. -/
def all : List Kind := [null, boolean, integer, number, string, array, object]

theorem mem_all (k : Kind) : k ∈ all := by cases k <;> decide

/-- The spelling of a kind in schemas and in messages. -/
def name : Kind → String
  | null => "null"
  | boolean => "boolean"
  | integer => "integer"
  | number => "number"
  | string => "string"
  | array => "array"
  | object => "object"

/-- The place of a kind in the listing order. -/
def rank : Kind → Nat
  | null => 0
  | boolean => 1
  | integer => 2
  | number => 3
  | string => 4
  | array => 5
  | object => 6

/-- The kind of a given spelling. -/
def ofName? (text : String) : Option Kind := all.find? fun k => k.name == text

theorem ofName?_name (k : Kind) : ofName? k.name = some k := by cases k <;> rfl

theorem name_of_ofName? {text : String} {k : Kind} (h : ofName? text = some k) : k.name = text := by
  simpa using List.find?_some h

end Kind

end ManifestCheck
