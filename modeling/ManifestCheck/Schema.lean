import ManifestCheck.Schema.Checks

/-!
# Schemas

A schema is a tree: checks on a value itself, and schemas for the values inside it, whether found
under a declared key, under any other key, or in a list.
-/

namespace ManifestCheck

inductive Schema where
  | node (checks : Checks) (properties : List (String × Schema)) (additional : Option Schema)
      (items : Option Schema)

namespace Schema

/-- The schema that asks nothing. -/
def any : Schema := node {} [] none none

def checks : Schema → Checks
  | node checks _ _ _ => checks

/-- The schemas for declared keys, in the order of declaration. -/
def properties : Schema → List (String × Schema)
  | node _ properties _ _ => properties

/-- The schema for values under other keys. -/
def additional : Schema → Option Schema
  | node _ _ additional _ => additional

/-- The schema for the elements of a list. -/
def items : Schema → Option Schema
  | node _ _ _ items => items

/-- The schema for a declared key. -/
def property? (name : String) (s : Schema) : Option Schema := s.properties.lookup name

/-- Whether a key is declared. -/
def declares (name : String) (s : Schema) : Bool := (s.property? name).isSome

def withChecks (change : Checks → Checks) : Schema → Schema
  | node checks properties additional items => node (change checks) properties additional items

def withProperties (properties : List (String × Schema)) : Schema → Schema
  | node checks _ additional items => node checks properties additional items

def withAdditional (additional : Option Schema) : Schema → Schema
  | node checks properties _ items => node checks properties additional items

def withItems (items : Option Schema) : Schema → Schema
  | node checks properties additional _ => node checks properties additional items

mutual

/-- Equality by value; the order of declared keys counts. -/
def equal : Schema → Schema → Bool
  | node c ps a i, node d qs b j =>
    c.equal d && equalProperties ps qs && equalOption a b && equalOption i j

def equalProperties : List (String × Schema) → List (String × Schema) → Bool
  | [], [] => true
  | (n, s) :: ps, (m, t) :: qs => n == m && s.equal t && equalProperties ps qs
  | _, _ => false

def equalOption : Option Schema → Option Schema → Bool
  | none, none => true
  | some s, some t => s.equal t
  | _, _ => false

end

end Schema

end ManifestCheck
