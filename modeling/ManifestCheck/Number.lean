import ManifestCheck.Number.Binary64

/-!
# Numbers

A number keeps the literal it was written with. The literal decides its kind, and its value is
used for comparison: two integers within 128 bits compare exactly, every other pair by the doubles
nearest to them.
-/

namespace ManifestCheck

/-- Whether a literal is written without or with a fraction or exponent. -/
inductive NumberKind where
  | integer
  | fractional
  deriving DecidableEq, Repr

namespace NumberKind

def all : List NumberKind := [integer, fractional]

def name : NumberKind → String
  | integer => "integer"
  | fractional => "fractional"

def ofName? (text : String) : Option NumberKind := all.find? fun k => k.name == text

end NumberKind

/-- A number as it was written. -/
structure Number where
  literal : String
  deriving DecidableEq, Repr

namespace Number

/-- The characters that make a literal fractional. -/
def marksFraction (c : Char) : Bool := c = '.' || c = 'e' || c = 'E'

def kind (n : Number) : NumberKind :=
  if n.literal.toList.any marksFraction then .fractional else .integer

def isInteger (n : Number) : Bool := n.kind = .integer

/-- The least and the greatest integer of 128 bits. -/
def int128Min : Int := -(Nat.pow 2 127)
def int128Max : Int := Nat.pow 2 127 - 1

/-- The value of an integer literal, if 128 bits hold it. -/
def toInt128? (n : Number) : Option Int :=
  if n.isInteger then
    (Digits.readSigned? n.literal.toList).filter fun i => int128Min ≤ i ∧ i ≤ int128Max
  else none

/-- The double nearest to the literal. -/
def toBinary64 (n : Number) : Binary64 := (Binary64.read? n.literal.toList).getD .nan

/-- Order by value: exact between integers of 128 bits, else between doubles. -/
def compare? (a b : Number) : Option Ordering :=
  match a.toInt128?, b.toInt128? with
  | some x, some y => some (compare x y)
  | _, _ => a.toBinary64.compare? b.toBinary64

/-- Equality by value, so `2` equals `2.0`. -/
def equal (a b : Number) : Bool := a.compare? b = some .eq

/-- Neither below nor incomparable. -/
def atLeast (a b : Number) : Bool := a.compare? b = some .gt || a.compare? b = some .eq

/-- Neither above nor incomparable. -/
def atMost (a b : Number) : Bool := a.compare? b = some .lt || a.compare? b = some .eq

/-- The value of a literal that is a bare row of digits within 64 bits, as counts in schemas are. -/
def toUInt64? (n : Number) : Option Nat :=
  (Digits.read? n.literal.toList).filter fun k => k < Nat.pow 2 64

end Number

end ManifestCheck
