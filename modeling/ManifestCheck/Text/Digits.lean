/-!
# Digits

Reading whole numbers, signed decimal fractions and character codes from their text. A row of digits
may start with zeros and has no upper bound; the callers decide which range they take.
-/

namespace ManifestCheck.Digits

/-- The value of one decimal digit. -/
def digitValue (c : Char) : Nat := c.toNat - '0'.toNat

/-- The value of a row of digits, most significant digit first. -/
def value (cs : List Char) : Nat := cs.foldl (fun n c => 10 * n + digitValue c) 0

/-- The whole number that a row of ASCII digits denotes. Nothing is read from an empty row or from
a row with any other character. -/
def read? (cs : List Char) : Option Nat :=
  if cs.isEmpty || !cs.all Char.isDigit then none else some (value cs)

/-- A sign in front, if there is one: whether it is a minus, and what follows it. -/
def splitSign : List Char → Bool × List Char
  | '-' :: cs => (true, cs)
  | '+' :: cs => (false, cs)
  | cs => (false, cs)

/-- A whole number with an optional sign. -/
def readSigned? (cs : List Char) : Option Int :=
  let (negative, row) := splitSign cs
  (read? row).map fun n => if negative then -(n : Int) else n

/-- A decimal fraction: a sign, and a row of digits scaled by a power of ten. -/
structure Fraction where
  negative : Bool
  digits : Nat
  exponent : Int
  deriving DecidableEq, Repr

/-- The power of ten written behind the digits: nothing, or `e` or `E` and a signed row. -/
def readExponent? : List Char → Option Int
  | [] => some 0
  | c :: cs => if c = 'e' || c = 'E' then readSigned? cs else none

/-- A decimal fraction: optional sign, digits with at most one point among or around them and at
least one digit in all, optional power of ten. -/
def readFraction? (cs : List Char) : Option Fraction :=
  let (negative, body) := splitSign cs
  let whole := body.takeWhile Char.isDigit
  let behind := body.dropWhile Char.isDigit
  let (fraction, tail) := match behind with
    | '.' :: more => (more.takeWhile Char.isDigit, more.dropWhile Char.isDigit)
    | more => ([], more)
  if whole.isEmpty && fraction.isEmpty then none
  else (readExponent? tail).map fun e =>
    { negative, digits := value (whole ++ fraction), exponent := e - fraction.length }

/-! Hexadecimal digits and the characters that they number. -/

/-- The value of a hexadecimal digit; none of another character. -/
def hexValue? (c : Char) : Option Nat :=
  if c.isDigit then some (c.toNat - 48)
  else if 'a' ≤ c ∧ c ≤ 'f' then some (c.toNat - 87)
  else if 'A' ≤ c ∧ c ≤ 'F' then some (c.toNat - 55)
  else none

/-- The number written by hexadecimal digits; other characters are passed over. -/
def hexNumber (cs : List Char) : Nat :=
  (cs.filterMap hexValue?).foldl (fun n d => 16 * n + d) 0

/-- The character with a code, if there is one. -/
def charOfCode? (n : Nat) : Option Char := if n.isValidChar then some (Char.ofNat n) else none

end ManifestCheck.Digits
