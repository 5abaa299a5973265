import ManifestCheck.Text.Digits

/-!
# Counts within 64 bits

Reading a count from text: an optional plus sign and decimal digits, with a value below `Nat.pow 2 64`.
Of two faults the one further left is reported.
-/

namespace ManifestCheck

/-- Why a text is not a count. -/
inductive CountError where
  | empty
  | invalidDigit
  | tooLarge
  deriving DecidableEq, Repr

namespace CountError

def message : CountError → String
  | empty => "cannot parse integer from empty string"
  | invalidDigit => "invalid digit found in string"
  | tooLarge => "number too large to fit in target type"

end CountError

/-- The first value that a count cannot take. -/
def countBound : Nat := Nat.pow 2 64

/-- Digits that continue a count already begun. -/
def readCountFrom (n : Nat) : List Char → Except CountError Nat
  | [] => .ok n
  | c :: cs =>
    if !c.isDigit then .error .invalidDigit
    else
      let m := 10 * n + Digits.digitValue c
      if m < countBound then readCountFrom m cs else .error .tooLarge

/-- A count. A sign alone is no digit. -/
def readCount : List Char → Except CountError Nat
  | [] => .error .empty
  | ['+'] => .error .invalidDigit
  | '+' :: cs => readCountFrom 0 cs
  | cs => readCountFrom 0 cs

end ManifestCheck
