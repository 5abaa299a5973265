import ManifestCheck.Text.Digits

/-!
# Double precision values

Every finite double is a whole number of the least positive one, `2 ^ -1074`, so a magnitude is kept
as that count of units. Rounding and comparison are then arithmetic on natural numbers, and no
machine floating point takes part. A decimal fraction goes to the nearest double, a tie to the even
neighbour, and a magnitude of `2 ^ 1024` or more after rounding to infinity.
-/

namespace ManifestCheck

/-- A double: not a number, an infinity, or a signed count of units of `2 ^ -1074`. -/
inductive Binary64 where
  | nan
  | infinity (negative : Bool)
  | finite (negative : Bool) (units : Nat)
  deriving DecidableEq, Repr

namespace Binary64

/-- The whole number nearest to a quotient, a tie going to the even one. -/
def roundHalfEven (numerator denominator : Nat) : Nat :=
  let quotient := numerator / denominator
  let twice := 2 * (numerator % denominator)
  if twice < denominator then quotient
  else if denominator < twice then quotient + 1
  else if quotient % 2 = 0 then quotient
  else quotient + 1

/-- The spacing of doubles around a quotient, as a power of two times the unit: one unit up to
`2 ^ 53` units, and beyond that as much as leaves 53 significant bits. -/
def spacing (numerator denominator : Nat) : Nat :=
  Nat.log2 (numerator / denominator) - 52

/-- The units of the double nearest to a quotient of units. -/
def nearestUnits (numerator denominator : Nat) : Nat :=
  let k := spacing numerator denominator
  roundHalfEven numerator (denominator * Nat.pow 2 k) * Nat.pow 2 k

/-- The count of units that is one past every finite magnitude. -/
def overflow : Nat := Nat.pow 2 2098

/-- The double nearest to `numerator / denominator` with the given sign. -/
def ofQuotient (negative : Bool) (numerator denominator : Nat) : Binary64 :=
  let units := nearestUnits (numerator * Nat.pow 2 1074) denominator
  if overflow ≤ units then infinity negative else finite negative units

/-- The double nearest to a decimal fraction. Powers of ten that can only overflow or vanish are
settled without being computed. -/
def ofFraction (f : Digits.Fraction) : Binary64 :=
  if f.digits = 0 then finite f.negative 0
  else if 400 < f.exponent then infinity f.negative
  else if f.exponent + f.digits.log2 < -400 then finite f.negative 0
  else match f.exponent with
    | .ofNat e => ofQuotient f.negative (f.digits * Nat.pow 10 e) 1
    | .negSucc e => ofQuotient f.negative f.digits (Nat.pow 10 (e + 1))

/-- The position of a double on the number line, in units; an infinity stands just outside the
finite range, and the two zeros together. -/
def position? : Binary64 → Option Int
  | nan => none
  | infinity negative => some (if negative then -(overflow : Int) else overflow)
  | finite negative units => some (if negative then -(units : Int) else units)

/-- Numerical order; there is none with `nan`. -/
def compare? (a b : Binary64) : Option Ordering :=
  match a.position?, b.position? with
  | some x, some y => some (compare x y)
  | _, _ => none

/-- The exponent and mantissa fields of a finite magnitude. -/
def magnitudeBits (units : Nat) : Nat :=
  if units < Nat.pow 2 52 then units
  else
    let k := units.log2 - 52
    (k + 1) * Nat.pow 2 52 + (units / Nat.pow 2 k - Nat.pow 2 52)

/-- The 64 bits of a double in the interchange format; `none` for `nan`, which has many. -/
def bits? : Binary64 → Option Nat
  | nan => none
  | infinity negative => some (signBit negative + 2047 * Nat.pow 2 52)
  | finite negative units => some (signBit negative + magnitudeBits units)
where
  signBit (negative : Bool) : Nat := if negative then Nat.pow 2 63 else 0

/-- A double from text: a decimal fraction, or a signed `inf`, `infinity` or `nan` in any case. -/
def read? (cs : List Char) : Option Binary64 :=
  match Digits.readFraction? cs with
  | some f => some (ofFraction f)
  | none =>
    let (negative, word) := Digits.splitSign cs
    let lower := word.map Char.toLower
    if lower = "inf".toList || lower = "infinity".toList then some (infinity negative)
    else if lower = "nan".toList then some nan
    else none

end Binary64

end ManifestCheck
