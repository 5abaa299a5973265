import ManifestCheck.Pattern.Expr

/-!
# The size of patterns

How much memory the automaton of an expression would take, state by state. Patterns above a fixed
size are refused. A set of characters counts by its byte sequences: sequences that begin alike share
their first states.
-/

namespace ManifestCheck.Pattern

/-- The cost of one state, of one way out of a choice, and of one range of bytes. -/
def stateCost : Nat := 32
def choiceCost : Nat := 4
def rangeCost : Nat := 8

/-- The rows of digits of base 64 that make up a range of numbers with so many digits behind the
first: in each row every place has a range of its own. -/
def digitRows : Nat → Nat → Nat → List (List (Nat × Nat))
  | 0, first, last => [[(first, last)]]
  | n + 1, first, last =>
    let unit := Nat.pow 64 (n + 1)
    let low := first / unit
    let high := last / unit
    let within (digit lo hi : Nat) := (digitRows n lo hi).map ((digit, digit) :: ·)
    if low = high then within low (first % unit) (last % unit)
    else
      let from' := if first % unit = 0 then low else low + 1
      let to' := if last % unit = unit - 1 then high + 1 else high
      (if first % unit = 0 then [] else within low (first % unit) (unit - 1)) ++
      (if from' < to' then [(from', to' - 1) :: List.replicate (n + 1) (0, 63)] else []) ++
      (if last % unit = unit - 1 then [] else within high 0 (last % unit))

/-- The first and last code point with so many bytes behind the first, surrogates left out. -/
def encodingBlocks : List (Nat × Nat × Nat) := [
  (0, 0, 0x7F), (1, 0x80, 0x7FF), (2, 0x800, 0xD7FF), (2, 0xE000, 0xFFFF), (3, 0x10000, 0x10FFFF)]

/-- The byte sequences of a range of code points, by the digits that their bytes carry. -/
def byteRows (r : Nat × Nat) : List (List (Nat × Nat)) :=
  encodingBlocks.flatMap fun (n, first, last) =>
    if max first r.1 ≤ min last r.2 then digitRows n (max first r.1) (min last r.2) else []

/-- How many leading places two rows have in common. -/
def commonPlaces : List (Nat × Nat) → List (Nat × Nat) → Nat
  | a :: as, b :: bs => if a = b then commonPlaces as bs + 1 else 0
  | _, _ => 0

/-- How many states the sequences need that are shared as far as they begin like the one before. -/
def sharedStates (previous : List (Nat × Nat)) : List (List (Nat × Nat)) → Nat
  | [] => 0
  | row :: rest => row.length - commonPlaces previous row + sharedStates row rest

def setSize (s : CharSet) : Nat :=
  match s.ranges with
  | [(first, last)] =>
    if first = last then stateCost * (Char.ofNat first).utf8Size
    else if last < 128 then stateCost
    else rowsSize (byteRows (first, last))
  | ranges =>
    if s.isAscii then 2 * stateCost + rangeCost * ranges.length
    else rowsSize (ranges.flatMap byteRows)
where
  rowsSize (rows : List (List (Nat × Nat))) : Nat :=
    stateCost * (sharedStates [] rows + 2) + choiceCost * rows.length

/-- Whether an expression can match without a character. -/
def Expr.nullable : Expr → Bool
  | empty => true
  | chars _ => false
  | assertion _ => true
  | seq e f => e.nullable && f.nullable
  | alt e f => e.nullable || f.nullable
  | group e => e.nullable
  | rep e least _ => least = 0 || e.nullable

/-- Whether an expression never matches a character. -/
def Expr.consumesNothing : Expr → Bool
  | empty => true
  | chars _ => false
  | assertion _ => true
  | seq e f => e.consumesNothing && f.consumesNothing
  | alt e f => e.consumesNothing && f.consumesNothing
  | group e => e.consumesNothing
  | rep e _ most => most = some 0 || e.consumesNothing

/-- The size of a repetition, given that of its body. -/
def repetitionSize (body : Nat) (nullable : Bool) (least : Nat) (most : Option Nat) : Nat :=
  let choice := stateCost + 2 * choiceCost
  match most with
  | some most =>
    if most = 0 then stateCost
    else if least = most then least * body
    else least * body + (most - least) * (body + choice) + 2 * stateCost
  | none =>
    if least = 0 then body + choice + (if nullable then choice + stateCost else 0)
    else least * body + choice

/-- The size of the automaton of an expression. Repeating what never matches a character is the same
as matching it once at most. -/
def Expr.size : Expr → Nat
  | empty => stateCost
  | chars s => setSize s
  | assertion _ => stateCost
  | seq e f => e.size + f.size
  | alt e f => e.size + f.size + stateCost + choiceCost
  | group e => e.size + 2 * stateCost
  | rep e least most =>
    if e.consumesNothing then
      repetitionSize e.size e.nullable (min least 1) (some (min (most.getD 1) 1))
    else repetitionSize e.size e.nullable least most

/-- The size that no pattern may exceed. -/
def maxSize : Nat := 10485760

end ManifestCheck.Pattern
