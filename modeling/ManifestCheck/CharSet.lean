import ManifestCheck.Text.Digits
import ManifestCheck.Text.Fields

/-!
# Sets of characters

A set of characters is a list of inclusive ranges of code points, ascending and apart from each
other. Union sorts and joins the ranges, complement lists the gaps between them, and every other
operation is made of these two. Surrogates may stand inside a range; no character lies there.
-/

namespace ManifestCheck

/-- Ranges of code points, each given by its first and its last. -/
structure CharSet where
  ranges : List (Nat × Nat)
  deriving DecidableEq, Repr

namespace CharSet

/-- The last code point. -/
def lastCode : Nat := 0x10FFFF

/-- Whether a code point lies in one of the ranges. -/
def hasCode (s : CharSet) (n : Nat) : Bool := s.ranges.any fun r => r.1 ≤ n && n ≤ r.2

def contains (s : CharSet) (c : Char) : Bool := s.hasCode c.toNat

def empty : CharSet := ⟨[]⟩

/-- Every character. -/
def all : CharSet := ⟨[(0, lastCode)]⟩

def single (c : Char) : CharSet := ⟨[(c.toNat, c.toNat)]⟩

/-- The characters from `first` to `last`; none if they are out of order. -/
def range (first last : Char) : CharSet :=
  if first.toNat ≤ last.toNat then ⟨[(first.toNat, last.toNat)]⟩ else empty

/-- Joins ranges that overlap or touch, in a list that ascends by first code point. -/
def join : List (Nat × Nat) → List (Nat × Nat)
  | [] => []
  | r :: rest =>
    match join rest with
    | [] => [r]
    | q :: others => if q.1 ≤ r.2 + 1 then (r.1, max r.2 q.2) :: others else r :: q :: others

/-- Puts a range in front of the first one that does not start before it. -/
def insertRange (r : Nat × Nat) : List (Nat × Nat) → List (Nat × Nat)
  | [] => [r]
  | q :: rest => if r.1 ≤ q.1 then r :: q :: rest else q :: insertRange r rest

/-- The set of ranges given in any order. -/
def ofRanges (ranges : List (Nat × Nat)) : CharSet := ⟨join (ranges.foldr insertRange [])⟩

def union (a b : CharSet) : CharSet := ofRanges (a.ranges ++ b.ranges)

/-- The code points from `start` on that no range covers. -/
def gaps (start : Nat) : List (Nat × Nat) → List (Nat × Nat)
  | [] => if start ≤ lastCode then [(start, lastCode)] else []
  | r :: rest =>
    if start < r.1 then (start, r.1 - 1) :: gaps (r.2 + 1) rest
    else gaps (max start (r.2 + 1)) rest

def complement (s : CharSet) : CharSet := ⟨gaps 0 s.ranges⟩

def inter (a b : CharSet) : CharSet := complement (union (complement a) (complement b))

def difference (a b : CharSet) : CharSet := inter a (complement b)

def symmetricDifference (a b : CharSet) : CharSet := difference (union a b) (inter a b)

/-- Whether only ASCII characters are in the set. -/
def isAscii (s : CharSet) : Bool := s.ranges.all fun r => r.2 < 128

/-! Sets are tabulated as hexadecimal ranges, `41-5A C0`, in ascending order. -/

/-- The set that the lines of a table describe. -/
def ofTable (lines : List String) : CharSet :=
  ⟨(lines.flatMap fun line => Text.fields ' ' line.toList).filterMap fun field =>
    match Text.fields '-' field with
    | [one] => if one.isEmpty then none else some (Digits.hexNumber one, Digits.hexNumber one)
    | [first, last] => some (Digits.hexNumber first, Digits.hexNumber last)
    | _ => none⟩

end CharSet

end ManifestCheck
