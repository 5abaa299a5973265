import ManifestCheck.CharSet
import ManifestCheck.Unicode.Property

/-!
# Pattern expressions

What a pattern says, after its flags have been applied: sets of characters, assertions about the
place between two characters, and their combinations. `Expr.Spans` is the meaning: the expression
leads from one place of a text to another. Places are counted in characters.
-/

namespace ManifestCheck.Pattern

/-- Which characters form words: those of every script, or ASCII only. -/
inductive WordKind where
  | unicode
  | ascii
  deriving DecidableEq, Repr

/-- A condition on the place between two characters. -/
inductive Assertion where
  | textStart
  | textEnd
  | lineStart
  | lineEnd
  | lineStartCrlf
  | lineEndCrlf
  | wordBoundary (kind : WordKind)
  | notWordBoundary (kind : WordKind)
  | wordStart (kind : WordKind)
  | wordEnd (kind : WordKind)
  | noWordBefore (kind : WordKind)
  | noWordAfter (kind : WordKind)
  deriving DecidableEq, Repr

/-- The word characters of ASCII. -/
def asciiWord : CharSet := ⟨[(48, 57), (65, 90), (95, 95), (97, 122)]⟩

def WordKind.set : WordKind → CharSet
  | unicode => Unicode.wordCharacters
  | ascii => asciiWord

/-- Whether there is a word character. -/
def WordKind.isWord (kind : WordKind) (c : Option Char) : Bool := c.any kind.set.contains

/-- Whether an assertion holds between the given neighbours; there is none at an end of the text. -/
def Assertion.holds (a : Assertion) (before after : Option Char) : Bool :=
  match a with
  | textStart => before.isNone
  | textEnd => after.isNone
  | lineStart => before.isNone || before = some '\n'
  | lineEnd => after.isNone || after = some '\n'
  | lineStartCrlf =>
    before.isNone || before = some '\n' || (before = some '\r' && after ≠ some '\n')
  | lineEndCrlf => after.isNone || after = some '\r' || (after = some '\n' && before ≠ some '\r')
  | wordBoundary k => k.isWord before != k.isWord after
  | notWordBoundary k => k.isWord before == k.isWord after
  | wordStart k => !k.isWord before && k.isWord after
  | wordEnd k => k.isWord before && !k.isWord after
  | noWordBefore k => !k.isWord before
  | noWordAfter k => !k.isWord after

/-- A pattern with its flags applied. -/
inductive Expr where
  | empty
  | chars (set : CharSet)
  | assertion (a : Assertion)
  | seq (first second : Expr)
  | alt (first second : Expr)
  | group (body : Expr)
  | rep (body : Expr) (least : Nat) (most : Option Nat)
  deriving DecidableEq, Repr

/-- The character in front of a place. -/
def before (text : List Char) (i : Nat) : Option Char := if i = 0 then none else text[i - 1]?

/-- So many steps of a relation, one after the other. -/
def Chain (step : Nat → Nat → Prop) : Nat → Nat → Nat → Prop
  | 0, i, j => i = j
  | n + 1, i, j => ∃ k, step i k ∧ Chain step n k j

/-- The expression leads from place `i` of the text to place `j`. -/
def Expr.Spans (text : List Char) : Expr → Nat → Nat → Prop
  | empty, i, j => i = j
  | chars set, i, j => j = i + 1 ∧ ∃ c, text[i]? = some c ∧ set.contains c = true
  | assertion a, i, j => i = j ∧ a.holds (before text i) text[i]? = true
  | seq e f, i, j => ∃ k, Spans text e i k ∧ Spans text f k j
  | alt e f, i, j => Spans text e i j ∨ Spans text f i j
  | group e, i, j => Spans text e i j
  | rep e least most, i, j =>
    ∃ n, least ≤ n ∧ (∀ m ∈ most, n ≤ m) ∧ Chain (Spans text e) n i j

end ManifestCheck.Pattern
