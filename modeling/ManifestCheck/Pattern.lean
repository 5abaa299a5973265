import ManifestCheck.Pattern.Matching
import ManifestCheck.Pattern.Meaning
import ManifestCheck.Pattern.Reading
import ManifestCheck.Pattern.Size

/-!
# Patterns

A pattern is compiled from its source inside a group between the anchors of the text, so that it
must match a value as a whole. The source is put there as it stands: a source that closes that group
and opens another one is a pattern too, and is anchored on one side only in each of its branches.
-/

namespace ManifestCheck

/-- A compiled pattern. -/
structure Pattern where
  source : String
  expr : Pattern.Expr

namespace Pattern

/-- Two patterns are the same if their sources are. -/
instance : BEq Pattern := ⟨fun p q => p.source == q.source⟩

/-- The text that is read for a source. -/
def anchored (source : List Char) : List Char := "^(?:".toList ++ source ++ ")$".toList

/-- The expression that a text stands for. -/
def parse (text : List Char) : Except PatternError Expr := do
  let phrase ← Phrase.read text
  let (expr, _) ← phrase.meaning {}
  return expr

def compile (source : String) : Except PatternError Pattern :=
  match parse (anchored source.toList) with
  | .error e => .error e
  | .ok expr => if expr.size ≤ maxSize then .ok ⟨source, expr⟩ else .error .tooLarge

/-- Whether a value matches. -/
def isMatch (p : Pattern) (value : String) : Bool := p.expr.occursIn value.toList

end Pattern

end ManifestCheck
