/-!
# Paths

The way from the root of a document to a node, one step for each container on the way. In messages
the steps are joined by points, and the root has the empty text.
-/

namespace ManifestCheck

/-- A step into a container. -/
inductive Segment where
  | key (name : String)
  | index (position : Nat)
  deriving DecidableEq, Repr

/-- Steps from the root on. -/
abbrev Path := List Segment

namespace Segment

def render : Segment → String
  | key name => name
  | index position => toString position

end Segment

namespace Path

/-- The steps joined by points. -/
def render (p : Path) : String := ".".intercalate (p.map Segment.render)

end Path

end ManifestCheck
