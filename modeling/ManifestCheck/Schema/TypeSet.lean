import ManifestCheck.Kind

/-!
# Sets of kinds

The kinds that a schema admits, in listing order and each once. Whoever admits numbers admits
integers too.
-/

namespace ManifestCheck

structure TypeSet where
  kinds : List Kind
  deriving DecidableEq, Repr

namespace TypeSet

/-- The set of the given kinds. -/
def ofList (kinds : List Kind) : TypeSet := ⟨Kind.all.filter fun k => kinds.contains k⟩

def accepts (s : TypeSet) (k : Kind) : Bool :=
  s.kinds.contains k || (k = .integer && s.kinds.contains .number)

/-- One kind by its name, several as a list. -/
def render (s : TypeSet) : String :=
  match s.kinds with
  | [only] => only.name
  | kinds => "one of [" ++ ", ".intercalate (kinds.map Kind.name) ++ "]"

end TypeSet

end ManifestCheck
