import ManifestCheck.Document

/-!
# Bare names

A choice among names is written as a string, or as an object with that name as its only key and
null under it.
-/

namespace ManifestCheck.Document

/-- The name that a document spells, if it spells one. -/
def bareName? : Document → Option String
  | string name => some name
  | object [(name, null)] => some name
  | _ => none

end ManifestCheck.Document
