/-!
# Fields

Text cut at every occurrence of a separator. There is one field more than there are separators.
-/

namespace ManifestCheck.Text

/-- A list of characters cut at each occurrence of a separator. -/
def fields (separator : Char) : List Char → List (List Char)
  | [] => [[]]
  | c :: cs =>
    if c = separator then [] :: fields separator cs
    else match fields separator cs with
      | [] => [[c]]
      | f :: fs => (c :: f) :: fs

end ManifestCheck.Text
