import ManifestCheck.Schema.Builtin

/-!
# The table of media types

One line for each media type: its identifier alone, or short name, identifier and schema document in
columns.
-/

namespace ManifestCheck.MediaTypeTable

/-- Text with blanks behind it up to a width. -/
def padRight (width : Nat) (text : String) : String :=
  text ++ String.ofList (List.replicate (width - text.length) ' ')

/-- The line for a media type. -/
def line (quiet : Bool) (m : MediaType) : String :=
  if quiet then m.identifier
  else padRight 14 m.shortName ++ " " ++ padRight 50 m.identifier ++ " " ++ m.schemaDocument

def render (quiet : Bool) : String :=
  String.join (MediaType.all.map fun m => line quiet m ++ "\n")

end ManifestCheck.MediaTypeTable
