import ManifestCheck.Text.Blank
import ManifestCheck.Text.Escaped

/-!
# Media types

The kinds of documents for which a schema is built in, with their identifiers and short names.
-/

namespace ManifestCheck

/-- A document kind with a built-in schema. -/
inductive MediaType where
  | descriptor
  | manifest
  | manifestList
  | imageLayout
  deriving DecidableEq, Repr

namespace MediaType

/-- Every media type, in listing order. -/
def all : List MediaType := [descriptor, manifest, manifestList, imageLayout]

/-- The full identifier. -/
def identifier : MediaType → String
  | descriptor => "application/vnd.oci.descriptor.v1+json"
  | manifest => "application/vnd.oci.image.manifest.v1+json"
  | manifestList => "application/vnd.oci.image.manifest.list.v1+json"
  | imageLayout => "application/vnd.oci.layout.header.v1+json"

/-- The name accepted on the command line. -/
def shortName : MediaType → String
  | descriptor => "descriptor"
  | manifest => "manifest"
  | manifestList => "manifest-list"
  | imageLayout => "layout"

/-- The media type of a full identifier. -/
def ofIdentifier? (text : String) : Option MediaType := all.find? fun m => m.identifier == text

/-- The media type that a user names, by identifier, short name or `index`, blanks around it aside.
A name that fits none is returned without those blanks. -/
def ofName (text : String) : Except String MediaType :=
  let name := Text.trim text
  if name = "index" then .ok manifestList
  else match all.find? fun m => m.identifier == name || m.shortName == name with
    | some m => .ok m
    | none => .error name

/-- The complaint about a name that fits no media type. -/
def unknownMessage (name : String) : String := "unknown media type " ++ Escaped.render name

end MediaType

end ManifestCheck
