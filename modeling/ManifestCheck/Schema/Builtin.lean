import ManifestCheck.MediaType
import ManifestCheck.Schema.Library

/-!
# Built-in schema documents

The schema documents for image manifests, manifest lists, descriptors and layouts, under the names
by which they refer to each other.
-/

namespace ManifestCheck.Builtin

/-- Shapes that the other documents share. -/
def definitions : Document :=
  .object [
    ("description", .string "Definitions used throughout the image schemas"),
    ("definitions", .object [
      ("int64", .object [
        ("type", .string "integer"),
        ("minimum", .number ⟨"-9223372036854775808"⟩),
        ("maximum", .number ⟨"9223372036854775807"⟩)]),
      ("uint64", .object [
        ("type", .string "integer"),
        ("minimum", .number ⟨"0"⟩),
        ("maximum", .number ⟨"18446744073709551615"⟩)]),
      ("stringArray", .object [
        ("type", .string "array"),
        ("items", .object [("type", .string "string")])]),
      ("mapStringString", .object [
        ("type", .string "object"),
        ("additionalProperties", .object [("type", .string "string")])])])]

/-- The parts of a content descriptor. -/
def descriptorDefinitions : Document :=
  .object [
    ("description", .string "Definitions particular to content descriptors"),
    ("definitions", .object [
      ("mediaType", .object [
        ("id", .string "https://opencontainers.org/schema/descriptor/mediaType"),
        ("type", .string "string"),
        ("pattern",
          .string ("^[A-Za-z0-9][A-Za-z0-9!#$&^_.+-]\x7b0,126\x7d/" ++
            "[A-Za-z0-9][A-Za-z0-9!#$&^_.+-]\x7b0,126\x7d$"))]),
      ("digest", .object [
        ("description",
          .string ("the cryptographic checksum digest of the object, " ++
            "in the pattern '<algorithm>:<encoded>'")),
        ("type", .string "string"),
        ("pattern", .string "^[a-z0-9]+(?:[+._-][a-z0-9]+)*:[a-zA-Z0-9=_-]+$")]),
      ("urls", .object [
        ("description", .string "a list of urls from which this object may be downloaded"),
        ("$ref", .string "defs.json#/definitions/stringArray")]),
      ("annotations", .object [
        ("id", .string "https://opencontainers.org/schema/descriptor/annotations"),
        ("$ref", .string "defs.json#/definitions/mapStringString")])])]

/-- A reference to content by type, size and digest. -/
def contentDescriptor : Document :=
  .object [
    ("description", .string "Content Descriptor Specification"),
    ("$schema", .string "http://json-schema.org/draft-04/schema#"),
    ("id", .string "https://opencontainers.org/schema/descriptor"),
    ("type", .string "object"),
    ("properties", .object [
      ("mediaType", .object [
        ("description", .string "the mediatype of the referenced object"),
        ("$ref", .string "defs-descriptor.json#/definitions/mediaType")]),
      ("size", .object [
        ("description", .string "the size in bytes of the referenced object"),
        ("$ref", .string "defs.json#/definitions/int64")]),
      ("digest", .object [
        ("$ref", .string "defs-descriptor.json#/definitions/digest")]),
      ("urls", .object [
        ("$ref", .string "defs-descriptor.json#/definitions/urls")]),
      ("annotations", .object [
        ("$ref", .string "defs-descriptor.json#/definitions/annotations")])]),
    ("required", .array [.string "mediaType", .string "size", .string "digest"])]

/-- A manifest: a configuration and layers. -/
def imageManifest : Document :=
  .object [
    ("description", .string "Image Manifest Specification"),
    ("$schema", .string "http://json-schema.org/draft-04/schema#"),
    ("id", .string "https://opencontainers.org/schema/image/manifest"),
    ("type", .string "object"),
    ("properties", .object [
      ("schemaVersion", .object [
        ("description",
          .string "This field specifies the image manifest schema version as an integer"),
        ("id", .string "https://opencontainers.org/schema/image/manifest/schemaVersion"),
        ("type", .string "integer"),
        ("minimum", .number ⟨"2"⟩),
        ("maximum", .number ⟨"2"⟩)]),
      ("mediaType", .object [
        ("id", .string "https://opencontainers.org/schema/image/manifest/mediaType"),
        ("type", .string "string"),
        ("pattern", .string "^application/vnd\\.oci\\.image\\.manifest\\.v1\\+json$")]),
      ("config", .object [("$ref", .string "content-descriptor.json")]),
      ("layers", .object [
        ("type", .string "array"),
        ("minItems", .number ⟨"1"⟩),
        ("items", .object [("$ref", .string "content-descriptor.json")])]),
      ("annotations", .object [
        ("id", .string "https://opencontainers.org/schema/image/manifest/annotations"),
        ("$ref", .string "defs-descriptor.json#/definitions/annotations")])]),
    ("required", .array [.string "schemaVersion", .string "config", .string "layers"])]

/-- A list of manifests by platform. -/
def manifestList : Document :=
  .object [
    ("description", .string "Image Manifest List Specification"),
    ("$schema", .string "http://json-schema.org/draft-04/schema#"),
    ("id", .string "https://opencontainers.org/schema/image/manifest-list"),
    ("type", .string "object"),
    ("properties", .object [
      ("schemaVersion", .object [
        ("description",
          .string "This field specifies the manifest list schema version as an integer"),
        ("id", .string "https://opencontainers.org/schema/image/manifest-list/schemaVersion"),
        ("type", .string "integer"),
        ("minimum", .number ⟨"2"⟩),
        ("maximum", .number ⟨"2"⟩)]),
      ("mediaType", .object [
        ("id", .string "https://opencontainers.org/schema/image/manifest-list/mediaType"),
        ("type", .string "string"),
        ("pattern", .string "^application/vnd\\.oci\\.image\\.manifest\\.list\\.v1\\+json$")]),
      ("manifests", .object [
        ("type", .string "array"),
        ("items", .object [
          ("id", .string "https://opencontainers.org/schema/image/manifest-list/manifest"),
          ("type", .string "object"),
          ("properties", .object [
            ("mediaType", .object [
              ("$ref", .string "defs-descriptor.json#/definitions/mediaType")]),
            ("size", .object [("$ref", .string "defs.json#/definitions/int64")]),
            ("digest", .object [
              ("$ref", .string "defs-descriptor.json#/definitions/digest")]),
            ("urls", .object [
              ("$ref", .string "defs-descriptor.json#/definitions/urls")]),
            ("annotations", .object [
              ("$ref", .string "defs-descriptor.json#/definitions/annotations")]),
            ("platform", .object [
              ("id", .string "https://opencontainers.org/schema/image/manifest-list/platform"),
              ("type", .string "object"),
              ("required", .array [.string "architecture", .string "os"]),
              ("properties", .object [
                ("architecture", .object [("type", .string "string")]),
                ("os", .object [("type", .string "string")]),
                ("os.version", .object [("type", .string "string")]),
                ("os.features", .object [
                  ("$ref", .string "defs.json#/definitions/stringArray")]),
                ("variant", .object [("type", .string "string")]),
                ("features", .object [
                  ("$ref", .string "defs.json#/definitions/stringArray")])])])]),
          ("required", .array [
            .string "mediaType",
            .string "size",
            .string "digest",
            .string "platform"])])]),
      ("annotations", .object [
        ("id", .string "https://opencontainers.org/schema/image/manifest-list/annotations"),
        ("$ref", .string "defs-descriptor.json#/definitions/annotations")])]),
    ("required", .array [
      .string "schemaVersion",
      .string "mediaType",
      .string "manifests"])]

/-- The header of an image layout. -/
def imageLayout : Document :=
  .object [
    ("description", .string "Image Layout Specification"),
    ("$schema", .string "http://json-schema.org/draft-04/schema#"),
    ("id", .string "https://opencontainers.org/schema/image/layout"),
    ("type", .string "object"),
    ("properties", .object [
      ("imageLayoutVersion", .object [
        ("description", .string "version of the image layout"),
        ("type", .string "string"),
        ("enum", .array [.string "1.0.0"])])]),
    ("required", .array [.string "imageLayoutVersion"])]

/-- Every built-in document under its name. -/
def documents : List (String × Document) := [
  ("defs.json", definitions),
  ("defs-descriptor.json", descriptorDefinitions),
  ("content-descriptor.json", contentDescriptor),
  ("image-manifest-schema.json", imageManifest),
  ("manifest-list-schema.json", manifestList),
  ("image-layout-schema.json", imageLayout)]

def library : Library := ⟨documents⟩

end ManifestCheck.Builtin

namespace ManifestCheck

/-- The document that describes documents of a media type. -/
def MediaType.schemaDocument : MediaType → String
  | descriptor => "content-descriptor.json"
  | manifest => "image-manifest-schema.json"
  | manifestList => "manifest-list-schema.json"
  | imageLayout => "image-layout-schema.json"

end ManifestCheck
