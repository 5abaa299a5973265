import ManifestCheck.Proofs.Schema.Acceptance
import ManifestCheck.Proofs.Schema.RegistryBindings
import ManifestCheck.Schema.Builtin

/-!
# Built-in schema documents and what they denote

A built-in document is a graph of references, and what it compiles to is its unfolding.  Showing a
schema to be the only possible unfolding (`Library.Denotes`) needs no compilation: a reference
denotes what it leads to denotes, and an object denotes what its keywords say.  Here this is done
for the definitions that the built-in documents share.
-/

namespace ManifestCheck

namespace Library

variable {lib : Library} {name : String} {entries : List (String × Document)} {t : Schema}

/-- No other schema is an unfolding of a value in the document of a name. -/
def Denotes (lib : Library) (name : String) (d : Document) (t : Schema) : Prop :=
  ∀ s, lib.Unfolds name d s → s = t

theorem Denotes.reference {reference name' : String} {found : Document}
    (hr : entries.lookup "$ref" = some (.string reference))
    (hl : lib.Leads name reference name' found) (h : lib.Denotes name' found t) :
    lib.Denotes name (.object entries) t := by
  intro s hs
  cases hs with
  | reference hr' hl' _ hu =>
    cases hr.symm.trans hr'
    obtain ⟨rfl, rfl⟩ := hl.unique hl'
    exact h s hu
  | keywords hr' => cases hr.symm.trans hr'

theorem Denotes.keywords (hr : entries.lookup "$ref" = none)
    (h : Schema.FromKeywords (lib.Denotes name) entries t) :
    lib.Denotes name (.object entries) t := by
  intro s hs
  cases hs with
  | reference hr' => cases hr.symm.trans hr'
  | keywords _ hk hu => exact hk.unique h fun d s t hs ht => ht s (hu d s hs)

/-- One declared key more. -/
theorem Denotes.declare {key : String} {d : Document} {s : Schema} {ps : List (String × Schema)}
    {declared : List (String × Document)} (h : lib.Denotes name d s)
    (hr : ∀ x ∈ ps.zip declared, lib.Denotes name x.2.2 x.1.2) :
    ∀ x ∈ ((key, s) :: ps).zip ((key, d) :: declared), lib.Denotes name x.2.2 x.1.2 := by
  intro x hx
  rcases List.mem_cons.mp hx with rfl | hx
  · exact h
  · exact hr x hx

end Library

namespace Builtin

open Schema

variable {name : String} {entries : List (String × Document)}

theorem keysDistinct_library : library.KeysDistinct := by
  unfold Library.KeysDistinct
  decide +kernel

/-! ## Shared definitions -/

/-- The patterns that media types and digests have to match. -/
def mediaTypeSource : String :=
  "^[A-Za-z0-9][A-Za-z0-9!#$&^_.+-]\x7b0,126\x7d/[A-Za-z0-9][A-Za-z0-9!#$&^_.+-]\x7b0,126\x7d$"

def digestSource : String := "^[a-z0-9]+(?:[+._-][a-z0-9]+)*:[a-zA-Z0-9=_-]+$"

/-- Integers of 64 bits. -/
def int64 : Schema := ofBounds ⟨"-9223372036854775808"⟩ ⟨"9223372036854775807"⟩

def stringArray : Schema := listOf (ofKind .string)

def stringMap : Schema := mapOf (ofKind .string)

/-- A reference that names a document leads to the same place wherever it stands. -/
theorem leads_to {reference document : String} {found : Document} (pointer : String)
    (h : document.toList ≠ [] ∧ '#' ∉ document.toList ∧
      reference.toList = document.toList ++ '#' :: pointer.toList)
    (hf : library.find? ⟨document, pointer⟩ = some found) :
    library.Leads name reference document found := by
  obtain ⟨hne, hsign, hr⟩ := h
  obtain ⟨root, hroot, hp⟩ := Option.bind_eq_some_iff.mp hf
  refine ⟨document.toList, pointer.toList, hsign, .inl hr, ?_, root, hroot, ?_⟩
  · rw [if_neg hne, String.ofList_toList]
  · rwa [String.ofList_toList]

/-- A reference that is the name of a document leads to all of it. -/
theorem leads_to_document {document : String} {root : Document}
    (h : document.toList ≠ [] ∧ '#' ∉ document.toList)
    (hroot : library.documents.lookup document = some root) :
    library.Leads name document document root := by
  obtain ⟨hne, hsign⟩ := h
  refine ⟨document.toList, [], hsign, .inr ⟨rfl, rfl⟩, ?_, root, hroot, rfl⟩
  rw [if_neg hne, String.ofList_toList]

theorem denotes_text : library.Denotes name (.object [("type", .string "string")]) (ofKind .string) :=
  .keywords rfl ⟨⟨rfl, rfl, rfl, rfl, rfl, rfl, rfl, rfl, rfl, rfl⟩, ⟨[], rfl, rfl, nofun⟩,
    .none, .none⟩

theorem denotes_int64
    (hr : entries.lookup "$ref" = some (.string "defs.json#/definitions/int64")) :
    library.Denotes name (.object entries) int64 := by
  have hl : library.Leads name "defs.json#/definitions/int64" "defs.json" (.object [
      ("type", .string "integer"),
      ("minimum", .number ⟨"-9223372036854775808"⟩),
      ("maximum", .number ⟨"9223372036854775807"⟩)]) :=
    leads_to "/definitions/int64" (by decide) rfl
  exact .reference hr hl (.keywords rfl
    ⟨⟨rfl, rfl, rfl, rfl, rfl, rfl, rfl, rfl, rfl, rfl⟩, ⟨[], rfl, rfl, nofun⟩, .none, .none⟩)

theorem denotes_stringArray
    (hr : entries.lookup "$ref" = some (.string "defs.json#/definitions/stringArray")) :
    library.Denotes name (.object entries) stringArray := by
  have hl : library.Leads name "defs.json#/definitions/stringArray" "defs.json" (.object [
      ("type", .string "array"),
      ("items", .object [("type", .string "string")])]) :=
    leads_to "/definitions/stringArray" (by decide) rfl
  exact .reference hr hl (.keywords rfl
    ⟨⟨rfl, rfl, rfl, rfl, rfl, rfl, rfl, rfl, rfl, rfl⟩, ⟨[], rfl, rfl, nofun⟩, .none,
      .some denotes_text⟩)

theorem denotes_stringMap
    (hr : entries.lookup "$ref" = some (.string "defs.json#/definitions/mapStringString")) :
    library.Denotes name (.object entries) stringMap := by
  have hl : library.Leads name "defs.json#/definitions/mapStringString" "defs.json" (.object [
      ("type", .string "object"),
      ("additionalProperties", .object [("type", .string "string")])]) :=
    leads_to "/definitions/mapStringString" (by decide) rfl
  exact .reference hr hl (.keywords rfl
    ⟨⟨rfl, rfl, rfl, rfl, rfl, rfl, rfl, rfl, rfl, rfl⟩, ⟨[], rfl, rfl, nofun⟩,
      .some denotes_text, .none⟩)

/-- A chain of two references, through another document. -/
theorem denotes_urls
    (hr : entries.lookup "$ref" = some (.string "defs-descriptor.json#/definitions/urls")) :
    library.Denotes name (.object entries) stringArray := by
  have hl : library.Leads name "defs-descriptor.json#/definitions/urls" "defs-descriptor.json"
      (.object [
        ("description", .string "a list of urls from which this object may be downloaded"),
        ("$ref", .string "defs.json#/definitions/stringArray")]) :=
    leads_to "/definitions/urls" (by decide) rfl
  exact .reference hr hl (denotes_stringArray rfl)

theorem denotes_annotations
    (hr : entries.lookup "$ref" = some (.string "defs-descriptor.json#/definitions/annotations")) :
    library.Denotes name (.object entries) stringMap := by
  have hl : library.Leads name "defs-descriptor.json#/definitions/annotations"
      "defs-descriptor.json" (.object [
        ("id", .string "https://opencontainers.org/schema/descriptor/annotations"),
        ("$ref", .string "defs.json#/definitions/mapStringString")]) :=
    leads_to "/definitions/annotations" (by decide) rfl
  exact .reference hr hl (denotes_stringMap rfl)

theorem pattern?_eq {source : String} {p : Pattern} (hp : Pattern.compile source = .ok p) :
    (Document.string source).pattern?.map some = some (some p) := by
  rw [Document.pattern?, hp]
  rfl

theorem denotes_mediaType {p : Pattern} (hp : Pattern.compile mediaTypeSource = .ok p)
    (hr : entries.lookup "$ref" = some (.string "defs-descriptor.json#/definitions/mediaType")) :
    library.Denotes name (.object entries) (ofPattern p) := by
  have hl : library.Leads name "defs-descriptor.json#/definitions/mediaType"
      "defs-descriptor.json" (.object [
        ("id", .string "https://opencontainers.org/schema/descriptor/mediaType"),
        ("type", .string "string"),
        ("pattern", .string mediaTypeSource)]) :=
    leads_to "/definitions/mediaType" (by decide) rfl
  exact .reference hr hl (.keywords rfl
    ⟨⟨rfl, rfl, pattern?_eq hp, rfl, rfl, rfl, rfl, rfl, rfl, rfl⟩, ⟨[], rfl, rfl, nofun⟩,
      .none, .none⟩)

theorem denotes_digest {p : Pattern} (hp : Pattern.compile digestSource = .ok p)
    (hr : entries.lookup "$ref" = some (.string "defs-descriptor.json#/definitions/digest")) :
    library.Denotes name (.object entries) (ofPattern p) := by
  have hl : library.Leads name "defs-descriptor.json#/definitions/digest" "defs-descriptor.json"
      (.object [
        ("description",
          .string ("the cryptographic checksum digest of the object, " ++
            "in the pattern '<algorithm>:<encoded>'")),
        ("type", .string "string"),
        ("pattern", .string digestSource)]) :=
    leads_to "/definitions/digest" (by decide) rfl
  exact .reference hr hl (.keywords rfl
    ⟨⟨rfl, rfl, pattern?_eq hp, rfl, rfl, rfl, rfl, rfl, rfl, rfl⟩, ⟨[], rfl, rfl, nofun⟩,
      .none, .none⟩)

/-! ## What the definitions accept -/

theorem stringArray_accepts {d : Document} :
    stringArray.accepts d = true ↔ d.IsListOf Document.IsText := by
  rw [stringArray, listOf_accepts]
  simp only [ofKind_string_accepts, Document.IsListOf]

theorem stringMap_accepts {d : Document} :
    stringMap.accepts d = true ↔ d.IsMapOf Document.IsText := by
  rw [stringMap, mapOf_accepts]
  simp only [ofKind_string_accepts, Document.IsMapOf]

/-- All integers of 64 bits and no others; a literal of any length is judged by its value. -/
theorem int64_accepts {d : Document} (hd : d.NumbersLiteral) :
    int64.accepts d = true ↔ d.IsIntegerIn (-2 ^ 63) (2 ^ 63 - 1) :=
  ofBounds_accepts (by decide) (by decide) (by decide) (by decide) hd

theorem version_accepts {d : Document} (hd : d.NumbersLiteral) :
    (ofBounds ⟨"2"⟩ ⟨"2"⟩).accepts d = true ↔ d.IsIntegerIn 2 2 :=
  ofBounds_accepts (by decide) (by decide) (by decide) (by decide) hd

/-! ## The registry -/

theorem exists_mediaTypePattern : ∃ p, Pattern.compile mediaTypeSource = .ok p :=
  isSome_toOption_iff.mp (by decide +kernel)

theorem exists_digestPattern : ∃ p, Pattern.compile digestSource = .ok p :=
  isSome_toOption_iff.mp (by decide +kernel)

/-- All built-in documents compile. -/
theorem exists_builtin : ∃ r, Registry.builtin = .ok r :=
  isSome_toOption_iff.mp (by decide +kernel)

/-- The registry holds for every media type what its document compiles to. -/
theorem exists_schema {r : Registry} (hr : Registry.builtin = .ok r) (m : MediaType) :
    ∃ s, library.compile m.schemaDocument = .ok s ∧ r.schemas.lookup m.identifier = some s := by
  have hb : (m.identifier, m.schemaDocument) ∈
      MediaType.all.map fun m => (m.identifier, m.schemaDocument) :=
    List.mem_map.mpr ⟨m, by cases m <;> decide, rfl⟩
  exact Registry.lookup_of_ofLibrary (by decide) hr hb

/-- Schemas that the built-in registry holds declare no key twice. -/
theorem namesDistinct_of_lookup {r : Registry} (hr : Registry.builtin = .ok r) {m : MediaType}
    {s : Schema} (hs : r.schemas.lookup m.identifier = some s) : s.NamesDistinct := by
  obtain ⟨s', hc, hs'⟩ := exists_schema hr m
  cases hs.symm.trans hs'
  exact Library.namesDistinct_of_compile keysDistinct_library hc

/-- A schema that the document of a media type denotes is the one that the registry holds. -/
theorem lookup_of_denotes {r : Registry} {m : MediaType} {root : Document} {t : Schema}
    (hr : Registry.builtin = .ok r) (hd : library.documents.lookup m.schemaDocument = some root)
    (h : library.Denotes m.schemaDocument root t) : r.schemas.lookup m.identifier = some t := by
  obtain ⟨s, hc, hs⟩ := exists_schema hr m
  obtain ⟨root', hroot, -, hu⟩ := Library.unfolds_of_compile keysDistinct_library hc
  cases hd.symm.trans hroot
  rw [← h s hu]
  exact hs

end Builtin

end ManifestCheck
