import ManifestCheck.Proofs.Builtin.Denotation
import ManifestCheck.Proofs.Pattern.Languages

/-!
# The shape of descriptors and manifests

What the built-in schemas for content descriptors and for image manifests ask of a document, said
without schemas (`Document.IsDescriptor`, `Document.IsManifest`).  A manifest holds descriptors, one
for its configuration and one for each layer, and the schema for these is the schema for descriptors
itself: a reference to a whole document leads to what this document compiles to, and the references
in it are resolved there (`denotes_descriptor` holds wherever the reference stands).

`validate_manifest_iff` puts this together: which documents are valid, and that the one schema stands
inside the other.
-/

namespace ManifestCheck

namespace Builtin

/-- The pattern that the media type of a manifest has to match. -/
def manifestSource : String := "^application/vnd\\.oci\\.image\\.manifest\\.v1\\+json$"

end Builtin

/-! ## Shapes -/

namespace Document

/-- A list with values of one shape, and at least one of them. -/
def IsFilledListOf (P : Document → Prop) (d : Document) : Prop :=
  ∃ elements, d = .array elements ∧ elements ≠ [] ∧ ∀ e ∈ elements, P e

/-- A descriptor is an object that names the type, the size and the digest of some content. -/
structure IsDescriptor (d : Document) : Prop where
  mediaType : d.Has "mediaType" (Matches Builtin.mediaTypeSource)
  size : d.Has "size" (IsIntegerIn (-2 ^ 63) (2 ^ 63 - 1))
  digest : d.Has "digest" (Matches Builtin.digestSource)
  urls : d.MayHave "urls" (IsListOf IsText)
  annotations : d.MayHave "annotations" (IsMapOf IsText)

/-- A manifest is an object of version 2 with a configuration and layers, of which there is at least
one.  All of these are described in one way, which is left open. -/
structure IsManifest (Describes : Document → Prop) (d : Document) : Prop where
  schemaVersion : d.Has "schemaVersion" (IsIntegerIn 2 2)
  config : d.Has "config" Describes
  layers : d.Has "layers" (IsFilledListOf Describes)
  mediaType : d.MayHave "mediaType" (Matches Builtin.manifestSource)
  annotations : d.MayHave "annotations" (IsMapOf IsText)

end Document

namespace Schema

/-- Lists of values that a schema accepts, with at least one value. -/
def filledListOf (each : Schema) : Schema :=
  node { types := some (TypeSet.ofList [.array]), minItems := some 1 } [] none (some each)

theorem filledListOf_accepts {each : Schema} {d : Document} :
    (filledListOf each).accepts d = true ↔ d.IsFilledListOf fun e => each.accepts e = true := by
  rw [accepts_array_iff rfl]
  refine exists_congr fun elements => and_congr_right fun _ => ?_
  have hfaults : (filledListOf each).checks.allFaults (.array elements) = [] ↔ elements ≠ [] := by
    cases elements with
    | nil => exact ⟨nofun, fun h => absurd rfl h⟩
    | cons e rest => exact ⟨fun _ => List.cons_ne_nil e rest, fun _ => rfl⟩
  rw [hfaults]
  refine and_congr_right fun _ => ?_
  constructor
  · intro h
    exact h each rfl
  · intro h other ho
    cases ho
    exact h

end Schema

namespace Builtin

open Schema Library

/-! ## The schemas -/

def descriptorSchema (mediaType digest : Pattern) : Schema :=
  ofProperties ["mediaType", "size", "digest"] [
    ("mediaType", ofPattern mediaType),
    ("size", int64),
    ("digest", ofPattern digest),
    ("urls", stringArray),
    ("annotations", stringMap)]

/-- The schema for manifests around a schema for what they describe. -/
def manifestSchema (manifestType : Pattern) (described : Schema) : Schema :=
  ofProperties ["schemaVersion", "config", "layers"] [
    ("schemaVersion", ofBounds ⟨"2"⟩ ⟨"2"⟩),
    ("mediaType", ofPattern manifestType),
    ("config", described),
    ("layers", filledListOf described),
    ("annotations", stringMap)]

variable {manifestType mediaType digest : Pattern}

theorem denotes_descriptor (hm : Pattern.compile mediaTypeSource = .ok mediaType)
    (hd : Pattern.compile digestSource = .ok digest) (name : String) :
    library.Denotes name contentDescriptor (descriptorSchema mediaType digest) := by
  refine .keywords rfl ⟨⟨rfl, rfl, rfl, rfl, rfl, rfl, rfl, rfl, rfl, rfl⟩, ⟨_, rfl, rfl, ?_⟩,
    .none, .none⟩
  exact .declare (denotes_mediaType hm rfl) (.declare (denotes_int64 rfl)
    (.declare (denotes_digest hd rfl) (.declare (denotes_urls rfl)
      (.declare (denotes_annotations rfl) nofun))))

theorem denotes_manifest (hi : Pattern.compile manifestSource = .ok manifestType)
    (hm : Pattern.compile mediaTypeSource = .ok mediaType)
    (hd : Pattern.compile digestSource = .ok digest) :
    library.Denotes "image-manifest-schema.json" imageManifest
      (manifestSchema manifestType (descriptorSchema mediaType digest)) := by
  have described : library.Denotes "image-manifest-schema.json"
      (.object [("$ref", .string "content-descriptor.json")])
      (descriptorSchema mediaType digest) :=
    .reference rfl (leads_to_document (by decide) rfl) (denotes_descriptor hm hd _)
  refine .keywords rfl ⟨⟨rfl, rfl, rfl, rfl, rfl, rfl, rfl, rfl, rfl, rfl⟩, ⟨_, rfl, rfl, ?_⟩,
    .none, .none⟩
  refine .declare ?version (.declare ?type (.declare described
    (.declare ?layers (.declare (denotes_annotations rfl) nofun))))
  case version =>
    exact .keywords rfl ⟨⟨rfl, rfl, rfl, rfl, rfl, rfl, rfl, rfl, rfl, rfl⟩, ⟨[], rfl, rfl, nofun⟩,
      .none, .none⟩
  case type =>
    exact .keywords rfl ⟨⟨rfl, rfl, pattern?_eq hi, rfl, rfl, rfl, rfl, rfl, rfl, rfl⟩,
      ⟨[], rfl, rfl, nofun⟩, .none, .none⟩
  case layers =>
    exact .keywords rfl ⟨⟨rfl, rfl, rfl, rfl, rfl, rfl, rfl, rfl, rfl, rfl⟩, ⟨[], rfl, rfl, nofun⟩,
      .none, .some described⟩

/-! ## What the schemas accept -/

theorem descriptor_accepts (hm : Pattern.compile mediaTypeSource = .ok mediaType)
    (hd : Pattern.compile digestSource = .ok digest) {d : Document} (hn : d.NumbersLiteral) :
    (descriptorSchema mediaType digest).accepts d = true ↔ d.IsDescriptor := by
  have size : (d.MayHave "size" fun v => int64.accepts v = true) ↔
      d.MayHave "size" (Document.IsIntegerIn (-2 ^ 63) (2 ^ 63 - 1)) :=
    Document.mayHave_congr fun v hv => int64_accepts (hn.get? hv)
  rw [descriptorSchema, ofProperties_accepts]
  simp only [List.forall_mem_cons, ofPattern_accepts hm, ofPattern_accepts hd, stringArray_accepts,
    stringMap_accepts, size]
  constructor
  · intro h
    obtain ⟨entries, rfl, ⟨km, ks, kd, -⟩, hmt, hs, hdg, hu, ha, -⟩ := h
    exact ⟨Document.has_iff.mpr ⟨km, hmt⟩, Document.has_iff.mpr ⟨ks, hs⟩,
      Document.has_iff.mpr ⟨kd, hdg⟩, hu, ha⟩
  · intro h
    obtain ⟨entries, rfl⟩ := h.mediaType.isObject
    obtain ⟨km, hmt⟩ := Document.has_iff.mp h.mediaType
    obtain ⟨ks, hs⟩ := Document.has_iff.mp h.size
    obtain ⟨kd, hdg⟩ := Document.has_iff.mp h.digest
    exact ⟨entries, rfl, ⟨km, ks, kd, nofun⟩, hmt, hs, hdg, h.urls, h.annotations, nofun⟩

theorem manifest_accepts (hi : Pattern.compile manifestSource = .ok manifestType)
    {described : Schema} {d : Document} (hn : d.NumbersLiteral) :
    (manifestSchema manifestType described).accepts d = true ↔
      d.IsManifest fun e => described.accepts e = true := by
  have version : (d.MayHave "schemaVersion" fun v => (ofBounds ⟨"2"⟩ ⟨"2"⟩).accepts v = true) ↔
      d.MayHave "schemaVersion" (Document.IsIntegerIn 2 2) :=
    Document.mayHave_congr fun v hv => version_accepts (hn.get? hv)
  rw [manifestSchema, ofProperties_accepts]
  simp only [List.forall_mem_cons, ofPattern_accepts hi, filledListOf_accepts, stringMap_accepts,
    version]
  constructor
  · intro h
    obtain ⟨entries, rfl, ⟨kv, kc, kl, -⟩, hv, ht, hc, hls, ha, -⟩ := h
    exact ⟨Document.has_iff.mpr ⟨kv, hv⟩, Document.has_iff.mpr ⟨kc, hc⟩,
      Document.has_iff.mpr ⟨kl, hls⟩, ht, ha⟩
  · intro h
    obtain ⟨entries, rfl⟩ := h.schemaVersion.isObject
    obtain ⟨kv, hv⟩ := Document.has_iff.mp h.schemaVersion
    obtain ⟨kc, hc⟩ := Document.has_iff.mp h.config
    obtain ⟨kl, hls⟩ := Document.has_iff.mp h.layers
    exact ⟨entries, rfl, ⟨kv, kc, kl, nofun⟩, hv, h.mediaType, hc, hls, h.annotations, nofun⟩

/-! ## The registry -/

/-- The pattern is a row of characters between anchors: those of the media type itself. -/
theorem manifestPattern_fixed : (Pattern.compile manifestSource).toOption.map Pattern.expr =
    some (.whole (.fixed MediaType.manifest.identifier.toList)) := by
  decide +kernel

theorem exists_manifestPattern : ∃ p, Pattern.compile manifestSource = .ok p := by
  obtain ⟨p, hp, -⟩ := exists_ok_of_map manifestPattern_fixed
  exact ⟨p, hp⟩

/-- **What valid descriptors and manifests are.**  There is a registry of the built-in schemas.  It
finds a loaded document to be a valid descriptor exactly if the document is of the shape of one, and
to be a valid manifest exactly if it is of the shape of one whose configuration and layers are valid
descriptors.  What the document with the schema for descriptors compiles to by itself is the schema
for descriptors, and is what governs the configuration and each layer of a manifest. -/
theorem validate_manifest_iff {l : Loader} {bytes : List UInt8} {d : Document}
    (hd : l.load bytes = .ok d) :
    ∃ r, Registry.builtin = .ok r ∧
      (r.validate MediaType.descriptor.identifier d = .ok () ↔ d.IsDescriptor) ∧
      (r.validate MediaType.manifest.identifier d = .ok () ↔
        d.IsManifest fun e => r.validate MediaType.descriptor.identifier e = .ok ()) ∧
      ∃ descriptor manifest, library.compile "content-descriptor.json" = .ok descriptor ∧
        r.schemas.lookup MediaType.descriptor.identifier = some descriptor ∧
        r.schemas.lookup MediaType.manifest.identifier = some manifest ∧
        manifest.governing? [.key "config"] = some descriptor ∧
        ∀ i, manifest.governing? [.key "layers", .index i] = some descriptor := by
  obtain ⟨manifestType, hi⟩ := exists_manifestPattern
  obtain ⟨mediaType, hm⟩ := exists_mediaTypePattern
  obtain ⟨digest, hg⟩ := exists_digestPattern
  obtain ⟨r, hr⟩ := exists_builtin
  have hn : d.NumbersLiteral := Document.numbersLiteral_of_load hd
  have hdescriptor : r.schemas.lookup MediaType.descriptor.identifier =
      some (descriptorSchema mediaType digest) :=
    lookup_of_denotes hr rfl (denotes_descriptor hm hg _)
  have hmanifest : r.schemas.lookup MediaType.manifest.identifier =
      some (manifestSchema manifestType (descriptorSchema mediaType digest)) :=
    lookup_of_denotes hr rfl (denotes_manifest hi hm hg)
  obtain ⟨s, hc, hs⟩ := exists_schema hr .descriptor
  cases hdescriptor.symm.trans hs
  refine ⟨r, hr, ?_, ?_, _, _, hc, hdescriptor, hmanifest, rfl, fun _ => rfl⟩
  · rw [Registry.validate_eq_ok_iff hdescriptor]
    exact descriptor_accepts hm hg hn
  · rw [Registry.validate_eq_ok_iff hmanifest]
    simp only [Registry.validate_eq_ok_iff hdescriptor]
    exact manifest_accepts hi hn

/-- A manifest with a configuration and one layer. -/
def smallManifest : String :=
  "\x7b\"schemaVersion\":2,\"config\":\x7b\"mediaType\":\"a/b\",\"size\":1,\"digest\":\"a:b\"\x7d," ++
    "\"layers\":[\x7b\"mediaType\":\"a/b\",\"size\":0,\"digest\":\"a:c\"\x7d]\x7d"

theorem validate_smallManifest : ∃ r d, Registry.builtin = .ok r ∧
    ({} : Loader).load (Utf8.encode smallManifest) = .ok d ∧
      r.validate MediaType.manifest.identifier d = .ok () ∧
        d.IsManifest fun e => r.validate MediaType.descriptor.identifier e = .ok () := by
  have haccepts : (match ({} : Loader).load (Utf8.encode smallManifest),
      Pattern.compile manifestSource, Pattern.compile mediaTypeSource,
      Pattern.compile digestSource with
    | .ok d, .ok manifestType, .ok mediaType, .ok digest =>
      (manifestSchema manifestType (descriptorSchema mediaType digest)).accepts d
    | _, _, _, _ => false) = true := by decide +kernel
  split at haccepts
  · rename_i d manifestType mediaType digest hd hi hm hg
    obtain ⟨r, hr, -, hmanifest, -⟩ := validate_manifest_iff hd
    have hs := lookup_of_denotes (m := .manifest) hr rfl (denotes_manifest hi hm hg)
    have hvalid := (Registry.validate_eq_ok_iff hs).mpr haccepts
    exact ⟨r, d, hr, hd, hvalid, hmanifest.mp hvalid⟩
  · cases haccepts

end Builtin

end ManifestCheck
