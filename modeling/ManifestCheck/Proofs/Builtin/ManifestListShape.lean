import ManifestCheck.Proofs.Builtin.Denotation
import ManifestCheck.Proofs.Document.RenderingRoundTrip
import ManifestCheck.Proofs.Pattern.Languages
import ManifestCheck.Proofs.Schema.RegistryBindings

/-!
# The shape of manifest lists

What the built-in schema for manifest lists asks of a document, said without schemas: which values
an object must have, which ones it may have, and of what shape each of them is
(`Document.IsManifestList`).  A document is a valid manifest list exactly if it is of this shape,
and nothing else about it matters (`validate_manifestList_iff`).
-/

namespace ManifestCheck

namespace Builtin

/-- The pattern that the media type of a manifest list has to match. -/
def manifestListSource : String := "^application/vnd\\.oci\\.image\\.manifest\\.list\\.v1\\+json$"

end Builtin

/-! ## Shapes -/

namespace Document

/-- A platform is an object that names an architecture and an operating system, and possibly more
about them. -/
structure IsPlatform (d : Document) : Prop where
  architecture : d.Has "architecture" IsText
  os : d.Has "os" IsText
  osVersion : d.MayHave "os.version" IsText
  osFeatures : d.MayHave "os.features" (IsListOf IsText)
  variant : d.MayHave "variant" IsText
  features : d.MayHave "features" (IsListOf IsText)

/-- An element of a manifest list is an object that describes a manifest for a platform. -/
structure IsManifestReference (d : Document) : Prop where
  mediaType : d.Has "mediaType" (Matches Builtin.mediaTypeSource)
  size : d.Has "size" (IsIntegerIn (-2 ^ 63) (2 ^ 63 - 1))
  digest : d.Has "digest" (Matches Builtin.digestSource)
  platform : d.Has "platform" IsPlatform
  urls : d.MayHave "urls" (IsListOf IsText)
  annotations : d.MayHave "annotations" (IsMapOf IsText)

/-- A manifest list is an object of version 2 that holds references to manifests. -/
structure IsManifestList (d : Document) : Prop where
  schemaVersion : d.Has "schemaVersion" (IsIntegerIn 2 2)
  mediaType : d.Has "mediaType" (Matches Builtin.manifestListSource)
  manifests : d.Has "manifests" (IsListOf IsManifestReference)
  annotations : d.MayHave "annotations" (IsMapOf IsText)

end Document

/-! ## The schema -/

namespace Builtin

open Schema Library

def platform : Schema :=
  ofProperties ["architecture", "os"] [
    ("architecture", ofKind .string),
    ("os", ofKind .string),
    ("os.version", ofKind .string),
    ("os.features", stringArray),
    ("variant", ofKind .string),
    ("features", stringArray)]

/-- The schema for the elements of a manifest list, with the patterns of media types and digests. -/
def manifestReference (mediaType digest : Pattern) : Schema :=
  ofProperties ["mediaType", "size", "digest", "platform"] [
    ("mediaType", ofPattern mediaType),
    ("size", int64),
    ("digest", ofPattern digest),
    ("urls", stringArray),
    ("annotations", stringMap),
    ("platform", platform)]

def manifestListSchema (listType mediaType digest : Pattern) : Schema :=
  ofProperties ["schemaVersion", "mediaType", "manifests"] [
    ("schemaVersion", ofBounds ⟨"2"⟩ ⟨"2"⟩),
    ("mediaType", ofPattern listType),
    ("manifests", listOf (manifestReference mediaType digest)),
    ("annotations", stringMap)]

theorem denotes_manifestList {listType mediaType digest : Pattern}
    (hl : Pattern.compile manifestListSource = .ok listType)
    (hm : Pattern.compile mediaTypeSource = .ok mediaType)
    (hd : Pattern.compile digestSource = .ok digest) :
    library.Denotes "manifest-list-schema.json" manifestList
      (manifestListSchema listType mediaType digest) := by
  refine .keywords rfl ⟨⟨rfl, rfl, rfl, rfl, rfl, rfl, rfl, rfl, rfl, rfl⟩, ⟨_, rfl, rfl, ?_⟩,
    .none, .none⟩
  refine .declare ?version (.declare ?type (.declare ?manifests (.declare ?annotations nofun)))
  case version =>
    exact .keywords rfl ⟨⟨rfl, rfl, rfl, rfl, rfl, rfl, rfl, rfl, rfl, rfl⟩, ⟨[], rfl, rfl, nofun⟩,
      .none, .none⟩
  case type =>
    exact .keywords rfl ⟨⟨rfl, rfl, pattern?_eq hl, rfl, rfl, rfl, rfl, rfl, rfl, rfl⟩,
      ⟨[], rfl, rfl, nofun⟩, .none, .none⟩
  case annotations => exact denotes_annotations rfl
  case manifests =>
    refine .keywords rfl ⟨⟨rfl, rfl, rfl, rfl, rfl, rfl, rfl, rfl, rfl, rfl⟩,
      ⟨[], rfl, rfl, nofun⟩, .none, .some ?_⟩
    refine .keywords rfl ⟨⟨rfl, rfl, rfl, rfl, rfl, rfl, rfl, rfl, rfl, rfl⟩, ⟨_, rfl, rfl, ?_⟩,
      .none, .none⟩
    refine .declare (denotes_mediaType hm rfl) (.declare (denotes_int64 rfl)
      (.declare (denotes_digest hd rfl) (.declare (denotes_urls rfl)
        (.declare (denotes_annotations rfl) (.declare ?_ nofun)))))
    refine .keywords rfl ⟨⟨rfl, rfl, rfl, rfl, rfl, rfl, rfl, rfl, rfl, rfl⟩, ⟨_, rfl, rfl, ?_⟩,
      .none, .none⟩
    exact .declare denotes_text (.declare denotes_text (.declare denotes_text
      (.declare (denotes_stringArray rfl) (.declare denotes_text
        (.declare (denotes_stringArray rfl) nofun)))))

/-! ## What the schema accepts -/

theorem platform_accepts {d : Document} : platform.accepts d = true ↔ d.IsPlatform := by
  rw [platform, ofProperties_accepts]
  simp only [List.forall_mem_cons, ofKind_string_accepts, stringArray_accepts]
  constructor
  · intro h
    obtain ⟨entries, rfl, ⟨ka, ko, -⟩, ha, ho, hv, hof, hva, hf, -⟩ := h
    exact ⟨Document.has_iff.mpr ⟨ka, ha⟩, Document.has_iff.mpr ⟨ko, ho⟩, hv, hof, hva, hf⟩
  · intro h
    obtain ⟨entries, rfl⟩ := h.architecture.isObject
    obtain ⟨ka, ha⟩ := Document.has_iff.mp h.architecture
    obtain ⟨ko, ho⟩ := Document.has_iff.mp h.os
    exact ⟨entries, rfl, ⟨ka, ko, nofun⟩, ha, ho, h.osVersion, h.osFeatures, h.variant, h.features,
      nofun⟩

variable {listType mediaType digest : Pattern}

theorem manifestReference_accepts (hm : Pattern.compile mediaTypeSource = .ok mediaType)
    (hd : Pattern.compile digestSource = .ok digest) {d : Document} (hn : d.NumbersLiteral) :
    (manifestReference mediaType digest).accepts d = true ↔ d.IsManifestReference := by
  have size : (d.MayHave "size" fun v => int64.accepts v = true) ↔
      d.MayHave "size" (Document.IsIntegerIn (-2 ^ 63) (2 ^ 63 - 1)) :=
    Document.mayHave_congr fun v hv => int64_accepts (hn.get? hv)
  rw [manifestReference, ofProperties_accepts]
  simp only [List.forall_mem_cons, ofPattern_accepts hm, ofPattern_accepts hd, stringArray_accepts,
    stringMap_accepts, platform_accepts, size]
  constructor
  · intro h
    obtain ⟨entries, rfl, ⟨km, ks, kd, kp, -⟩, hmt, hs, hdg, hu, ha, hp, -⟩ := h
    exact ⟨Document.has_iff.mpr ⟨km, hmt⟩, Document.has_iff.mpr ⟨ks, hs⟩,
      Document.has_iff.mpr ⟨kd, hdg⟩, Document.has_iff.mpr ⟨kp, hp⟩, hu, ha⟩
  · intro h
    obtain ⟨entries, rfl⟩ := h.mediaType.isObject
    obtain ⟨km, hmt⟩ := Document.has_iff.mp h.mediaType
    obtain ⟨ks, hs⟩ := Document.has_iff.mp h.size
    obtain ⟨kd, hdg⟩ := Document.has_iff.mp h.digest
    obtain ⟨kp, hp⟩ := Document.has_iff.mp h.platform
    exact ⟨entries, rfl, ⟨km, ks, kd, kp, nofun⟩, hmt, hs, hdg, h.urls, h.annotations, hp, nofun⟩

theorem manifestList_accepts (hl : Pattern.compile manifestListSource = .ok listType)
    (hm : Pattern.compile mediaTypeSource = .ok mediaType)
    (hd : Pattern.compile digestSource = .ok digest) {d : Document} (hn : d.NumbersLiteral) :
    (manifestListSchema listType mediaType digest).accepts d = true ↔ d.IsManifestList := by
  have version : (d.MayHave "schemaVersion" fun v => (ofBounds ⟨"2"⟩ ⟨"2"⟩).accepts v = true) ↔
      d.MayHave "schemaVersion" (Document.IsIntegerIn 2 2) :=
    Document.mayHave_congr fun v hv => version_accepts (hn.get? hv)
  have manifests : (d.MayHave "manifests" fun v =>
      (listOf (manifestReference mediaType digest)).accepts v = true) ↔
      d.MayHave "manifests" (Document.IsListOf Document.IsManifestReference) :=
    Document.mayHave_congr fun v hv => by
      rw [listOf_accepts]
      refine exists_congr fun elements => and_congr_right fun he => ?_
      subst he
      exact forall₂_congr fun e he => manifestReference_accepts hm hd ((hn.get? hv).element he)
  rw [manifestListSchema, ofProperties_accepts]
  simp only [List.forall_mem_cons, ofPattern_accepts hl, stringMap_accepts, version, manifests]
  constructor
  · intro h
    obtain ⟨entries, rfl, ⟨kv, kt, km, -⟩, hv, ht, hms, ha, -⟩ := h
    exact ⟨Document.has_iff.mpr ⟨kv, hv⟩, Document.has_iff.mpr ⟨kt, ht⟩,
      Document.has_iff.mpr ⟨km, hms⟩, ha⟩
  · intro h
    obtain ⟨entries, rfl⟩ := h.schemaVersion.isObject
    obtain ⟨kv, hv⟩ := Document.has_iff.mp h.schemaVersion
    obtain ⟨kt, ht⟩ := Document.has_iff.mp h.mediaType
    obtain ⟨km, hms⟩ := Document.has_iff.mp h.manifests
    exact ⟨entries, rfl, ⟨kv, kt, km, nofun⟩, hv, ht, hms, h.annotations, nofun⟩

/-- The pattern is a row of characters between anchors: those of the media type itself. -/
theorem manifestListPattern_fixed : (Pattern.compile manifestListSource).toOption.map Pattern.expr =
    some (.whole (.fixed MediaType.manifestList.identifier.toList)) := by
  decide +kernel

theorem exists_manifestListPattern : ∃ p, Pattern.compile manifestListSource = .ok p := by
  obtain ⟨p, hp, -⟩ := exists_ok_of_map manifestListPattern_fixed
  exact ⟨p, hp⟩

/-- **What a valid manifest list is.**  There is a registry of the built-in schemas, and it finds a
loaded document to be a valid manifest list exactly if the document is of the shape of one. -/
theorem validate_manifestList_iff {l : Loader} {bytes : List UInt8} {d : Document}
    (hd : l.load bytes = .ok d) :
    ∃ r, Registry.builtin = .ok r ∧
      (r.validate MediaType.manifestList.identifier d = .ok () ↔ d.IsManifestList) := by
  obtain ⟨listType, hl⟩ := exists_manifestListPattern
  obtain ⟨mediaType, hm⟩ := exists_mediaTypePattern
  obtain ⟨digest, hg⟩ := exists_digestPattern
  obtain ⟨r, hr⟩ := exists_builtin
  refine ⟨r, hr, ?_⟩
  have hs := lookup_of_denotes (m := .manifestList) hr rfl (denotes_manifestList hl hm hg)
  rw [Registry.validate_eq_ok_iff hs]
  exact manifestList_accepts hl hm hg (Document.numbersLiteral_of_load hd)

/-- A manifest list with one manifest. -/
def singleList : Document :=
  .object [
    ("schemaVersion", .number ⟨"2"⟩),
    ("mediaType", .string "application/vnd.oci.image.manifest.list.v1+json"),
    ("manifests", .array [.object [
      ("mediaType", .string "application/vnd.oci.image.manifest.v1+json"),
      ("size", .number ⟨"7143"⟩),
      ("digest", .string "sha256:e692418e"),
      ("platform", .object [("architecture", .string "ppc64le"), ("os", .string "linux")])]])]

theorem matches_manifestListSource :
    (Document.string MediaType.manifestList.identifier).Matches manifestListSource := by
  obtain ⟨p, hp, hexpr⟩ := exists_ok_of_map manifestListPattern_fixed
  exact ⟨_, p, rfl, hp, (Pattern.isMatch_fixed hexpr).mpr rfl⟩

theorem matches_of_any {source value : String}
    (h : (Pattern.compile source).toOption.any (fun p => p.isMatch value) = true) :
    (Document.string value).Matches source := by
  cases hp : Pattern.compile source with
  | error e =>
    rw [hp] at h
    cases h
  | ok p =>
    rw [hp] at h
    exact ⟨value, p, rfl, hp, h⟩

theorem singleList_isManifestList : singleList.IsManifestList where
  schemaVersion := ⟨_, rfl, ⟨"2"⟩, 2, rfl, by decide, by decide, by decide⟩
  mediaType := ⟨_, rfl, matches_manifestListSource⟩
  manifests := by
    refine ⟨_, rfl, _, rfl, List.forall_mem_singleton.mpr ?_⟩
    exact {
      mediaType := ⟨_, rfl, matches_of_any (by decide +kernel)⟩
      size := ⟨_, rfl, ⟨"7143"⟩, 7143, rfl, by decide, by decide, by decide⟩
      digest := ⟨_, rfl, matches_of_any (by decide +kernel)⟩
      platform := ⟨_, rfl, ⟨_, rfl, _, rfl⟩, ⟨_, rfl, _, rfl⟩, nofun, nofun, nofun, nofun⟩
      urls := nofun
      annotations := nofun }
  annotations := nofun

theorem faithful_singleList : singleList.Faithful := by
  have version : (⟨"2"⟩ : Number).IsLiteral := Number.isLiteral_of_read (by decide +kernel)
  have size : (⟨"7143"⟩ : Number).IsLiteral := Number.isLiteral_of_read (by decide +kernel)
  refine .object (by decide) (by decide) ?_
  simp only [List.forall_mem_cons]
  refine ⟨.number version, .string _, .array (List.forall_mem_singleton.mpr ?_),
    List.forall_mem_nil _⟩
  refine .object (by decide) (by decide) ?_
  simp only [List.forall_mem_cons]
  refine ⟨.string _, .number size, .string _, .object (by decide) (by decide) ?_,
    List.forall_mem_nil _⟩
  simp only [List.forall_mem_cons]
  exact ⟨.string _, .string _, List.forall_mem_nil _⟩

theorem load_singleList : ({} : Loader).load (Utf8.encode singleList.render) = .ok singleList :=
  faithful_singleList.load_eq_ok (Document.writtenAs_render faithful_singleList.numbersLiteral)
    (by decide) (by decide)

theorem validate_singleList : ∃ r, Registry.builtin = .ok r ∧
    ({} : Loader).load (Utf8.encode singleList.render) = .ok singleList ∧
      r.validate MediaType.manifestList.identifier singleList = .ok () := by
  obtain ⟨r, hr, hvalid⟩ := validate_manifestList_iff load_singleList
  exact ⟨r, hr, load_singleList, hvalid.mpr singleList_isManifestList⟩

end Builtin

end ManifestCheck
