import ManifestCheck.Proofs.Builtin.ManifestListShape
import ManifestCheck.Proofs.Builtin.ManifestShape
import ManifestCheck.Proofs.Schema.IgnoredKeys
import ManifestCheck.Proofs.Schema.ValidationOutcomes

/-!
# Objects in built-in documents are open

A valid document of one of the built-in media types may hold whatever else its author likes.  The
schemas ignore every key that they do not declare, except in the maps of annotations
(`isOpen_of_lookup`), so that an entry under another key changes neither whether a document is valid
nor anything that is reported on it (`violations_addEntry`).
-/

namespace ManifestCheck

namespace Builtin

open Schema Library

/-! ## The schema for layouts -/

/-- The schema for the header of a layout, whose version is one of a list of texts. -/
def layoutSchema : Schema :=
  ofProperties ["imageLayoutVersion"] [
    ("imageLayoutVersion",
      node { types := some (TypeSet.ofList [.string]), enumeration := some [.string "1.0.0"] }
        [] none none)]

theorem denotes_layout :
    library.Denotes "image-layout-schema.json" imageLayout layoutSchema := by
  refine .keywords rfl ⟨⟨rfl, rfl, rfl, rfl, rfl, rfl, rfl, rfl, rfl, rfl⟩, ⟨_, rfl, rfl, ?_⟩,
    .none, .none⟩
  refine .declare ?_ nofun
  exact .keywords rfl ⟨⟨rfl, rfl, rfl, rfl, rfl, rfl, rfl, rfl, rfl, rfl⟩, ⟨[], rfl, rfl, nofun⟩,
    .none, .none⟩

/-! ## Open schemas -/

theorem isOpen_scalar {c : Checks}
    (hlist : c.enumeration = none ∨ c.types = some (TypeSet.ofList [.string]))
    (hrequired : c.required = []) : (node c [] none none).Everywhere IsOpen :=
  everywhere_isOpen hlist (by rw [hrequired]; exact nofun) nofun nofun nofun

theorem isOpen_list {c : Checks} {each : Schema} (hlist : c.enumeration = none)
    (hrequired : c.required = []) (h : each.Everywhere IsOpen) (hnone : each.additional = none) :
    (node c [] none (some each)).Everywhere IsOpen :=
  everywhere_isOpen (.inl hlist) (by rw [hrequired]; exact nofun) nofun nofun fun _ ht => by
    cases ht
    exact ⟨h, hnone⟩

theorem isOpen_properties {required : List String} {properties : List (String × Schema)}
    (hrequired : ∀ name ∈ required, name ∈ Entries.keys properties)
    (h : ∀ q ∈ properties, q.2.Everywhere IsOpen ∧ (q.2.additional = none ∨ q.1 = "annotations")) :
    (ofProperties required properties).Everywhere IsOpen :=
  everywhere_isOpen (.inl rfl) hrequired h nofun nofun

theorem isOpen_text : (ofKind .string).Everywhere IsOpen := isOpen_scalar (.inl rfl) rfl

theorem isOpen_stringArray : stringArray.Everywhere IsOpen := isOpen_list rfl rfl isOpen_text rfl

theorem isOpen_stringMap : stringMap.Everywhere IsOpen :=
  everywhere_isOpen (.inl rfl) nofun nofun (fun _ ht => by
    cases ht
    exact ⟨isOpen_text, rfl⟩) nofun

section Open

variable (manifestType listType mediaType digest : Pattern)

theorem isOpen_descriptor : (descriptorSchema mediaType digest).Everywhere IsOpen := by
  refine isOpen_properties (by simp [Entries.keys]) ?_
  simp only [List.forall_mem_cons]
  exact ⟨⟨isOpen_scalar (.inl rfl) rfl, .inl rfl⟩, ⟨isOpen_scalar (.inl rfl) rfl, .inl rfl⟩,
    ⟨isOpen_scalar (.inl rfl) rfl, .inl rfl⟩, ⟨isOpen_stringArray, .inl rfl⟩,
    ⟨isOpen_stringMap, .inr trivial⟩, List.forall_mem_nil _⟩

theorem isOpen_manifest :
    (manifestSchema manifestType (descriptorSchema mediaType digest)).Everywhere IsOpen := by
  have described := isOpen_descriptor mediaType digest
  refine isOpen_properties (by simp [Entries.keys]) ?_
  simp only [List.forall_mem_cons]
  exact ⟨⟨isOpen_scalar (.inl rfl) rfl, .inl rfl⟩, ⟨isOpen_scalar (.inl rfl) rfl, .inl rfl⟩,
    ⟨described, .inl rfl⟩, ⟨isOpen_list rfl rfl described rfl, .inl rfl⟩,
    ⟨isOpen_stringMap, .inr trivial⟩, List.forall_mem_nil _⟩

theorem isOpen_platform : platform.Everywhere IsOpen := by
  refine isOpen_properties (by simp [Entries.keys]) ?_
  simp only [List.forall_mem_cons]
  exact ⟨⟨isOpen_text, .inl rfl⟩, ⟨isOpen_text, .inl rfl⟩, ⟨isOpen_text, .inl rfl⟩,
    ⟨isOpen_stringArray, .inl rfl⟩, ⟨isOpen_text, .inl rfl⟩, ⟨isOpen_stringArray, .inl rfl⟩,
    List.forall_mem_nil _⟩

theorem isOpen_manifestReference : (manifestReference mediaType digest).Everywhere IsOpen := by
  refine isOpen_properties (by simp [Entries.keys]) ?_
  simp only [List.forall_mem_cons]
  exact ⟨⟨isOpen_scalar (.inl rfl) rfl, .inl rfl⟩, ⟨isOpen_scalar (.inl rfl) rfl, .inl rfl⟩,
    ⟨isOpen_scalar (.inl rfl) rfl, .inl rfl⟩, ⟨isOpen_stringArray, .inl rfl⟩,
    ⟨isOpen_stringMap, .inr trivial⟩, ⟨isOpen_platform, .inl rfl⟩, List.forall_mem_nil _⟩

theorem isOpen_manifestList :
    (manifestListSchema listType mediaType digest).Everywhere IsOpen := by
  refine isOpen_properties (by simp [Entries.keys]) ?_
  simp only [List.forall_mem_cons]
  exact ⟨⟨isOpen_scalar (.inl rfl) rfl, .inl rfl⟩, ⟨isOpen_scalar (.inl rfl) rfl, .inl rfl⟩,
    ⟨isOpen_list rfl rfl (isOpen_manifestReference mediaType digest) rfl, .inl rfl⟩,
    ⟨isOpen_stringMap, .inr trivial⟩, List.forall_mem_nil _⟩

theorem isOpen_layout : layoutSchema.Everywhere IsOpen := by
  refine isOpen_properties (by simp [Entries.keys]) ?_
  simp only [List.forall_mem_cons]
  exact ⟨⟨isOpen_scalar (.inr rfl) rfl, .inl rfl⟩, List.forall_mem_nil _⟩

end Open

/-- Every built-in schema is open throughout, and has no schema for other keys at its root. -/
theorem isOpen_of_lookup {r : Registry} (hr : Registry.builtin = .ok r) {m : MediaType} {s : Schema}
    (hs : r.schemas.lookup m.identifier = some s) :
    s.Everywhere IsOpen ∧ s.additional = none := by
  obtain ⟨listType, hl⟩ := exists_manifestListPattern
  obtain ⟨manifestType, hi⟩ := exists_manifestPattern
  obtain ⟨mediaType, hm⟩ := exists_mediaTypePattern
  obtain ⟨digest, hg⟩ := exists_digestPattern
  cases m with
  | descriptor =>
    cases hs.symm.trans (lookup_of_denotes hr rfl (denotes_descriptor hm hg _))
    exact ⟨isOpen_descriptor mediaType digest, rfl⟩
  | manifest =>
    cases hs.symm.trans (lookup_of_denotes hr rfl (denotes_manifest hi hm hg))
    exact ⟨isOpen_manifest manifestType mediaType digest, rfl⟩
  | manifestList =>
    cases hs.symm.trans (lookup_of_denotes hr rfl (denotes_manifestList hl hm hg))
    exact ⟨isOpen_manifestList listType mediaType digest, rfl⟩
  | imageLayout =>
    cases hs.symm.trans (lookup_of_denotes hr rfl denotes_layout)
    exact ⟨isOpen_layout, rfl⟩

/-- **Entries under other keys make no difference.**  In a loaded document an object is given one
more entry, anywhere among those it has.  If the compiled schema that governs the object, should there
be one, ignores the key, and no list of permitted values governs the object or a value above it, all
that is reported on the document is as before.  With the built-in schemas it is enough that the
governing schema does not declare the key and that the object is no map of annotations: validation
comes to the same result. -/
theorem violations_addEntry {l : Loader} {bytes : List UInt8} {d : Document} {p : Path}
    {before behind : List (String × Document)} (hd : l.load bytes = .ok d)
    (hp : d.at? p = some (.object (before ++ behind))) (key : String) (value : Document) :
    (∀ (lib : Library) (name : String) (s : Schema), lib.KeysDistinct → lib.compile name = .ok s →
      (∀ t, s.governing? p = some t → t.Ignores key) →
      (∀ q t, q <+: p → s.governing? q = some t → t.checks.enumeration = none) →
        s.violations (d.replaceAt p (.object (before ++ (key, value) :: behind))) =
          s.violations d) ∧
      ∃ r, Registry.builtin = .ok r ∧ ∀ (m : MediaType) (s : Schema),
        r.schemas.lookup m.identifier = some s →
        (∀ t, s.governing? p = some t → t.declares key = false) → ¬s.LeadsToAnnotations p →
          r.validate m.identifier (d.replaceAt p (.object (before ++ (key, value) :: behind))) =
            r.validate m.identifier d := by
  have hkeys := Document.keysDistinct_of_load hd
  constructor
  · intro lib name s hlib hs hignored hlist
    obtain ⟨root, -, hroot, hu⟩ := Library.unfolds_of_compile hlib hs
    rw [violations_report, violations_report]
    refine report_addEntry (hu.namesDistinct hlib hroot) hkeys hp (fun t ht => ?_) ?_ value
    · exact ⟨hignored t ht, fun _ => hlist p t (List.prefix_refl p) ht⟩
    · exact fun q _ t hq _ _ ht _ => hlist q t hq ht
  · obtain ⟨r, hr⟩ := exists_builtin
    refine ⟨r, hr, fun m s hs hundeclared hmap => ?_⟩
    obtain ⟨hopen, hroot⟩ := isOpen_of_lookup hr hs
    have hreport : s.violations (d.replaceAt p (.object (before ++ (key, value) :: behind))) =
        s.violations d := by
      rw [violations_report, violations_report]
      refine report_addEntry (namesDistinct_of_lookup hr hs) hkeys hp (fun t ht => ?_)
        (hopen.uncomparedAbove hp) value
      have hignored : t.Ignores key := {
        undeclared := hundeclared t ht
        unrequired := fun hrequired => Bool.false_ne_true
          ((hundeclared t ht).symm.trans ((hopen p t ht).required key hrequired))
        additional := hopen.additional_eq_none hroot ht hmap }
      exact ⟨hignored, (hopen p t ht).uncompared (by decide)⟩
    rw [Registry.validate, Registry.validate, Registry.violations_of_lookup hs,
      Registry.violations_of_lookup hs, hreport]

/-- A manifest list without manifests. -/
def emptyList : Document :=
  .object [
    ("schemaVersion", .number ⟨"2"⟩),
    ("mediaType", .string "application/vnd.oci.image.manifest.list.v1+json"),
    ("manifests", .array [])]

theorem emptyList_isManifestList : emptyList.IsManifestList where
  schemaVersion := ⟨_, rfl, ⟨"2"⟩, 2, rfl, by decide, by decide, by decide⟩
  mediaType := ⟨_, rfl, matches_manifestListSource⟩
  manifests := ⟨_, rfl, [], rfl, nofun⟩
  annotations := nofun

theorem load_emptyList : ({} : Loader).load (Utf8.encode emptyList.render) = .ok emptyList := by
  have version : (⟨"2"⟩ : Number).IsLiteral := Number.isLiteral_of_read (by decide +kernel)
  have hd : emptyList.Faithful := by
    refine .object (by decide) (by decide) ?_
    simp only [List.forall_mem_cons]
    exact ⟨.number version, .string _, .array (List.forall_mem_nil _), List.forall_mem_nil _⟩
  exact hd.load_eq_ok (Document.writtenAs_render hd.numbersLiteral) (by decide) (by decide)

/-- The list with an entry for layers, as only manifests have them.  What it holds is no layers at
all. -/
def layeredList : Document :=
  emptyList.replaceAt [] (.object [
    ("schemaVersion", .number ⟨"2"⟩),
    ("layers", .null),
    ("mediaType", .string "application/vnd.oci.image.manifest.list.v1+json"),
    ("manifests", .array [])])

theorem violations_addEntry_layeredList :
    (∃ s, library.compile "manifest-list-schema.json" = .ok s ∧
      s.violations layeredList = s.violations emptyList) ∧
      ∃ r, Registry.builtin = .ok r ∧
        r.validate MediaType.manifestList.identifier layeredList = .ok () := by
  have hentries : emptyList.at? [] = some (.object ([("schemaVersion", .number ⟨"2"⟩)] ++
      [("mediaType", .string "application/vnd.oci.image.manifest.list.v1+json"),
        ("manifests", .array [])])) := rfl
  obtain ⟨hgeneral, r, hr, hbuiltin⟩ :=
    violations_addEntry load_emptyList hentries "layers" .null
  obtain ⟨listType, hl⟩ := exists_manifestListPattern
  obtain ⟨mediaType, hm⟩ := exists_mediaTypePattern
  obtain ⟨digest, hg⟩ := exists_digestPattern
  have hs := lookup_of_denotes (m := .manifestList) hr rfl (denotes_manifestList hl hm hg)
  obtain ⟨s, hc, hs'⟩ := exists_schema hr .manifestList
  cases hs.symm.trans hs'
  refine ⟨⟨_, hc, hgeneral library _ _ keysDistinct_library hc (fun t ht => ?_) fun q t hq ht => ?_⟩,
    r, hr, ?_⟩
  · cases ht
    exact ⟨rfl, (by decide : "layers" ∉ ["schemaVersion", "mediaType", "manifests"]), rfl⟩
  · cases List.prefix_nil.mp hq
    cases ht
    rfl
  · have hundeclared : ∀ t, (manifestListSchema listType mediaType digest).governing? [] = some t →
        t.declares "layers" = false := fun t ht => by
      cases ht
      rfl
    have hmap : ¬(manifestListSchema listType mediaType digest).LeadsToAnnotations [] := by
      rintro ⟨q, t, hq, -⟩
      exact List.append_ne_nil_of_right_ne_nil q (List.cons_ne_nil _ _) hq.symm
    have hsame := hbuiltin .manifestList _ hs hundeclared hmap
    have hvalid : r.validate MediaType.manifestList.identifier emptyList = .ok () :=
      (Registry.validate_eq_ok_iff hs).mpr ((manifestList_accepts hl hm hg
        (Document.numbersLiteral_of_load load_emptyList)).mpr emptyList_isManifestList)
    exact hsame.trans hvalid

end Builtin

end ManifestCheck
