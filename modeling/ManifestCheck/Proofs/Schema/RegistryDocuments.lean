import ManifestCheck.Proofs.Schema.KeywordOrder
import ManifestCheck.Proofs.Schema.RegistryBindings

/-!
# Registries made from texts

A registry is made from texts, one after the other, and then from bindings.  As with bindings, the
last text under a name wins, so that a registry goes by what the last texts are
(`Registry.ofTexts_eq_ok_iff`), and no other order matters.

Compiling a document looks at no other documents but those that references on the way name
(`Library.compile_agree`).
-/

namespace ManifestCheck

/-! ## The library of the last texts -/

/-- The document that a text is. -/
def Document.ofText? (text : String) : Option Document := (read (Utf8.encode text)).toOption

theorem Document.isSome_ofText? {text : String} :
    (ofText? text).isSome = true ↔ ∃ d, read (Utf8.encode text) = .ok d :=
  isSome_toOption_iff

namespace Library

variable {lib lib' : Library} {texts : List (String × String)} {name other : String}

/-- The library that holds, for each name, the document that its last text is. -/
def ofLast (texts : List (String × String)) : Library :=
  ⟨(Entries.keys texts).eraseDups.filterMap fun name =>
    ((texts.reverse.lookup name).bind Document.ofText?).map fun d => (name, d)⟩

theorem lookup_filterMap {α : Type} (f : String → Option α) (names : List String) (key : String) :
    (names.filterMap fun name => (f name).map fun v => (name, v)).lookup key =
      if key ∈ names then f key else none := by
  induction names with
  | nil => rfl
  | cons name rest ih =>
    rw [List.filterMap_cons]
    by_cases hk : key = name
    · subst hk
      rw [if_pos List.mem_cons_self]
      cases hf : f key with
      | none =>
        refine ih.trans ?_
        split
        · exact hf
        · rfl
      | some v => exact List.lookup_cons_self
    · have hmem : key ∈ name :: rest ↔ key ∈ rest :=
        List.mem_cons.trans (or_iff_right hk)
      simp only [hmem, ← ih]
      cases f name with
      | none => rfl
      | some v => exact (Entries.lookup_cons ..).trans (if_neg hk)

theorem lookup_ofLast (texts : List (String × String)) (key : String) :
    (ofLast texts).documents.lookup key = (texts.reverse.lookup key).bind Document.ofText? := by
  rw [ofLast, lookup_filterMap (fun name => (texts.reverse.lookup name).bind Document.ofText?)]
  split
  · rfl
  · rename_i hmem
    rw [List.mem_eraseDups] at hmem
    have hnone : texts.reverse.lookup key = none := by
      rw [Entries.lookup_eq_none_iff_not_mem_keys, Entries.keys, List.map_reverse, List.mem_reverse]
      exact hmem
    rw [hnone]
    rfl

theorem keysDistinct_ofLast (texts : List (String × String)) : (ofLast texts).KeysDistinct := by
  intro e he
  obtain ⟨name, -, he⟩ := List.mem_filterMap.mp he
  obtain ⟨d, hd, rfl⟩ := Option.map_eq_some_iff.mp he
  obtain ⟨text, -, htext⟩ := Option.bind_eq_some_iff.mp hd
  exact Document.keysDistinct_of_read (eq_ok_of_toOption htext)

/-- Adding a text adds the document that it is. -/
theorem addText_ok {t : String × String} (h : lib.addText t.1 t.2 = .ok lib') :
    ∃ d, Document.ofText? t.2 = some d ∧
      ∀ key, lib'.documents.lookup key = if key = t.1 then some d else lib.documents.lookup key := by
  unfold addText at h
  cases hread : Document.read (Utf8.encode t.2) with
  | error e =>
    rw [hread] at h
    cases h
  | ok d =>
    rw [hread] at h
    cases h
    refine ⟨d, ?_, fun key => Entries.lookup_insert ..⟩
    rw [Document.ofText?, hread]
    rfl

theorem exists_addText (lib : Library) (t : String × String)
    (h : (Document.ofText? t.2).isSome = true) : ∃ lib', lib.addText t.1 t.2 = .ok lib' := by
  obtain ⟨d, hd⟩ := Document.isSome_ofText?.mp h
  refine ⟨lib.add t.1 d, ?_⟩
  rw [addText, hd]

/-- A library is made if all texts can be read, and then it holds the last ones. -/
theorem ofTexts_ok (h : ofTexts texts = .ok lib) :
    (∀ t ∈ texts, (Document.ofText? t.2).isSome = true) ∧
      ∀ key, lib.documents.lookup key = (ofLast texts).documents.lookup key := by
  obtain ⟨hall, hlookup⟩ := foldlM_last Document.ofText?
    (fun lib key => lib.documents.lookup key) (fun _ _ _ => addText_ok) h
  refine ⟨hall, fun key => ?_⟩
  rw [lookup_ofLast, hlookup]
  exact Option.or_none

theorem exists_ofTexts (h : ∀ t ∈ texts, (Document.ofText? t.2).isSome = true) :
    ∃ lib, ofTexts texts = .ok lib :=
  foldlM_exists (fun t ht lib => exists_addText lib t (h t ht)) {}

/-! ## The documents that compilation looks at -/

/-- While the document of a name is compiled, a reference comes up that names another document. -/
def Names (lib : Library) (name other : String) : Prop :=
  ∃ chain l entries reference, lib.Expands name chain l (.object entries) ∧
    entries.lookup "$ref" = some (.string reference) ∧ (l.target reference).document = other

theorem find?_congr {l : Location}
    (h : lib.documents.lookup l.document = lib'.documents.lookup l.document) :
    lib.find? l = lib'.find? l := by
  rw [find?, find?, h]

section Agree

variable (hlookup : ∀ n, n ≠ other → lib.documents.lookup n = lib'.documents.lookup n)
  (hname : name ≠ other) (hrefs : ¬lib.Names name other)

include hname hrefs

/-- A document that no reference names is not come by. -/
theorem Expands.document_ne {chain : List Location} {l : Location} {d : Document}
    (hx : lib.Expands name chain l d) : l.document ≠ other := by
  induction hx with
  | root => exact hname
  | inside _ _ hi ih => exact hi.document ▸ ih
  | reference hx hr _ _ _ => exact fun h => hrefs ⟨_, _, _, _, hx, hr, h⟩

include hlookup

/-- Where two libraries agree on all other documents, compilation comes by the same places. -/
theorem Expands.agree {chain : List Location} {l : Location} {d : Document}
    (hx : lib'.Expands name chain l d) : lib.Expands name chain l d := by
  induction hx with
  | root hroot => exact .root ((hlookup _ hname).trans hroot)
  | inside _ hr hi ih => exact ih.inside hr hi
  | reference _ hr hf hn ih =>
    have hdocument := fun h => hrefs ⟨_, _, _, _, ih, hr, h⟩
    exact ih.reference hr ((find?_congr (hlookup _ hdocument)).trans hf) hn

/-- **Compilation looks at no document that no reference names.** -/
theorem compile_agree (hlib : lib.KeysDistinct) (hlib' : lib'.KeysDistinct) :
    (lib.compile name).toOption = (lib'.compile name).toOption := by
  refine toOption_congr fun s => ⟨fun hs => ?_, fun hs => ?_⟩
  · refine compile_of_found hlib hlib' (fun chain l d hx => ?_) hs
    exact (find?_congr (hlookup _ (hx.document_ne hname hrefs))).symm.trans (hx.find?_eq_some hlib)
  · exact compile_of_found hlib' hlib
      (fun chain l d hx => (Expands.agree hlookup hname hrefs hx).find?_eq_some hlib) hs

end Agree

/-- Compilation does not depend on how a library is kept. -/
theorem compile_congr (hlib : lib.KeysDistinct) (hlib' : lib'.KeysDistinct)
    (h : ∀ n, lib.documents.lookup n = lib'.documents.lookup n) (name : String) :
    (lib.compile name).toOption = (lib'.compile name).toOption :=
  toOption_congr fun _ =>
    ⟨compile_of_found hlib hlib' fun _ _ _ hx =>
      (find?_congr (h _)).symm.trans (hx.find?_eq_some hlib),
    compile_of_found hlib' hlib fun _ _ _ hx => (find?_congr (h _)).trans (hx.find?_eq_some hlib')⟩

end Library

/-! ## Registries -/

/-- Where keys are distinct, the last entry under a key is the only one, in any order. -/
theorem Entries.lookup_reverse_perm {α : Type} {entries moved : List (String × α)}
    (h : entries.Perm moved) (hn : (keys entries).Nodup) (key : String) :
    entries.reverse.lookup key = moved.reverse.lookup key := by
  refine lookup_perm (entries.reverse_perm.trans (h.trans moved.reverse_perm.symm)) ?_ key
  rw [keys, List.map_reverse]
  exact List.nodup_reverse.mpr hn

namespace Registry

variable {lib lib' : Library} {texts bindings bindings' : List (String × String)} {r r' : Registry}

/-- The order of bindings does not matter if no media type is bound twice. -/
theorem ofLibrary_perm (hp : bindings.Perm bindings') (hn : (Entries.keys bindings).Nodup) :
    (ofLibrary lib bindings).toOption = (ofLibrary lib bindings').toOption := by
  have hlookup : ∀ m, bindings.reverse.lookup m = bindings'.reverse.lookup m := fun m =>
    Entries.lookup_reverse_perm hp hn m
  refine toOption_congr fun r => ?_
  rw [ofLibrary_eq_ok_iff, ofLibrary_eq_ok_iff]
  refine and_congr (forall_congr' fun b => by rw [hp.mem_iff]) ⟨fun h => ?_, fun h => ?_⟩
  · exact ⟨h.loader, h.ascending, fun m => by rw [h.lookup, hlookup]⟩
  · exact ⟨h.loader, h.ascending, fun m => by rw [h.lookup, hlookup]⟩

/-- A registry is made from texts if all can be read, and goes by the last ones. -/
theorem ofTexts_eq_ok_iff : ofTexts texts bindings = .ok r ↔
    (∀ t ∈ texts, (Document.ofText? t.2).isSome = true) ∧
      ofLibrary (Library.ofLast texts) bindings = .ok r := by
  have same : ∀ {lib}, Library.ofTexts texts = .ok lib →
      (ofLibrary lib bindings).toOption = (ofLibrary (Library.ofLast texts) bindings).toOption :=
    fun hlib => ofLibrary_congr fun b _ => Library.compile_congr (Library.keysDistinct_ofTexts hlib)
      (Library.keysDistinct_ofLast texts) (Library.ofTexts_ok hlib).2 b.2
  constructor
  · intro h
    unfold ofTexts at h
    split at h
    · cases h
    · rename_i lib hlib
      refine ⟨(Library.ofTexts_ok hlib).1, eq_ok_of_toOption ?_⟩
      rw [← same hlib, h]
      rfl
  · intro h
    obtain ⟨hall, hr⟩ := h
    obtain ⟨lib, hlib⟩ := Library.exists_ofTexts hall
    refine eq_ok_of_toOption ?_
    rw [ofTexts, hlib]
    exact (same hlib).trans (by rw [hr]; rfl)

theorem exists_ofTexts_iff : (∃ r, ofTexts texts bindings = .ok r) ↔
    (∀ t ∈ texts, (Document.ofText? t.2).isSome = true) ∧
      ∀ b ∈ bindings, ((Library.ofLast texts).compile b.2).toOption.isSome = true := by
  constructor
  · intro h
    obtain ⟨r, hr⟩ := h
    obtain ⟨hall, hr⟩ := ofTexts_eq_ok_iff.mp hr
    exact ⟨hall, (ofLibrary_ok hr).1⟩
  · intro h
    obtain ⟨r, hr⟩ := exists_ofLibrary h.2
    exact ⟨r, ofTexts_eq_ok_iff.mpr ⟨h.1, hr⟩⟩

/-- Texts that are as readable as others, and from which the bound names compile alike. -/
theorem ofTexts_congr {texts' : List (String × String)}
    (hall : (∀ t ∈ texts, (Document.ofText? t.2).isSome = true) ↔
      ∀ t ∈ texts', (Document.ofText? t.2).isSome = true)
    (h : ∀ b ∈ bindings, ((Library.ofLast texts).compile b.2).toOption =
      ((Library.ofLast texts').compile b.2).toOption) :
    (ofTexts texts bindings).toOption = (ofTexts texts' bindings).toOption := by
  refine toOption_congr fun r => ?_
  rw [ofTexts_eq_ok_iff, ofTexts_eq_ok_iff, hall, ← toOption_eq_some_iff, ← toOption_eq_some_iff,
    ofLibrary_congr h]

/-- The order of texts does not matter if no name comes twice. -/
theorem ofTexts_perm {texts' : List (String × String)} (hp : texts.Perm texts')
    (hn : (Entries.keys texts).Nodup) :
    (ofTexts texts bindings).toOption = (ofTexts texts' bindings).toOption := by
  refine ofTexts_congr (forall_congr' fun t => by rw [hp.mem_iff]) fun b _ => ?_
  refine Library.compile_congr (Library.keysDistinct_ofLast _) (Library.keysDistinct_ofLast _)
    (fun key => ?_) b.2
  rw [Library.lookup_ofLast, Library.lookup_ofLast, Entries.lookup_reverse_perm hp hn]

/-- A text under a name that is not asked for does not matter. -/
theorem ofTexts_append_cons {before behind : List (String × String)} {name text : String}
    (htext : (Document.ofText? text).isSome = true) (hname : name ∉ bindings.map Prod.snd)
    (hrefs : ∀ b ∈ bindings, ¬(Library.ofLast (before ++ behind)).Names b.2 name) :
    (ofTexts (before ++ behind) bindings).toOption =
      (ofTexts (before ++ (name, text) :: behind) bindings).toOption := by
  refine ofTexts_congr ?_ fun b hb => ?_
  · rw [List.forall_mem_append, List.forall_mem_append, List.forall_mem_cons, and_iff_right htext]
  · have hbound : b.2 ≠ name := fun he => hname (List.mem_map.mpr ⟨b, hb, he⟩)
    refine Library.compile_agree (fun key hkey => ?_) hbound (hrefs b hb)
      (Library.keysDistinct_ofLast _) (Library.keysDistinct_ofLast _)
    rw [Library.lookup_ofLast, Library.lookup_ofLast, List.reverse_append, List.reverse_append,
      List.reverse_cons, List.append_assoc, List.singleton_append, Entries.lookup_append_cons hkey]

/-- **What a registry made from texts is.**  It is made exactly if all texts can be read and every
bound name compiles in the library that holds, for each name, its last text.  It then has the media
types of the bindings, in strictly ascending order, each with what the last name bound to it compiles
to.  Neither the outcome nor the registry depends on the order of texts with distinct names, on the
order of bindings of distinct media types, or on a further text that can be read, if its name is not
bound and no reference that comes up while a bound document is compiled names it. -/
theorem ofTexts_determined (texts bindings : List (String × String)) :
    ((∃ r, ofTexts texts bindings = .ok r) ↔
      (∀ t ∈ texts, ∃ d, Document.read (Utf8.encode t.2) = .ok d) ∧
        ∀ b ∈ bindings, ∃ s, (Library.ofLast texts).compile b.2 = .ok s) ∧
    (∀ r, ofTexts texts bindings = .ok r → r.mediaTypes.Pairwise (· < ·) ∧
      (∀ m, m ∈ r.mediaTypes ↔ m ∈ Entries.keys bindings) ∧
        ∀ m name, bindings.reverse.lookup m = some name →
          r.schema m = (Library.ofLast texts).compile name) ∧
    (∀ texts', texts.Perm texts' → (Entries.keys texts).Nodup →
      (ofTexts texts bindings).toOption = (ofTexts texts' bindings).toOption) ∧
    (∀ bindings', bindings.Perm bindings' → (Entries.keys bindings).Nodup →
      (ofTexts texts bindings).toOption = (ofTexts texts bindings').toOption) ∧
    ∀ before behind name text d, texts = before ++ behind →
      Document.read (Utf8.encode text) = .ok d → name ∉ bindings.map Prod.snd →
      (∀ b ∈ bindings, ¬(Library.ofLast texts).Names b.2 name) →
        (ofTexts texts bindings).toOption =
          (ofTexts (before ++ (name, text) :: behind) bindings).toOption := by
  refine ⟨?_, fun r hr => ?_, fun texts' hp hn => ofTexts_perm hp hn, fun bindings' hp hn => ?_, ?_⟩
  · rw [exists_ofTexts_iff]
    exact and_congr (forall₂_congr fun _ _ => Document.isSome_ofText?)
      (forall₂_congr fun _ _ => isSome_toOption_iff)
  · obtain ⟨hall, hbinds⟩ := ofLibrary_ok (ofTexts_eq_ok_iff.mp hr).2
    exact ⟨hbinds.ascending, hbinds.mem_mediaTypes hall, fun m name => hbinds.schema_eq hall⟩
  · refine toOption_congr fun r => ?_
    rw [ofTexts_eq_ok_iff, ofTexts_eq_ok_iff, ← toOption_eq_some_iff, ← toOption_eq_some_iff,
      ofLibrary_perm hp hn]
  · rintro before behind name text d rfl htext hname hrefs
    exact ofTexts_append_cons (Document.isSome_ofText?.mpr ⟨d, htext⟩) hname hrefs

/-- Two texts, where the first one refers to the second. -/
def linked : List (String × String) := [("a", "\x7b\"$ref\":\"b\"\x7d"), ("b", "true")]

theorem lookup_linked :
    (Library.ofLast linked).documents.lookup "a" = some (.object [("$ref", .string "b")]) ∧
      (Library.ofLast linked).documents.lookup "b" = some (.bool true) := by
  have readable : ∀ {d : Document} {text : String}, d.Faithful → text = d.render →
      d.nesting ≤ maxOpenContainers → Document.ofText? text = some d := by
    rintro d text hd rfl hn
    exact toOption_eq_some_iff.mpr ((Document.writtenAs_render hd.numbersLiteral).read_eq_ok_iff.mpr
      ⟨⟨hd.readable, hn⟩, hd.kept_eq.symm⟩)
  rw [Library.lookup_ofLast, Library.lookup_ofLast]
  exact ⟨readable (.object (by decide) (by decide) (by simpa using .string "b")) (by decide) (by decide),
    readable (.bool true) (by decide) (by decide)⟩

/-- The only reference names the second one. -/
theorem names_linked {name other : String} (hname : name = "a" ∨ name = "b")
    (h : (Library.ofLast linked).Names name other) : other = "b" := by
  obtain ⟨ha, hb⟩ := lookup_linked
  have target : ∀ l : Location, l.target "b" = ⟨"b", ""⟩ := fun _ =>
    @Library.target_of_split _ _ ['b'] _ (by decide) (.inr ⟨rfl, rfl⟩)
  have values : ∀ {chain l d}, (Library.ofLast linked).Expands name chain l d →
      d = .object [("$ref", .string "b")] ∨ d = .bool true := by
    intro chain l d hx
    induction hx with
    | root hroot =>
      rcases hname with rfl | rfl
      · exact .inl (Option.some.inj (hroot.symm.trans ha))
      · exact .inr (Option.some.inj (hroot.symm.trans hb))
    | inside _ hr hi ih =>
      rcases ih with hd | hd
      · cases hd
        cases hr
      · cases hd
    | reference _ hr hf _ ih =>
      rcases ih with hd | hd
      · cases hd
        cases hr
        rw [target] at hf
        exact .inr (Option.some.inj (hf.symm.trans (Library.find?_root hb)))
      · cases hd
  obtain ⟨chain, l, entries, reference, hx, hr, rfl⟩ := h
  rcases values hx with hd | hd
  · cases hd
    cases hr
    rw [target]
  · cases hd

/-- Two documents and two media types, in either order, and with a third document that nothing
needs. -/
theorem ofTexts_determined_linked : ∃ r, ofTexts linked [("y", "a"), ("x", "b")] = .ok r ∧
    r.mediaTypes.Pairwise (· < ·) ∧ (∀ m, m ∈ r.mediaTypes ↔ m ∈ ["y", "x"]) ∧
    r.schema "y" = (Library.ofLast linked).compile "a" ∧
    ofTexts linked.reverse [("y", "a"), ("x", "b")] = .ok r ∧
    ofTexts linked [("x", "b"), ("y", "a")] = .ok r ∧
    ofTexts (linked ++ [("c", "null")]) [("y", "a"), ("x", "b")] = .ok r := by
  obtain ⟨hmade, hmakes, htexts, hbindings, hadded⟩ :=
    ofTexts_determined linked [("y", "a"), ("x", "b")]
  have hread : ∀ t ∈ linked, ∃ d, Document.read (Utf8.encode t.2) = .ok d := fun t ht =>
    Document.isSome_ofText?.mp (by revert t; decide +kernel)
  have hcompiled : ∀ b ∈ [("y", "a"), ("x", "b")],
      ∃ s, (Library.ofLast linked).compile b.2 = .ok s := fun b hm =>
    isSome_toOption_iff.mp (by revert b; decide +kernel)
  obtain ⟨r, hr⟩ := hmade.mpr ⟨hread, hcompiled⟩
  obtain ⟨hascending, hmem, hschema⟩ := hmakes r hr
  have hnull : ∃ d, Document.read (Utf8.encode "null") = .ok d :=
    isSome_toOption_iff.mp (by decide +kernel)
  obtain ⟨d, hnull⟩ := hnull
  have same : ∀ {x : Except SchemaError Registry},
      (ofTexts linked [("y", "a"), ("x", "b")]).toOption = x.toOption → x = .ok r := fun h => by
    rw [hr] at h
    exact eq_ok_of_toOption h.symm
  refine ⟨r, hr, hascending, hmem, hschema "y" "a" rfl, same ?_, same ?_, same ?_⟩
  · exact htexts _ linked.reverse_perm.symm (by decide)
  · exact hbindings _ (.swap _ _ _) (by decide)
  · have hbound : ∀ b ∈ [("y", "a"), ("x", "b")], b.2 = "a" ∨ b.2 = "b" := by decide
    exact hadded linked [] "c" "null" d (List.append_nil _).symm hnull (by decide)
      fun b hb hnames => absurd (names_linked (hbound b hb) hnames) (by decide)

end Registry

end ManifestCheck
