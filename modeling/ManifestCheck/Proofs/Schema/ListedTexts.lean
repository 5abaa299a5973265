import ManifestCheck.Proofs.Document.AssembledDocuments
import ManifestCheck.Proofs.Document.ComposedTexts
import ManifestCheck.Proofs.Document.Equality
import ManifestCheck.Proofs.Schema.EntryOrder

/-!
# Texts that a schema lists

A schema whose one keyword is `enum` holds the texts of the values that it permits.  The same text
may be loaded as a document by itself, and that goes another way: the loader counts how deep it is
and looks at no key twice, while the listed values are assembled entry by entry.  Both ways end in
one tree, and that tree equals itself, so that the schema accepts what it lists
(`accepts_listed`).
-/

namespace ManifestCheck

/-- A schema text that lists these texts and has no other keyword, whatever blanks are in it and
however the key is spelled. -/
def Lists (schema : String) (texts : List String) : Prop :=
  ∃ trees : List Document,
    List.Forall₂ (fun w t => w.WrittenAs (Utf8.encode t)) trees texts ∧
      (Document.object [("enum", .array trees)]).WrittenAs (Utf8.encode schema)

/-- The plain text that lists these texts. -/
def listText (texts : List String) : String := "\x7b\"enum\":[" ++ ",".intercalate texts ++ "]\x7d"

namespace Utf8

theorem encode_append (s t : String) : encode (s ++ t) = encode s ++ encode t := by
  rw [encode, String.toList_append, List.flatMap_append]
  rfl

theorem encode_intercalate (separator : String) (texts : List String) :
    encode (separator.intercalate texts) = (encode separator).intercalate (texts.map encode) := by
  rw [encode, String.toList_intercalate]
  induction texts with
  | nil => rfl
  | cons t ts ih =>
    cases ts with
    | nil => simp [encode]
    | cons u us =>
      simp only [List.map_cons, List.intercalate_cons_cons, List.flatMap_append] at ih ⊢
      rw [ih]
      rfl

end Utf8

theorem exists_of_forall₂_right {α β : Type} {R : α → β → Prop} {as : List α} {bs : List β}
    (h : List.Forall₂ R as bs) {b : β} (hb : b ∈ bs) : ∃ a ∈ as, R a b := by
  induction h with
  | nil => cases hb
  | cons hd _ ih =>
    rcases List.mem_cons.mp hb with rfl | hb
    · exact ⟨_, List.mem_cons_self, hd⟩
    · obtain ⟨a, ha, hr⟩ := ih hb
      exact ⟨a, List.mem_cons_of_mem _ ha, hr⟩

/-- Texts that each write something are listed by the plain text. -/
theorem lists_listText {texts : List String}
    (h : ∀ t ∈ texts, ∃ w : Document, w.WrittenAs (Utf8.encode t)) :
    Lists (listText texts) texts := by
  have htrees : ∃ trees : List Document,
      List.Forall₂ (fun w t => w.WrittenAs (Utf8.encode t)) trees texts := by
    induction texts with
    | nil => exact ⟨[], .nil⟩
    | cons t ts ih =>
      obtain ⟨⟨w, hw⟩, hts⟩ := List.forall_mem_cons.mp h
      obtain ⟨ws, hws⟩ := ih hts
      exact ⟨w :: ws, .cons hw hws⟩
  obtain ⟨trees, htrees⟩ := htrees
  refine ⟨trees, htrees, ?_⟩
  have hlist := Document.writtenAs_array (List.forall₂_map_right_iff.mpr htrees)
  have hkey := Document.writtenAs_render (.string "enum")
  have hwritten := @Document.writtenAs_object [("enum", .array trees)] [(_, _)]
    (.cons ⟨hkey, hlist⟩ .nil)
  have htext : Utf8.encode (listText texts) =
      objectText [(Utf8.encode (Document.string "enum").render, arrayText (texts.map Utf8.encode))] := by
    have hopen : Utf8.encode "\x7b\"enum\":[" =
        byte '\x7b' :: (Utf8.encode (Document.string "enum").render ++ [byte ':', byte '[']) := by
      decide +kernel
    have hcomma : Utf8.encode "," = [byte ','] := by decide
    have hclose : Utf8.encode "]\x7d" = [byte ']', byte '\x7d'] := by decide
    rw [listText, Utf8.encode_append, Utf8.encode_append, hopen, hclose, Utf8.encode_intercalate,
      hcomma, objectText, arrayText]
    simp
  rw [htext]
  exact hwritten

/-! ## What such a text compiles to -/

namespace Schema

/-- The schema that asks for one of some values. -/
def oneOf (values : List Document) : Schema := .node { enumeration := some values } [] none none

theorem compileNode_enum {follow : Follow} {l : Location} {items : List Document} {s : Schema}
    (h : compileNode follow l (.object [("enum", .array items)]) = .ok s) :
    s = oneOf (items.map Document.assemble) := by
  rw [compileNode.eq_def] at h
  obtain ⟨between, hb, hrest⟩ := compileKeywords_cons_ok.mp h
  rw [compileKeywords.eq_def] at hrest
  cases hrest
  generalize hkeyword : "enum" = keyword at hb
  cases hb with
  | check _ _ _ hc =>
    subst hkeyword
    obtain ⟨values, hv, hchecks⟩ := bind_ok hc
    cases hchecks
    cases items with
    | nil => cases hv
    | cons item items =>
      cases hv
      rw [Document.assembleItems_eq_map]
      rfl
  | _ => exact absurd hkeyword (by decide)

/-- What equals a listed value is accepted, and nothing else is. -/
theorem oneOf_accepts {values : List Document} {d : Document} :
    (oneOf values).accepts d = true ↔ ∃ v ∈ values, v.equal d = true := by
  have hadmits : (oneOf values).checks.Admits d.kind := by
    intro types h
    cases h
  have hinside : (oneOf values).reportInside d = [] := by cases d <;> rfl
  have hself : (oneOf values).checks.selfReport d = [] := by cases d <;> rfl
  rw [accepts_iff, Checks.allFaults, hself, hinside]
  simp only [hadmits, true_and, and_true]
  simp [oneOf, checks, Checks.unlisted?, Option.filter_eq_none_iff]

end Schema

namespace Document

/-- The object with a list under its one key, after it was read. -/
theorem kept_enum (trees : List Document) : (object [("enum", .array trees)]).kept =
    .object [("enum", .array (trees.map kept))] := by
  have hfirst : ∀ m ∈ [("enum", Document.array trees)].head?, m.1 ≠ numberKey := by
    rintro m ⟨⟩
    show "enum" ≠ numberKey
    decide
  rw [kept_object hfirst]
  show object [("enum", kept (.array trees))] = _
  rw [kept_array]

end Document

theorem Library.compile_of_lookup {lib : Library} {name : String} {root : Document}
    (h : lib.documents.lookup name = some root) : lib.compile name =
      Schema.compileNode (lib.following lib.targets) ⟨name, ""⟩ root := by
  rw [compile, h]
  exact compileAt_eq lib _ _ root

/-- The compiled schema asks for one of the values that the texts write. -/
theorem Lists.compile {lib lib' : Library} {name schema : String} {texts : List String}
    {s : Schema} (h : Lists schema texts) (hadd : lib.addText name schema = .ok lib')
    (hs : lib'.compile name = .ok s) :
    ∃ trees : List Document, List.Forall₂ (fun w t => w.WrittenAs (Utf8.encode t)) trees texts ∧
      s = .oneOf (trees.map fun w => w.kept.assemble) := by
  obtain ⟨trees, htrees, hschema⟩ := h
  refine ⟨trees, htrees, ?_⟩
  unfold Library.addText at hadd
  cases hread : Document.read (Utf8.encode schema) with
  | error e =>
    rw [hread] at hadd
    cases hadd
  | ok root =>
    rw [hread] at hadd
    cases hadd
    obtain ⟨-, rfl⟩ := hschema.read_eq_ok_iff.mp hread
    have hroot : (lib.add name (Document.object [("enum", .array trees)]).kept).documents.lookup
        name = some (.object [("enum", .array (trees.map Document.kept))]) := by
      rw [Library.add, Entries.lookup_insert, if_pos rfl, Document.kept_enum]
    rw [Library.compile_of_lookup hroot] at hs
    rw [Schema.compileNode_enum hs, List.map_map]
    rfl

/-- **What a schema lists it accepts.**  Whatever was parsed has no key twice, and then the loader
and the assembly of listed values make one tree of it, or the loader refuses it for its depth.  So a
schema that lists texts and has no other keyword accepts what is loaded from any of them, and also
what results from it by putting the entries of objects in another order. -/
theorem accepts_listed :
    (∀ (l : Loader) (v : Document), v.keysDistinct = true → l.convert 1 v =
      if v.nesting ≤ l.maxDepth then .ok v.assemble else .error (.tooDeep l.maxDepth)) ∧
    ∀ (schema : String) (texts : List String) (lib lib' : Library) (name : String) (s : Schema),
      Lists schema texts → lib.addText name schema = .ok lib' → lib'.compile name = .ok s →
        ∀ t ∈ texts, ∀ (l : Loader) (d : Document), l.load (Utf8.encode t) = .ok d →
          s.accepts d = true ∧ ∀ d', d.Reordered d' → s.accepts d' = true := by
  refine ⟨fun l v hv => l.convert_eq_assemble hv, ?_⟩
  intro schema texts lib lib' name s hlists hadd hs t ht l d hd
  obtain ⟨trees, htrees, rfl⟩ := hlists.compile hadd hs
  obtain ⟨w, hw, hwritten⟩ := exists_of_forall₂_right htrees ht
  obtain ⟨hread, -⟩ := Loader.load_eq_ok_iff.mp hd
  obtain ⟨-, hkept⟩ := hwritten.read_eq_ok_iff.mp hread
  have hdistinct := Document.keysDistinct_of_load hd
  have hmem : d ∈ trees.map fun w => w.kept.assemble :=
    List.mem_map.mpr ⟨w, hw, by rw [← hkept, Document.assemble_eq_self hdistinct]⟩
  have haccepts := Schema.oneOf_accepts.mpr
    ⟨d, hmem, Document.equal_self hdistinct (Document.numbersLiteral_of_load hd)⟩
  exact ⟨haccepts, fun d' h => (violations_reordered hd h _).1 ▸ haccepts⟩

/-- An object by itself and with its entries swapped, under a schema that lists it beside a number.
A loader that lets in one container only refuses it. -/
theorem accepts_listed_swapped : ∃ lib s d d',
    ({} : Library).addText "listed" (listText ["1E5", "\x7b\"a\":1,\"b\":[]\x7d"]) = .ok lib ∧
      lib.compile "listed" = .ok s ∧
        ({} : Loader).load (Utf8.encode "\x7b\"a\":1,\"b\":[]\x7d") = .ok d ∧ d.Reordered d' ∧
          (Loader.mk 1).convert 1 d = .error (.tooDeep 1) ∧
            s.accepts d = true ∧ s.accepts d' = true := by
  have hone : (⟨"1"⟩ : Number).IsLiteral := Number.isLiteral_of_read (by decide +kernel)
  have hf : (Document.object [("a", .number ⟨"1"⟩), ("b", .array [])]).Faithful := by
    refine .object (by decide) (by decide) ?_
    simpa using ⟨.number hone, .array (List.forall_mem_nil _)⟩
  have hwritten := Document.writtenAs_render hf.numbersLiteral
  have hload : ({} : Loader).load (Utf8.encode "\x7b\"a\":1,\"b\":[]\x7d") = .ok _ :=
    hf.load_eq_ok hwritten (by decide) (by decide)
  obtain ⟨number, hread, -⟩ := exists_ok_of_map (e := Document.read (Utf8.encode "1E5"))
    (f := Document.kind) (b := .number) (by decide +kernel)
  obtain ⟨tree, htree, -⟩ := Document.exists_writtenAs_of_read hread
  have hlists : Lists _ ["1E5", "\x7b\"a\":1,\"b\":[]\x7d"] := lists_listText (by
    simpa using ⟨⟨tree, htree⟩, ⟨_, hwritten⟩⟩)
  obtain ⟨s, hs, -⟩ := exists_ok_of_map (e := (({} : Library).addText "listed"
      (listText ["1E5", "\x7b\"a\":1,\"b\":[]\x7d"])).bind (·.compile "listed"))
    (f := fun _ => ()) (b := ()) (by decide +kernel)
  obtain ⟨lib, hadd, hs⟩ := bind_ok hs
  have hswap : (Document.object [("a", .number ⟨"1"⟩), ("b", .array [])]).Reordered
      (.object [("b", .array []), ("a", .number ⟨"1"⟩)]) :=
    .object (.swap _ _ _) rfl (.cons (.array .nil) (.cons (.number _) .nil))
  obtain ⟨hconvert, hlisted⟩ := accepts_listed
  obtain ⟨haccepts, hreordered⟩ := hlisted _ _ _ lib "listed" s hlists hadd hs _
    (List.mem_cons_of_mem _ (List.mem_singleton_self _)) {} _ hload
  exact ⟨lib, s, _, _, hadd, hs, hload, hswap, hconvert ⟨1⟩ _ (by decide +kernel), haccepts,
    hreordered _ hswap⟩

end ManifestCheck
