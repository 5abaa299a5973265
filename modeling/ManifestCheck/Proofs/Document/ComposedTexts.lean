import Mathlib.Data.List.Forall2
import ManifestCheck.Proofs.Document.NestingThreshold
import ManifestCheck.Proofs.Document.ObjectsKept
import ManifestCheck.Proofs.Outcome
import ManifestCheck.Proofs.Schema.KeywordFields

/-!
# Texts composed of texts

A list or an object is written by putting the texts of its parts behind each other, and each part
may have blanks around it (`parts_padded`).  Such a text loads as what its parts load as by
themselves, if the containers may be nested one deeper: a list has the elements, and an object is
what results from inserting the members one after the other, however their keys are spelled
(`Loader.load_composed`).  Which keys that leaves, and in what order, is told by the list of members
alone (`Entries.keys_ofMembers`).
-/

namespace ManifestCheck

open Grammar

/-! ## Texts of parts -/

section Padded

variable {α : Type} {U : α → List UInt8 → Prop} {closer : UInt8}

/-- The text of a part with blanks around it. -/
def Padded (U : α → List UInt8 → Prop) (a : α) (bytes : List UInt8) : Prop :=
  ∃ before own behind, Blanks before ∧ U a own ∧ Blanks behind ∧
    bytes = before ++ (own ++ behind)

theorem intercalate_cons_eq (sign : UInt8) (t : List UInt8) (ts : List (List UInt8)) :
    [sign].intercalate (t :: ts) = t ++ ts.flatMap (sign :: ·) := by
  induction ts generalizing t with
  | nil => simp
  | cons u ts ih =>
    rw [List.intercalate_cons_cons, ih]
    simp

theorem furtherParts_padded {as : List α} {texts : List (List UInt8)}
    (h : List.Forall₂ (Padded U) as texts) {blanks : List UInt8} (hblanks : Blanks blanks) :
    FurtherParts U closer as (blanks ++ (texts.flatMap (byte ',' :: ·) ++ [closer])) := by
  induction h generalizing blanks with
  | nil => exact .close hblanks
  | @cons a t as ts ha _ ih =>
    obtain ⟨before, own, behind, hbefore, hown, hbehind, rfl⟩ := ha
    have htext :
        blanks ++ (((before ++ (own ++ behind)) :: ts).flatMap (byte ',' :: ·) ++ [closer]) =
        blanks ++ byte ',' :: (before ++ (own ++
          (behind ++ (ts.flatMap (byte ',' :: ·) ++ [closer])))) := by
      simp
    rw [htext]
    exact .comma hblanks hbefore hown (ih hbehind)

/-- Texts of parts with commas between them, up to the closer. -/
theorem parts_padded {as : List α} {texts : List (List UInt8)}
    (h : List.Forall₂ (Padded U) as texts) :
    Parts U closer as ([byte ','].intercalate texts ++ [closer]) := by
  cases h with
  | nil => exact .none blanks_nil
  | @cons a t as ts ha has =>
    obtain ⟨before, own, behind, hbefore, hown, hbehind, rfl⟩ := ha
    have htext : [byte ','].intercalate ((before ++ (own ++ behind)) :: ts) ++ [closer] =
        before ++ (own ++ (behind ++ (ts.flatMap (byte ',' :: ·) ++ [closer]))) := by
      rw [intercalate_cons_eq]
      simp
    rw [htext]
    exact .some hbefore hown (furtherParts_padded has hbehind)

end Padded

/-- The text of a list whose elements have these texts. -/
def arrayText (texts : List (List UInt8)) : List UInt8 :=
  byte '[' :: ([byte ','].intercalate texts ++ [byte ']'])

/-- The text of an object whose members have these texts for their keys and values. -/
def objectText (members : List (List UInt8 × List UInt8)) : List UInt8 :=
  byte '\x7b' :: ([byte ','].intercalate (members.map fun m => m.1 ++ byte ':' :: m.2) ++
    [byte '\x7d'])

theorem member_padded {key : String} {w : Document} {keyText text : List UInt8}
    (hkey : (Document.string key).WrittenAs keyText) (hw : w.WrittenAs text) :
    Padded (Member Value) (key, w) (keyText ++ byte ':' :: text) := by
  obtain ⟨before, _, behind, hbefore, hstring, hbehind, rfl⟩ := hkey
  obtain ⟨before', own, behind', hbefore', hown, hbehind', rfl⟩ := hw
  cases hstring with
  | string hquoted =>
    refine ⟨before, _, behind', hbefore, .colon hquoted hbehind hbefore' hown, hbehind', ?_⟩
    simp

namespace Document

theorem writtenAs_array {items : List Document} {texts : List (List UInt8)}
    (h : List.Forall₂ WrittenAs items texts) : (array items).WrittenAs (arrayText texts) :=
  ⟨[], arrayText texts, [], blanks_nil, .array (parts_padded h), blanks_nil, by simp⟩

theorem writtenAs_object {members : List (String × Document)}
    {texts : List (List UInt8 × List UInt8)}
    (h : List.Forall₂ (fun m t => (string m.1).WrittenAs t.1 ∧ m.2.WrittenAs t.2) members texts) :
    (object members).WrittenAs (objectText texts) := by
  have hparts : List.Forall₂ (Padded (Member Value)) members
      (texts.map fun t => t.1 ++ byte ':' :: t.2) :=
    List.forall₂_map_right_iff.mpr (h.imp fun m t hm => member_padded hm.1 hm.2)
  exact ⟨[], objectText texts, [], blanks_nil, .object (parts_padded hparts), blanks_nil, by simp⟩

end Document

/-! ## Repeated keys -/

namespace Entries

variable {α : Type}

theorem ofMembers_append_singleton (members : List (String × α)) (m : String × α) :
    ofMembers (members ++ [m]) = insert m.1 m.2 (ofMembers members) := by
  rw [ofMembers, List.foldl_append]
  rfl

/-- Each key comes once, in the order of first occurrences. -/
theorem keys_ofMembers (members : List (String × α)) :
    keys (ofMembers members) = (keys members).eraseDups := by
  induction members using List.reverseRecOn with
  | nil => rfl
  | append_singleton members m ih =>
    have hkeys : keys (members ++ [m]) = keys members ++ [m.1] := by simp [keys]
    rw [ofMembers_append_singleton, keys_insert, hkeys, List.eraseDups_append]
    by_cases hm : m.1 ∈ keys members
    · rw [if_pos (mem_keys_ofMembers.mpr hm), ih]
      simp [hm, List.removeAll]
    · rw [if_neg (mt mem_keys_ofMembers.mp hm), ih]
      simp [hm, List.removeAll, List.eraseDups_cons]

end Entries

/-! ## Loading -/

/-- Where each part has a tree of its own, the parts have a list of trees. -/
theorem exists_trees {α β γ : Type} {R : α → β → Prop} {P : γ → α → Prop} {Q : γ → Prop}
    {f : γ → β} {as : List α} {bs : List β} (h : List.Forall₂ R as bs)
    (hpart : ∀ a b, R a b → ∃ w, P w a ∧ Q w ∧ b = f w) :
    ∃ ws, List.Forall₂ P ws as ∧ (∀ w ∈ ws, Q w) ∧ bs = ws.map f := by
  induction h with
  | nil => exact ⟨[], .nil, List.forall_mem_nil _, rfl⟩
  | cons hd _ ih =>
    obtain ⟨w, hw, hq, rfl⟩ := hpart _ _ hd
    obtain ⟨ws, hws, hall, rfl⟩ := ih
    exact ⟨w :: ws, .cons hw hws, List.forall_mem_cons.mpr ⟨hq, hall⟩, rfl⟩

namespace Loader

/-- The text loads by itself, and opens so few containers inside each other that it may stand in one
more. -/
def LoadsAlone (l : Loader) (t : List UInt8) (d : Document) : Prop :=
  l.load t = .ok d ∧ ∃ w : Document, w.WrittenAs t ∧ w.nesting < maxOpenContainers

variable {l : Loader}

theorem LoadsAlone.exists_tree {t : List UInt8} {d : Document} (h : l.LoadsAlone t d) :
    ∃ w : Document, w.WrittenAs t ∧ w.ReadableWithin (maxOpenContainers - 1) ∧ d = w.kept := by
  obtain ⟨hload, w, hw, hnesting⟩ := h
  obtain ⟨⟨hreadable, -⟩, rfl⟩ := hw.read_eq_ok_iff.mp (load_eq_ok_iff.mp hload).1
  exact ⟨w, hw, ⟨hreadable, Nat.le_sub_one_of_lt hnesting⟩, rfl⟩

/-- Only the text of a string loads as a string. -/
theorem writtenAs_of_load_string {t : List UInt8} {text : String}
    (h : l.load t = .ok (.string text)) : (Document.string text).WrittenAs t := by
  obtain ⟨w, hw, ⟨hreadable, -⟩, hkept⟩ :=
    Document.exists_writtenAs_of_read (load_eq_ok_iff.mp h).1
  cases hreadable with
  | string text' =>
    cases hkept
    exact hw
  | object hfirst _ =>
    rw [Document.kept_object hfirst] at hkept
    cases hkept
  | numberObject _ =>
    rw [Document.kept_numberObject] at hkept
    cases hkept
  | _ => cases hkept

theorem load_array {texts : List (List UInt8)} {items : List Document}
    (h : List.Forall₂ l.LoadsAlone texts items)
    (hdepth : (Document.array items).nesting ≤ l.maxDepth) :
    l.load (arrayText texts) = .ok (.array items) := by
  obtain ⟨ws, hws, hreadable, rfl⟩ := exists_trees h fun _ _ hd => hd.exists_tree
  refine load_eq_ok_iff.mpr ⟨?_, hdepth⟩
  exact (Document.writtenAs_array hws).read_eq_ok_iff.mpr
    ⟨Document.readableWithin_array.mpr hreadable, (Document.kept_array ws).symm⟩

theorem load_members {members : List (List UInt8 × List UInt8)}
    {entries : List (String × Document)}
    (h : List.Forall₂ (fun m e => l.load m.1 = .ok (.string e.1) ∧ l.LoadsAlone m.2 e.2)
      members entries)
    (hfirst : ∀ e ∈ entries.head?, e.1 ≠ numberKey)
    (hdepth : (Document.object (Entries.ofMembers entries)).nesting ≤ l.maxDepth) :
    l.load (objectText members) = .ok (.object (Entries.ofMembers entries)) := by
  have htree {m : List UInt8 × List UInt8} {e : String × Document}
      (hm : l.load m.1 = .ok (.string e.1) ∧ l.LoadsAlone m.2 e.2) :
      ∃ w : String × Document, ((Document.string w.1).WrittenAs m.1 ∧ w.2.WrittenAs m.2) ∧
        w.2.ReadableWithin (maxOpenContainers - 1) ∧ e = (w.1, w.2.kept) := by
    obtain ⟨w, hw, hreadable, hkept⟩ := hm.2.exists_tree
    exact ⟨(e.1, w), ⟨writtenAs_of_load_string hm.1, hw⟩, hreadable, Prod.ext rfl hkept⟩
  obtain ⟨ws, hws, hreadable, rfl⟩ := exists_trees h fun _ _ hm => htree hm
  have hhead : ∀ w ∈ ws.head?, w.1 ≠ numberKey := by
    intro w hw
    exact hfirst (w.1, w.2.kept) (by rw [List.head?_map, hw]; rfl)
  refine load_eq_ok_iff.mpr ⟨?_, hdepth⟩
  exact (Document.writtenAs_object hws).read_eq_ok_iff.mpr
    ⟨(Document.readableWithin_object hhead).mpr hreadable, (Document.kept_object hhead).symm⟩

/-- **A text made of texts loads as what these load as by themselves.**  An object has its members
inserted one after the other: each key comes once, at the place of its first occurrence and with the
value of its last.  A list has its elements.  So no object in a loaded document has a key twice. -/
theorem load_composed (l : Loader) :
    (∀ members entries, List.Forall₂
        (fun m e => l.load m.1 = .ok (.string e.1) ∧ l.LoadsAlone m.2 e.2) members entries →
      (∀ e ∈ entries.head?, e.1 ≠ numberKey) →
      (Document.object (Entries.ofMembers entries)).nesting ≤ l.maxDepth →
      l.load (objectText members) = .ok (.object (Entries.ofMembers entries)) ∧
        Entries.keys (Entries.ofMembers entries) = (Entries.keys entries).eraseDups ∧
        ∀ key, (Entries.ofMembers entries).lookup key = entries.reverse.lookup key) ∧
    (∀ texts items, List.Forall₂ l.LoadsAlone texts items →
      (Document.array items).nesting ≤ l.maxDepth →
      l.load (arrayText texts) = .ok (.array items)) ∧
    ∀ bytes d p entries, l.load bytes = .ok d → d.at? p = some (.object entries) →
      (Entries.keys entries).Nodup := by
  refine ⟨fun members entries h hfirst hdepth => ?_, fun texts items h hdepth => ?_,
    fun bytes d p entries h hat => ?_⟩
  · exact ⟨load_members h hfirst hdepth, Entries.keys_ofMembers entries,
      fun key => Entries.lookup_ofMembers key entries⟩
  · exact load_array h hdepth
  · have hdistinct := Document.keysDistinct_at? (Document.keysDistinct_of_load h) hat
    exact (Document.keysDistinct_object.mp hdistinct).1

theorem loadsAlone_render {d : Document} (h : d.Faithful) (hopen : d.nesting < maxOpenContainers)
    (hdepth : d.nesting ≤ l.maxDepth) : l.LoadsAlone (Utf8.encode d.render) d :=
  have hwritten := Document.writtenAs_render h.numbersLiteral
  ⟨h.load_eq_ok hwritten (Nat.le_of_lt hopen) hdepth, d, hwritten, hopen⟩

/-- A key that is repeated in another spelling. -/
theorem load_composed_respelled :
    (Loader.mk 64).load (Utf8.encode "\x7b\"a\":true,\"b\":[null],\"\\u0061\":false\x7d") =
      .ok (.object [("a", .bool false), ("b", .array [.null])]) := by
  have hkey (spelling text : String) (h : ((Loader.mk 64).load (Utf8.encode spelling)).toOption.map
      Document.text? = some (some text)) :
      (Loader.mk 64).load (Utf8.encode spelling) = .ok (.string text) := by
    obtain ⟨d, hload, htext⟩ := exists_ok_of_map h
    cases d with
    | string text' =>
      cases htext
      exact hload
    | _ => cases htext
  have hvalue {d : Document} (h : d.Faithful) (hnesting : d.nesting ≤ 1) :
      (Loader.mk 64).LoadsAlone (Utf8.encode d.render) d :=
    loadsAlone_render h (Nat.lt_of_le_of_lt hnesting (by decide))
      (Nat.le_trans hnesting (by decide))
  have hlist : (Document.array [.null]).Faithful := .array (by simpa using .null)
  have htext : objectText [
      (Utf8.encode "\"a\"", Utf8.encode (Document.bool true).render),
      (Utf8.encode "\"b\"", Utf8.encode (Document.array [.null]).render),
      (Utf8.encode "\"\\u0061\"", Utf8.encode (Document.bool false).render)] =
      Utf8.encode "\x7b\"a\":true,\"b\":[null],\"\\u0061\":false\x7d" := by decide +kernel
  rw [← htext]
  refine ((load_composed ⟨64⟩).1 _ [("a", .bool true), ("b", .array [.null]), ("a", .bool false)]
    ?_ (by decide) (by decide)).1
  exact .cons ⟨hkey _ _ (by decide +kernel), hvalue (.bool true) (by decide)⟩
    (.cons ⟨hkey _ _ (by decide +kernel), hvalue hlist (by decide)⟩
      (.cons ⟨hkey _ _ (by decide +kernel), hvalue (.bool false) (by decide)⟩ .nil))

end Loader

end ManifestCheck
