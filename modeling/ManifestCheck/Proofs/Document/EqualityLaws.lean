import ManifestCheck.Proofs.Document.Equality
import ManifestCheck.Proofs.Schema.ListedTexts

/-!
# Equality of loaded documents

Objects are compared from one side only: the lengths, and every entry of the first in the second.
Keys are distinct in what was loaded, so that nothing of the second can be left over, and the
comparison comes to the same from either side.  Objects are then equal if they have the same keys
and equal values under them (`Document.equal_object_iff_keys`), and no order of entries matters on
either side (`Document.equal_reordered_both`).

The literals of what was loaded are numerals, and each numeral equals itself, however far it is from
any double.  So equality of loaded documents is reflexive and symmetric (`Document.equal_loaded`).
-/

namespace ManifestCheck

namespace Entries

variable {α β : Type} {R : α → β → Prop} {as : List (String × α)} {bs : List (String × β)}

theorem isSome_lookup_iff {key : String} : (as.lookup key).isSome = true ↔ key ∈ keys as := by
  have h := contains_eq_decide_mem_keys key as
  rw [contains] at h
  rw [h, decide_eq_true_iff]

/-- Every key finds related values, or nothing on both sides, if the keys are the same and the
values under them are related. -/
theorem lookup_rel_iff : (∀ key, Option.Rel R (as.lookup key) (bs.lookup key)) ↔
    (∀ key, key ∈ keys as ↔ key ∈ keys bs) ∧
      ∀ key a b, as.lookup key = some a → bs.lookup key = some b → R a b := by
  constructor
  · intro h
    refine ⟨fun key => ?_, fun key a b ha hb => ?_⟩
    · have hkey := h key
      rw [← isSome_lookup_iff, ← isSome_lookup_iff]
      generalize as.lookup key = x at hkey
      generalize bs.lookup key = y at hkey
      cases hkey <;> simp
    · have hkey := h key
      rw [ha, hb] at hkey
      exact Option.rel_some_some.mp hkey
  · intro h key
    obtain ⟨hkeys, hvalues⟩ := h
    have hkey := hkeys key
    rw [← isSome_lookup_iff, ← isSome_lookup_iff] at hkey
    rcases ha : as.lookup key with _ | a <;> rcases hb : bs.lookup key with _ | b <;>
      rw [ha, hb] at hkey
    · exact .none
    · exact absurd (hkey.mpr rfl) Bool.false_ne_true
    · exact absurd (hkey.mp rfl) Bool.false_ne_true
    · exact .some (hvalues key a b ha hb)

end Entries

namespace Document

/-- **Objects are equal if they have the same keys and equal values under each key.** -/
theorem equal_object_iff_keys {as bs : List (String × Document)} (ha : (Entries.keys as).Nodup)
    (hb : (Entries.keys bs).Nodup) : (object as).equal (object bs) = true ↔
      (∀ key, key ∈ Entries.keys as ↔ key ∈ Entries.keys bs) ∧
        ∀ key a b, as.lookup key = some a → bs.lookup key = some b → a.equal b = true :=
  (equal_object_iff ha hb).trans Entries.lookup_rel_iff

/-! ## Entries in another order -/

/-- No key is repeated by putting entries in another order. -/
theorem Reordered.keysDistinct {d d' : Document} (h : d.Reordered d')
    (hd : d.keysDistinct = true) : d'.keysDistinct = true := by
  induction d using Document.inductionOn generalizing d' with
  | null | bool _ | number _ | string _ =>
    cases h
    rfl
  | array items ih =>
    cases h with
    | array hall =>
      refine keysDistinct_array.mpr fun e' he' => ?_
      obtain ⟨e, he, hmoved⟩ := exists_of_forall₂_right hall he'
      exact ih e he hmoved (keysDistinct_array.mp hd e he)
  | object entries ih =>
    cases h with
    | object hp hkeys hall =>
      obtain ⟨hnodup, hvalues⟩ := keysDistinct_object.mp hd
      refine keysDistinct_object.mpr ⟨?_, fun e' he' => ?_⟩
      · rw [← hkeys]
        exact (hp.map Prod.fst).nodup_iff.mp hnodup
      · obtain ⟨e, he, hmoved⟩ := exists_of_forall₂_right hall he'
        have he := hp.mem_iff.mpr he
        exact ih e he hmoved (hvalues e he)

/-- **Equality does not go by the order of entries on either side.**  The second side is settled by
`equal_reordered`, and the first is the second of the comparison the other way round. -/
theorem equal_reordered_both {a b a' b' : Document} (ha : a.keysDistinct = true)
    (hb : b.keysDistinct = true) (haa : a.Reordered a') (hbb : b.Reordered b') :
    a.equal b = a'.equal b' := by
  have hb' := hbb.keysDistinct hb
  calc a.equal b = a.equal b' := equal_reordered a hb hbb
    _ = b'.equal a := equal_comm ha hb'
    _ = b'.equal a' := equal_reordered b' ha haa
    _ = a'.equal b' := equal_comm hb' (haa.keysDistinct ha)

/-- **Equality of loaded documents.**  It is reflexive and symmetric.  Two objects, wherever they
stand in the documents, are equal just if they have the same keys and equal values under each key.
Entries put in another order, in any objects on either side, change nothing. -/
theorem equal_loaded {a b : Document} (ha : a.Loaded) (hb : b.Loaded) :
    a.equal a = true ∧ a.equal b = b.equal a ∧
    (∀ p q as bs, a.at? p = some (.object as) → b.at? q = some (.object bs) →
      ((object as).equal (object bs) = true ↔
        (∀ key, key ∈ Entries.keys as ↔ key ∈ Entries.keys bs) ∧
          ∀ key v w, as.lookup key = some v → bs.lookup key = some w → v.equal w = true)) ∧
    ∀ a' b', a.Reordered a' → b.Reordered b' → a.equal b = a'.equal b' := by
  have hda := ha.keysDistinct
  have hdb := hb.keysDistinct
  refine ⟨?_, equal_comm hda hdb, fun p q as bs hp hq => ?_, fun a' b' haa hbb => ?_⟩
  · obtain ⟨l, bytes, hload⟩ := ha
    exact equal_self hda (numbersLiteral_of_load hload)
  · have has := keysDistinct_at? hda hp
    have hbs := keysDistinct_at? hdb hq
    exact equal_object_iff_keys (keysDistinct_object.mp has).1 (keysDistinct_object.mp hbs).1
  · exact equal_reordered_both hda hdb haa hbb

/-- A number beyond all doubles, and an object inside an object. -/
def nestedObjects : Document :=
  .object [("x", .number ⟨"1e+400"⟩), ("y", .object [("u", .null), ("v", .bool true)])]

/-- The same with the entries of both objects swapped. -/
def swappedObjects : Document :=
  .object [("y", .object [("v", .bool true), ("u", .null)]), ("x", .number ⟨"1e+400"⟩)]

theorem loaded_nestedObjects : nestedObjects.Loaded := by
  have hn : (⟨"1e+400"⟩ : Number).IsLiteral := Number.isLiteral_of_read (by decide +kernel)
  have hinner : (Document.object [("u", .null), ("v", .bool true)]).Faithful :=
    .object (by decide) (by decide) (by simpa using ⟨.null, .bool true⟩)
  have houter : nestedObjects.Faithful :=
    .object (by decide) (by decide) (by simpa using ⟨.number hn, hinner⟩)
  exact houter.loaded (by decide)

/-- A document equals itself with all entries swapped, though it holds a number that no double comes
near. -/
theorem equal_loaded_swapped : nestedObjects.Loaded ∧ nestedObjects.Reordered nestedObjects ∧
    nestedObjects.Reordered swappedObjects ∧ nestedObjects.equal swappedObjects = true := by
  have hsame : (Document.object [("u", .null), ("v", .bool true)]).Reordered
      (.object [("u", .null), ("v", .bool true)]) :=
    .object (.refl _) rfl (.cons .null (.cons (.bool true) .nil))
  have hswap : (Document.object [("u", .null), ("v", .bool true)]).Reordered
      (.object [("v", .bool true), ("u", .null)]) :=
    .object (.swap _ _ _) rfl (.cons (.bool true) (.cons .null .nil))
  have hunchanged : nestedObjects.Reordered nestedObjects :=
    .object (.refl _) rfl (.cons (.number _) (.cons hsame .nil))
  have hswapped : nestedObjects.Reordered swappedObjects :=
    .object (.swap _ _ _) rfl (.cons hswap (.cons (.number _) .nil))
  obtain ⟨hself, -, -, hreordered⟩ := equal_loaded loaded_nestedObjects loaded_nestedObjects
  exact ⟨loaded_nestedObjects, hunchanged, hswapped,
    (hreordered _ _ hunchanged hswapped).symm.trans hself⟩

end Document

end ManifestCheck
