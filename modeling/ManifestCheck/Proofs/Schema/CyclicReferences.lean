import ManifestCheck.Proofs.Schema.CompilationFaults
import ManifestCheck.Proofs.Text.Fields

/-!
# Cycles of references

Compilation ends at a reference that leads back to a place whose reference is being expanded.  It
counts as leading back if its place, *as written*, is on the chain.  A place is written as the name
of its document, a number sign and a pointer, so that two places can only be written alike if a
number sign stands in the name of a document.  References cannot give such a name, as they are
divided at their first number sign; only the document that is compiled can have one.  Therefore:

* with no number sign in the name of the document, a cyclic reference is a cycle of the graph of
  references (`cyclicReference_revisits`);
* with one, a set of schema documents without any cycle can be rejected as cyclic
  (`acyclic_but_rejected`).
-/

namespace ManifestCheck

open Relation

namespace Library

variable {lib : Library} {name : String}

/-! ## Places and how they are written -/

/-- Places in documents without a number sign in their names are alike if they are written alike. -/
theorem eq_of_render_eq {l k : Location} (hl : '#' ∉ l.document.toList)
    (hk : '#' ∉ k.document.toList) (h : l.render = k.render) : l = k := by
  have chars := congrArg String.toList h
  simp only [Location.render, String.toList_append, String.reduceToList, List.append_assoc,
    List.singleton_append] at chars
  obtain ⟨hd, hp⟩ := Text.append_separator_inj hl hk chars
  exact Location.mk.injEq .. ▸ ⟨String.toList_inj.mp hd, String.toList_inj.mp hp⟩

/-- A reference gives no name with a number sign in it. -/
theorem sign_not_mem_target {l : Location} (hl : '#' ∉ l.document.toList) (reference : String) :
    '#' ∉ (l.target reference).document.toList := by
  obtain ⟨before, pointer, hb, hs⟩ := exists_split reference
  rw [target_of_split hb hs]
  dsimp only
  split
  · exact hl
  · rw [String.toList_ofList]
    exact hb

theorem Expands.sign_not_mem (hname : '#' ∉ name.toList) {chain : List Location} {l : Location}
    {d : Document} (h : lib.Expands name chain l d) :
    '#' ∉ l.document.toList ∧ ∀ k ∈ chain, '#' ∉ k.document.toList := by
  induction h with
  | root => exact ⟨hname, nofun⟩
  | inside _ _ hi ih => exact ⟨hi.document ▸ ih.1, ih.2⟩
  | @reference _ _ _ reference _ _ _ _ _ ih =>
    have target := sign_not_mem_target ih.1 reference
    exact ⟨target, fun k hk => (List.mem_cons.mp hk).elim (fun he => he ▸ target) (ih.2 k)⟩

/-! ## Cycles -/

/-- **What a cyclic reference is.**  It stands at a place that is compiled, and its own place is, as
written, on the chain of references that are being expanded.  If there is no number sign in the name
of the document, it is on the chain itself: two references on the way lead to the same pointer in
the same document, and the graph of references has a cycle that is reached from the root. -/
theorem cyclicReference_revisits (hlib : lib.KeysDistinct) {l : Location} {reference : String}
    (h : lib.compile name = .error (.cyclicReference l reference)) :
    ∃ chain entries, lib.Expands name chain l (.object entries) ∧
      entries.lookup "$ref" = some (.string reference) ∧
      (l.target reference).render ∈ chain.map Location.render ∧
      ('#' ∉ name.toList → l.target reference ∈ chain ∧
        ∃ root x, lib.documents.lookup name = some root ∧
          ReflTransGen lib.Needs (name, root) x ∧ TransGen lib.Needs x x) := by
  rcases expands_of_compile_error h with he | ⟨chain, k, d, hx, hfails⟩
  · cases he
  · cases hfails with
    | own hown => cases hown
    | @cyclic entries _ _ hr hf hc =>
      refine ⟨chain, entries, hx, hr, hc, fun hname => ?_⟩
      obtain ⟨hl, hchain⟩ := hx.sign_not_mem hname
      obtain ⟨k, hk, hrender⟩ := List.mem_map.mp hc
      have same : k = l.target reference :=
        eq_of_render_eq (hchain k hk) (sign_not_mem_target hl reference) hrender
      rw [same] at hk
      obtain ⟨root, hroot⟩ : ∃ root, lib.documents.lookup name = some root := by
        unfold compile at h
        split at h
        · cases h
        · exact ⟨_, ‹_›⟩
      obtain ⟨found, hfound, hreach, hback⟩ := (hx.reaches hlib hroot).2.2 _ hk
      exact ⟨hk, root, _, hroot, hreach,
        .tail' hback (.reference hr (leads_iff.mpr ⟨rfl, hfound⟩))⟩

/-- The cyclic reference that compilation ends at, and where it stands. -/
def cycle? (compiled : Except SchemaError Schema) : Option (Location × String) :=
  match compiled with
  | .error (.cyclicReference l reference) => some (l, reference)
  | _ => none

theorem eq_error_of_cycle? {compiled : Except SchemaError Schema} {l : Location}
    {reference : String} (h : cycle? compiled = some (l, reference)) :
    compiled = .error (.cyclicReference l reference) := by
  unfold cycle? at h
  split at h
  · cases h
    rfl
  · cases h

/-- A document with a reference to what encloses it. -/
def looped : Library := ⟨[("a", .object [
  ("definitions", .object [
    ("x", .object [("items", .object [("$ref", .string "a#/definitions/x")])])]),
  ("$ref", .string "#/definitions/x")])]⟩

theorem looped_revisits :
    ∃ chain entries, looped.Expands "a" chain ⟨"a", "/definitions/x/items"⟩ (.object entries) ∧
      (⟨"a", "/definitions/x/items"⟩ : Location).target "a#/definitions/x" ∈ chain ∧
      ∃ root x, looped.documents.lookup "a" = some root ∧
        ReflTransGen looped.Needs ("a", root) x ∧ TransGen looped.Needs x x := by
  have hlib : looped.KeysDistinct := by
    unfold KeysDistinct
    decide +kernel
  have h : looped.compile "a" =
      .error (.cyclicReference ⟨"a", "/definitions/x/items"⟩ "a#/definitions/x") :=
    eq_error_of_cycle? (by decide +kernel)
  obtain ⟨chain, entries, hx, -, -, hsign⟩ := cyclicReference_revisits hlib h
  obtain ⟨hmem, hcycle⟩ := hsign (by decide)
  exact ⟨chain, entries, hx, hmem, hcycle⟩

/-! ## Places that are written alike -/

/-- What is reached from a place that does not go on for ever does not do so, either. -/
theorem acc_of_reaches {x y : String × Document} (hx : Acc (fun y x => lib.Needs x y) x)
    (h : ReflTransGen lib.Needs x y) : Acc (fun y x => lib.Needs x y) y := by
  induction h with
  | refl => exact hx
  | tail _ hyz ih => exact ih.inv hyz

/-- Two documents.  The place `/y` in the first and the place `/x#/y` in the second are both written
`a#/x#/y`, and a reference leads from the one to the other. -/
def alike : Library := ⟨[
  ("a#/x", .object [
    ("y", .object [("$ref", .string "a#/x#/y")]),
    ("$ref", .string "#/y")]),
  ("a", .object [("x#", .object [("y", .object [("type", .string "string")])])])]⟩

/-- **Schema documents without a cycle that are rejected as cyclic.** -/
theorem acyclic_but_rejected :
    alike.compile "a#/x" = .error (.cyclicReference ⟨"a#/x", "/y"⟩ "a#/x#/y") ∧
      ∃ root, alike.documents.lookup "a#/x" = some root ∧
        ∀ x, ReflTransGen alike.Needs ("a#/x", root) x → ¬TransGen alike.Needs x x := by
  refine ⟨eq_error_of_cycle? (by decide +kernel), _, rfl,
    fun x hx => not_transGen_self (acc_of_reaches ?_ hx)⟩
  have leaf : Acc (fun y x => alike.Needs x y) ("a", .object [("type", .string "string")]) := by
    refine ⟨_, fun y hy => ?_⟩
    cases hy with
    | reference hr => cases hr
    | inside _ hd => cases hd
  have middle : Acc (fun y x => alike.Needs x y)
      ("a#/x", .object [("$ref", .string "a#/x#/y")]) := by
    have leads : alike.Leads "a#/x" "a#/x#/y" "a" (.object [("type", .string "string")]) :=
      (leads_iff (l := ⟨"a#/x", ""⟩)).mpr ⟨by decide +kernel, rfl⟩
    refine ⟨_, fun y hy => ?_⟩
    cases hy with
    | reference hr hl =>
      cases hr
      obtain ⟨rfl, rfl⟩ := leads.unique hl
      exact leaf
    | inside hr => cases hr
  have leads : alike.Leads "a#/x" "#/y" "a#/x" (.object [("$ref", .string "a#/x#/y")]) :=
    (leads_iff (l := ⟨"a#/x", ""⟩)).mpr ⟨by decide +kernel, rfl⟩
  refine ⟨_, fun y hy => ?_⟩
  cases hy with
  | reference hr hl =>
    cases hr
    obtain ⟨rfl, rfl⟩ := leads.unique hl
    exact middle
  | inside hr => cases hr

end Library

end ManifestCheck
