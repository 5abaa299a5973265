import Mathlib.Data.List.TakeWhile
import Mathlib.Logic.Relation
import ManifestCheck.Proofs.Document.ReadingInduction
import ManifestCheck.Proofs.Schema.KeywordReading

/-!
# Compiled schemas as unfoldings of references

Schema documents and the references between them form a graph.  A compiled schema is what remains
when every reference in it has been replaced by what it leads to (`Library.Unfolds`), which is
possible only if no chain of references comes back to where it was.  Main results:

* `unfolds_of_compileAt`: compiling a value, whatever references led to it, gives its unfolding;
* `Unfolds.unique`: a value has one unfolding at most;
* `Unfolds.acc`: nothing that an unfolded value needs can need itself;
* `compile_unfolds`: all of this for a named document and every place that is reached from it.
-/

namespace ManifestCheck

open Relation

namespace Library

variable {lib : Library}

/-! ## Documents with distinct keys -/

/-- No object in any document has two entries under one key.  Reading a document never gives such
an object, so that this holds of all libraries read from texts (`keysDistinct_ofTexts`). -/
def KeysDistinct (lib : Library) : Prop := ∀ e ∈ lib.documents, e.2.keysDistinct = true

/-- What holds of all documents still does when one more is added of which it holds. -/
theorem add_invariant {P : Document → Prop} {name : String} {d : Document}
    (h : ∀ e ∈ lib.documents, P e.2) (hd : P d) : ∀ e ∈ (lib.add name d).documents, P e.2 := by
  intro e he
  rcases Entries.mem_insert he with rfl | he
  · exact hd
  · exact h e he

/-- What holds of whatever is read holds of all documents of a library that was read from texts. -/
theorem ofTexts_invariant {P : Document → Prop}
    (hread : ∀ bytes d, Document.read bytes = .ok d → P d) {texts : List (String × String)}
    (h : ofTexts texts = .ok lib) : ∀ e ∈ lib.documents, P e.2 := by
  have hstep : ∀ (lib : Library) (t : String × String) lib', (∀ e ∈ lib.documents, P e.2) →
      lib.addText t.1 t.2 = .ok lib' → ∀ e ∈ lib'.documents, P e.2 := by
    intro lib t lib' hlib ha
    unfold addText at ha
    split at ha
    · cases ha
    · cases ha
      exact add_invariant hlib (hread _ _ ‹_›)
  exact foldlM_invariant hstep (List.forall_mem_nil _) h

theorem keysDistinct_add {name : String} {d : Document} (h : lib.KeysDistinct)
    (hd : d.keysDistinct = true) : (lib.add name d).KeysDistinct :=
  add_invariant (P := fun d => d.keysDistinct = true) h hd

/-- A library read from texts has distinct keys throughout. -/
theorem keysDistinct_ofTexts {texts : List (String × String)} (h : ofTexts texts = .ok lib) :
    lib.KeysDistinct :=
  ofTexts_invariant (fun _ _ => Document.keysDistinct_of_read) h

theorem keysDistinct_find? {l : Location} {d : Document} (h : lib.KeysDistinct)
    (hf : lib.find? l = some d) : d.keysDistinct = true := by
  obtain ⟨root, hr, hp⟩ := Option.bind_eq_some_iff.mp hf
  exact Document.keysDistinct_pointer? (h _ (Entries.mem_of_lookup hr)) hp

/-! ## What references lead to -/

/-- A reference in the document of one name leads to a value in the document of another.  The text
before the first number sign is the other name, or nothing if both are the same; the text behind it
is the pointer. -/
def Leads (lib : Library) (name reference name' : String) (found : Document) : Prop :=
  ∃ before pointer : List Char, '#' ∉ before ∧
    (reference.toList = before ++ '#' :: pointer ∨ reference.toList = before ∧ pointer = []) ∧
    name' = (if before = [] then name else String.ofList before) ∧
    ∃ root, lib.documents.lookup name' = some root ∧
      root.pointer? (String.ofList pointer) = some found

theorem target_of_split {l : Location} {reference : String} {before pointer : List Char}
    (hb : '#' ∉ before)
    (h : reference.toList = before ++ '#' :: pointer ∨ reference.toList = before ∧ pointer = []) :
    l.target reference =
      ⟨if before = [] then l.document else String.ofList before, String.ofList pointer⟩ := by
  have hne : ∀ c ∈ before, decide (c ≠ '#') = true := fun c hc =>
    decide_eq_true fun he => hb (he ▸ hc)
  have hd : (String.ofList before = "") = (before = []) := by
    rw [← String.ofList_nil, String.ofList_inj]
  unfold Location.target
  rcases h with h | ⟨h, rfl⟩
  · rw [h, List.takeWhile_append_of_pos hne, List.dropWhile_append_of_pos hne]
    simp [hd]
  · rw [h, List.takeWhile_eq_self_iff.mpr hne, List.dropWhile_eq_nil_iff.mpr hne]
    simp [hd]

theorem exists_split (reference : String) : ∃ before pointer : List Char, '#' ∉ before ∧
    (reference.toList = before ++ '#' :: pointer ∨ reference.toList = before ∧ pointer = []) := by
  have hb : '#' ∉ reference.toList.takeWhile (· ≠ '#') := fun hm => by
    simpa using List.mem_takeWhile_imp hm
  have hsplit := List.takeWhile_append_dropWhile (p := (· ≠ '#')) (l := reference.toList)
  cases hd : reference.toList.dropWhile (· ≠ '#') with
  | nil =>
    rw [hd, List.append_nil] at hsplit
    exact ⟨_, [], hb, .inr ⟨hsplit.symm, rfl⟩⟩
  | cons c pointer =>
    have hc : c = '#' := by
      have hhead := List.head?_dropWhile_not (· ≠ '#') reference.toList
      rw [hd] at hhead
      simpa using hhead
    rw [hd, hc] at hsplit
    exact ⟨_, pointer, hb, .inl hsplit.symm⟩

theorem leads_iff {l : Location} {reference name' : String} {found : Document} :
    lib.Leads l.document reference name' found ↔
      name' = (l.target reference).document ∧ lib.find? (l.target reference) = some found := by
  constructor
  · intro h
    obtain ⟨before, pointer, hb, hs, rfl, root, hr, hf⟩ := h
    rw [target_of_split hb hs]
    exact ⟨rfl, Option.bind_eq_some_iff.mpr ⟨root, hr, hf⟩⟩
  · intro h
    obtain ⟨rfl, h⟩ := h
    obtain ⟨before, pointer, hb, hs⟩ := exists_split reference
    rw [target_of_split hb hs] at h ⊢
    obtain ⟨root, hr, hf⟩ := Option.bind_eq_some_iff.mp h
    exact ⟨before, pointer, hb, hs, rfl, root, hr, hf⟩

theorem Leads.unique {name reference name' name'' : String} {found found' : Document}
    (h : lib.Leads name reference name' found) (h' : lib.Leads name reference name'' found') :
    name' = name'' ∧ found = found' := by
  obtain ⟨hn, hf⟩ := (leads_iff (l := ⟨name, ""⟩)).mp h
  obtain ⟨hn', hf'⟩ := (leads_iff (l := ⟨name, ""⟩)).mp h'
  exact ⟨hn.trans hn'.symm, Option.some.inj (hf.symm.trans hf')⟩

/-! ## Unfoldings -/

/-- A schema is the unfolding of a value in the document of a name.  A reference stands for what it
leads to, whatever else its object holds, and that is a value which compiles to the same schema by
itself, from any place of its document and with no reference entered before.  Any other object is
read from its own keywords, with the unfoldings of the documents inside (`U` holds only of these).
There is no rule for a value of another kind, so that it has no unfolding. -/
inductive Unfolds (lib : Library) : String → Document → Schema → Prop where
  | always {name : String} : Unfolds lib name (.bool true) .any
  | reference {name name' reference : String} {entries : List (String × Document)}
      {found : Document} {s : Schema} (hr : entries.lookup "$ref" = some (.string reference))
      (hl : lib.Leads name reference name' found)
      (hc : ∀ l : Location, l.document = name' → lib.compileAt lib.targets l found = .ok s)
      (hu : Unfolds lib name' found s) : Unfolds lib name (.object entries) s
  | keywords {name : String} {entries : List (String × Document)} {s : Schema}
      {U : Document → Schema → Prop} (hr : entries.lookup "$ref" = none)
      (hk : Schema.FromKeywords U entries s) (hu : ∀ d t, U d t → Unfolds lib name d t) :
      Unfolds lib name (.object entries) s

/-- One place needs another: a reference what it leads to, another object the documents inside. A
place is told by the name of its document and by the value that stands there. -/
inductive Needs (lib : Library) : String × Document → String × Document → Prop where
  | reference {name name' reference : String} {entries : List (String × Document)}
      {found : Document} (hr : entries.lookup "$ref" = some (.string reference))
      (hl : lib.Leads name reference name' found) :
      Needs lib (name, .object entries) (name', found)
  | inside {name : String} {entries : List (String × Document)} {d : Document}
      (hr : entries.lookup "$ref" = none) (hd : d ∈ Schema.insides entries) :
      Needs lib (name, .object entries) (name, d)

variable {name : String} {d : Document} {s t : Schema}

/-- **A value has one unfolding at most.** -/
theorem Unfolds.unique (h : lib.Unfolds name d s) (h' : lib.Unfolds name d t) : s = t := by
  induction h generalizing t with
  | always => cases h'; rfl
  | reference hr hl _ _ ih =>
    cases h' with
    | reference hr' hl' _ hu' =>
      cases hr.symm.trans hr'
      obtain ⟨rfl, rfl⟩ := hl.unique hl'
      exact ih hu'
    | keywords hr' => cases hr.symm.trans hr'
  | keywords hr hk _ ih =>
    cases h' with
    | reference hr' => cases hr.symm.trans hr'
    | keywords _ hk' hu' => exact hk.unique hk' fun d s t hs ht => ih d s hs (hu' d t ht)

/-- **Nothing that an unfolded value needs goes on for ever.** -/
theorem Unfolds.acc (h : lib.Unfolds name d s) : Acc (fun y x => lib.Needs x y) (name, d) := by
  induction h with
  | always => exact ⟨_, nofun⟩
  | reference hr hl _ _ ih =>
    refine ⟨_, fun y hy => ?_⟩
    cases hy with
    | reference hr' hl' =>
      cases hr.symm.trans hr'
      obtain ⟨rfl, rfl⟩ := hl.unique hl'
      exact ih
    | inside hr' => cases hr.symm.trans hr'
  | keywords hr hk _ ih =>
    refine ⟨_, fun y hy => ?_⟩
    cases hy with
    | reference hr' => cases hr.symm.trans hr'
    | inside _ hd =>
      obtain ⟨t, ht⟩ := hk.exists_of_mem hd
      exact ih _ t ht

/-- A relation has no cycle through a point from which it cannot go on for ever. -/
theorem not_transGen_self {α : Type} {r : α → α → Prop} {a : α}
    (h : Acc (fun y x => r x y) a) : ¬TransGen r a a := by
  induction h with
  | intro a _ ih =>
    intro hc
    obtain ⟨b, hab, hba⟩ := TransGen.head'_iff.mp hc
    exact ih b hab (TransGen.trans_right hba (.single hab))

/-! ## Compilation unfolds -/

/-- **A schema that compiles is an unfolding**, whatever references led to its document.  The
induction is on the places that are still open, and on the document as long as none is entered. -/
theorem unfolds_of_compileAt (hlib : lib.KeysDistinct) {allowed : List String} {l : Location}
    (ha : allowed ⊆ lib.targets) (hd : d.keysDistinct = true)
    (h : lib.compileAt allowed l d = .ok s) : lib.Unfolds l.document d s := by
  induction hn : allowed.length using Nat.strongRecOn generalizing allowed l d s with
  | ind n ihallowed =>
    subst hn
    induction hn : d.nesting using Nat.strongRecOn generalizing l d s with
    | ind n ihnesting =>
      subst hn
      have hnode := h
      rw [compileAt_eq, Schema.compileNode.eq_def] at hnode
      cases d with
      | bool b =>
        cases b with
        | false => cases hnode
        | true =>
          cases hnode
          exact .always
      | object entries =>
        dsimp only at hnode
        cases hr : entries.lookup "$ref" with
        | some value =>
          rw [hr] at hnode
          cases value with
          | string reference =>
            obtain ⟨found, hf, hm, hc⟩ := following_ok hnode
            have hsub : without (l.target reference).render allowed ⊆ lib.targets := fun x hx =>
              ha (List.mem_filter.mp hx).1
            exact .reference hr (leads_iff.mpr ⟨rfl, hf⟩)
              (fun l' hl' => compileAt_moved hsub hl'.symm hc)
              (ihallowed _ (without_length_lt hm) hsub (keysDistinct_find? hlib hf) hc rfl)
          | _ => cases hnode
        | none =>
          rw [compileAt_eq] at h
          refine .keywords hr
            ((Schema.compileNode_fromKeywords (Document.keysDistinct_object.mp hd).1 hr h).imp
              (V := lib.Unfolds l.document) fun d' hin t => ?_) fun _ _ hu => hu
          intro hx
          obtain ⟨l', hl', ht⟩ := hx
          rw [← compileAt_eq] at ht
          rw [← hl']
          exact ihnesting _ (Schema.nesting_lt_of_mem_insides hin)
            (Schema.keysDistinct_of_mem_insides hd hin) ht rfl
      | _ => cases hnode

/-- The schema of a named document is its unfolding. -/
theorem unfolds_of_compile (hlib : lib.KeysDistinct) (h : lib.compile name = .ok s) :
    ∃ root, lib.documents.lookup name = some root ∧ root.keysDistinct = true ∧
      lib.Unfolds name root s := by
  unfold compile at h
  cases hr : lib.documents.lookup name with
  | none => rw [hr] at h; cases h
  | some root =>
    rw [hr] at h
    have hd : root.keysDistinct = true := hlib _ (Entries.mem_of_lookup hr)
    exact ⟨root, rfl, hd, unfolds_of_compileAt hlib (fun _ hx => hx) hd h⟩

/-- A place whose value compiles by itself, to its unfolding. -/
def Compiles (lib : Library) (x : String × Document) : Prop :=
  x.2.keysDistinct = true ∧ ∃ t, lib.Unfolds x.1 x.2 t ∧
    ∀ l : Location, l.document = x.1 → lib.compileAt lib.targets l x.2 = .ok t

theorem compiles_of_compileAt (hlib : lib.KeysDistinct) {l : Location}
    (hd : d.keysDistinct = true) (h : lib.compileAt lib.targets l d = .ok s) :
    lib.Compiles (l.document, d) :=
  ⟨hd, s, unfolds_of_compileAt hlib (fun _ hx => hx) hd h,
    fun _ hl' => compileAt_moved (fun _ hx => hx) hl'.symm h⟩

/-- One step: what a place that compiles needs does so, too. -/
theorem compiles_of_needs (hlib : lib.KeysDistinct) {x y : String × Document}
    (hx : lib.Compiles x) (h : lib.Needs x y) : lib.Compiles y := by
  obtain ⟨hd, s, hu, hc⟩ := hx
  cases h with
  | reference hr hl =>
    cases hu with
    | reference hr' hl' hc' hu' =>
      cases hr.symm.trans hr'
      obtain ⟨rfl, rfl⟩ := hl.unique hl'
      obtain ⟨-, hf⟩ := (leads_iff (l := ⟨_, ""⟩)).mp hl
      exact ⟨keysDistinct_find? hlib hf, _, hu', hc'⟩
    | keywords hr' => cases hr.symm.trans hr'
  | @inside name entries d hr hin =>
    have h := hc ⟨name, ""⟩ rfl
    rw [compileAt_eq] at h
    obtain ⟨t, l, hl, ht⟩ := (Schema.compileNode_fromKeywords
      (Document.keysDistinct_object.mp hd).1 hr h).exists_of_mem hin
    rw [← compileAt_eq] at ht
    have hy := compiles_of_compileAt hlib (Schema.keysDistinct_of_mem_insides hd hin) ht
    rwa [hl] at hy

/-- Any number of steps. -/
theorem compiles_of_reaches (hlib : lib.KeysDistinct) {x y : String × Document}
    (hx : lib.Compiles x) (h : ReflTransGen lib.Needs x y) : lib.Compiles y := by
  induction h with
  | refl => exact hx
  | tail _ hyz ih => exact compiles_of_needs hlib ih hyz

/-- **A compiled schema is the unfolding of its document.**  If the document of a name compiles,
the schema is its one unfolding.  Every place reached from the root compiles by itself, to its
own unfolding, and to nothing else from any other place or behind any other references.  None of
these places needs itself. -/
theorem compile_unfolds (hlib : lib.KeysDistinct) (h : lib.compile name = .ok s) :
    ∃ root, lib.documents.lookup name = some root ∧ lib.Unfolds name root s ∧
      (∀ t, lib.Unfolds name root t → t = s) ∧
      ∀ x, ReflTransGen lib.Needs (name, root) x →
        (∃ t, lib.Unfolds x.1 x.2 t ∧
          (∀ l : Location, l.document = x.1 → lib.compileAt lib.targets l x.2 = .ok t) ∧
          ∀ (allowed : List String) (l : Location) u, l.document = x.1 →
            lib.compileAt allowed l x.2 = .ok u → u = t) ∧
        ¬TransGen lib.Needs x x := by
  obtain ⟨root, hr, hd, hu⟩ := unfolds_of_compile hlib h
  refine ⟨root, hr, hu, fun t ht => ht.unique hu, fun x hx => ?_⟩
  have hroot : lib.Compiles (name, root) := by
    rw [compile, hr] at h
    exact compiles_of_compileAt (l := ⟨name, ""⟩) hlib hd h
  obtain ⟨-, t, ht, hc⟩ := compiles_of_reaches hlib hroot hx
  refine ⟨⟨t, ht, hc, fun allowed l u hl hu => ?_⟩, not_transGen_self ht.acc⟩
  -- a list of open places that holds both lists makes the two results comparable
  have h₁ : lib.compileAt (allowed ++ lib.targets) l x.2 = .ok u :=
    compileAt_moved (List.subset_append_left allowed lib.targets) rfl hu
  have h₂ : lib.compileAt (allowed ++ lib.targets) l x.2 = .ok t :=
    compileAt_moved (List.subset_append_right allowed lib.targets) rfl (hc l hl)
  exact Except.ok.inj (h₁.symm.trans h₂)

/-- A document that refers to another one, where a reference with something beside it leads on
within that document. -/
def chained : Library := ⟨[
  ("a", .object [("properties", .object [("x", .object [("$ref", .string "b#/definitions/y")])])]),
  ("b", .object [("definitions", .object [
    ("y", .object [("$ref", .string "#/definitions/z"), ("type", .string "object")]),
    ("z", .object [("type", .string "string")])])])]⟩

theorem compile_chained : ∃ s root, chained.compile "a" = .ok s ∧
    chained.documents.lookup "a" = some root ∧ chained.Unfolds "a" root s ∧
      ∀ x, ReflTransGen chained.Needs ("a", root) x →
        (∃ t, chained.compileAt chained.targets ⟨x.1, ""⟩ x.2 = .ok t) ∧
          ¬TransGen chained.Needs x x := by
  have hlib : chained.KeysDistinct := by
    unfold KeysDistinct
    decide +kernel
  have hok : (chained.compile "a").toOption.isSome = true := by decide +kernel
  cases hs : chained.compile "a" with
  | error e =>
    rw [hs] at hok
    cases hok
  | ok s =>
    obtain ⟨root, hr, hu, -, hx⟩ := compile_unfolds hlib hs
    refine ⟨s, root, rfl, hr, hu, fun x h => ?_⟩
    obtain ⟨⟨t, -, hc, -⟩, hcycle⟩ := hx x h
    exact ⟨⟨t, hc ⟨x.1, ""⟩ rfl⟩, hcycle⟩

end Library

end ManifestCheck
