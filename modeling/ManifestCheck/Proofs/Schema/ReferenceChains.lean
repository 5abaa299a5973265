import Mathlib.Data.List.Perm.Subperm
import ManifestCheck.Proofs.Schema.ContextIndependence

/-!
# Chains of references

While a document is compiled, some references are being expanded: the value that one of them leads to
holds the next one.  A reference that leads to a place on this chain is a cycle and is not followed.
References may be any strings and lead anywhere, also to what encloses them, so that neither the size
of a value nor the length of a pointer goes down along a chain.  Compilation ends all the same:

* every place that a reference leads to is one of finitely many, as written (`target_mem_targets`);
* no place comes twice on a chain (`Expands.bounded`);
* so a compiler that follows references without any other bound, and knows only the chain that led to
  where it is, never goes deeper than there are places, and it gives the result of `Library.compile`
  (`compile_terminates`).

What one document holds is taken apart by recursion on the document, which needs no argument.
-/

namespace ManifestCheck

/-! ## The references in a document -/

namespace Document

theorem referencesInEntries_subset {entries : List (String × Document)} {key : String}
    {d : Document} (h : (key, d) ∈ entries) : d.references ⊆ referencesInEntries entries := by
  induction entries with
  | nil => cases h
  | cons e rest ih =>
    rw [referencesInEntries.eq_def]
    dsimp only
    rcases List.mem_cons.mp h with rfl | h
    · intro r hr
      refine List.mem_append_left _ ?_
      cases d with
      | string s => cases hr
      | _ => exact hr
    · exact fun r hr => List.mem_append_right _ (ih h hr)

theorem mem_referencesInEntries {entries : List (String × Document)} {reference : String}
    (h : ("$ref", .string reference) ∈ entries) : reference ∈ referencesInEntries entries := by
  induction entries with
  | nil => cases h
  | cons e rest ih =>
    rw [referencesInEntries.eq_def]
    dsimp only
    rcases List.mem_cons.mp h with rfl | h
    · show reference ∈ (if "$ref" = "$ref" then [reference] else []) ++ referencesInEntries rest
      rw [if_pos rfl]
      exact List.mem_append_left _ (List.mem_singleton_self _)
    · exact List.mem_append_right _ (ih h)

theorem references_entry_subset {entries : List (String × Document)} {key : String} {d : Document}
    (h : (key, d) ∈ entries) : d.references ⊆ (object entries).references :=
  referencesInEntries_subset h

theorem references_item_subset {items : List Document} {d : Document} (h : d ∈ items) :
    d.references ⊆ (array items).references := by
  rw [references]
  induction items with
  | nil => cases h
  | cons e rest ih =>
    rw [referencesInItems]
    rcases List.mem_cons.mp h with rfl | h
    · exact fun r hr => List.mem_append_left _ hr
    · exact fun r hr => List.mem_append_right _ (ih h hr)

theorem references_step?_subset {step : List Char} {d inner : Document}
    (h : d.step? step = some inner) : inner.references ⊆ d.references := by
  cases d with
  | object entries => exact references_entry_subset (Entries.mem_of_lookup h)
  | array items =>
    obtain ⟨i, -, hi⟩ := Option.bind_eq_some_iff.mp h
    exact references_item_subset (List.mem_of_getElem? hi)
  | _ => cases h

/-- What a pointer leads to holds no reference that the whole document does not hold. -/
theorem references_pointer?_subset {pointer : String} {d inner : Document}
    (h : d.pointer? pointer = some inner) : inner.references ⊆ d.references :=
  pointer?_invariant (P := fun inner => inner.references ⊆ d.references)
    (fun _ _ _ hd hi => List.Subset.trans (references_step?_subset hi) hd) (List.Subset.refl _) h

end Document

/-! ## Documents one step inside, with their places -/

namespace Schema

/-- A document one step inside an object, and the place where it stands. -/
inductive Inside (l : Location) (entries : List (String × Document)) : Location → Document → Prop
  | declared {declared : List (String × Document)} {key : String} {d : Document}
      (hp : ("properties", .object declared) ∈ entries) (hd : (key, d) ∈ declared) :
      Inside l entries ((l.child "properties").child key) d
  | additional {d : Document} (ha : ("additionalProperties", d) ∈ entries) (ht : d.truth? = none) :
      Inside l entries (l.child "additionalProperties") d
  | items {d : Document} (hi : ("items", d) ∈ entries) (ha : d.isArray = false) :
      Inside l entries (l.child "items") d

theorem Inside.mono {l l' : Location} {entries more : List (String × Document)} {d : Document}
    (hm : entries ⊆ more) (h : Inside l entries l' d) : Inside l more l' d := by
  cases h with
  | declared hp hd => exact .declared (hm hp) hd
  | additional ha ht => exact .additional (hm ha) ht
  | items hi ha => exact .items (hm hi) ha

theorem Inside.document {l l' : Location} {entries : List (String × Document)} {d : Document}
    (h : Inside l entries l' d) : l'.document = l.document := by
  cases h <;> rfl

theorem Inside.nesting_lt {l l' : Location} {entries : List (String × Document)} {d : Document}
    (h : Inside l entries l' d) : d.nesting < (Document.object entries).nesting := by
  cases h with
  | declared hp hd =>
    exact Nat.lt_trans (Document.nesting_lt_of_mem hd) (Document.nesting_lt_of_mem hp)
  | additional ha _ => exact Document.nesting_lt_of_mem ha
  | items hi _ => exact Document.nesting_lt_of_mem hi

theorem Inside.references_subset {l l' : Location} {entries : List (String × Document)}
    {d : Document} (h : Inside l entries l' d) :
    d.references ⊆ (Document.object entries).references := by
  cases h with
  | declared hp hd =>
    exact fun r hr => Document.references_entry_subset hp (Document.references_entry_subset hd hr)
  | additional ha _ => exact Document.references_entry_subset ha
  | items hi _ => exact Document.references_entry_subset hi

/-! ## What references give is all that counts -/

/-- Two ways to follow references agree on those that stand in a value. -/
def Agree (name : String) (f g : Follow) (d : Document) : Prop :=
  ∀ l reference, l.document = name → reference ∈ d.references → f l reference = g l reference

theorem Agree.entry {name : String} {f g : Follow} {entries : List (String × Document)}
    {key : String} {d : Document} (h : Agree name f g (.object entries)) (hd : (key, d) ∈ entries) :
    Agree name f g d :=
  fun l reference hl hr => h l reference hl (Document.references_entry_subset hd hr)

section Congruence

variable {name : String} {f g : Follow}

theorem compileProperties_congr {l : Location} {entries : List (String × Document)}
    (h : ∀ e ∈ entries, ∀ k : Location, k.document = l.document →
      compileNode f k e.2 = compileNode g k e.2) :
    compileProperties f l entries = compileProperties g l entries := by
  induction entries with
  | nil => rw [compileProperties.eq_def, compileProperties.eq_def]
  | cons e rest ih =>
    have first := h e List.mem_cons_self (l.child e.1) rfl
    have rest := ih fun e he => h e (List.mem_cons_of_mem _ he)
    rw [compileProperties.eq_def, compileProperties.eq_def]
    dsimp only
    rw [first, rest]

theorem compileKeywords_congr {l : Location} {entries : List (String × Document)} {s : Schema}
    (hd : ∀ e ∈ entries, compileDeclarations f l e.2 = compileDeclarations g l e.2)
    (h : ∀ e ∈ entries, ∀ k : Location, k.document = l.document →
      compileNode f k e.2 = compileNode g k e.2) :
    compileKeywords f l entries s = compileKeywords g l entries s := by
  induction entries generalizing s with
  | nil => rw [compileKeywords.eq_def, compileKeywords.eq_def]
  | cons e rest ih =>
    obtain ⟨keyword, d⟩ := e
    have first : addKeyword l (fun _ => compileDeclarations f l d)
        (fun inside => compileNode f inside d) keyword d s =
        addKeyword l (fun _ => compileDeclarations g l d)
          (fun inside => compileNode g inside d) keyword d s := by
      have declared := hd _ List.mem_cons_self
      have compiled := h _ List.mem_cons_self
      unfold addKeyword
      dsimp only at declared compiled ⊢
      rw [declared, compiled (l.child keyword) rfl]
    rw [compileKeywords.eq_def, compileKeywords.eq_def]
    dsimp only
    rw [first]
    cases addKeyword l (fun _ => compileDeclarations g l d)
        (fun inside => compileNode g inside d) keyword d s with
    | error e => rfl
    | ok s =>
      exact ih (fun e he => hd e (List.mem_cons_of_mem _ he))
        fun e he => h e (List.mem_cons_of_mem _ he)

/-- **The outcome for a value depends on the references in it alone**, whether it is a schema or an
error. -/
theorem compileNode_congr {l : Location} {d : Document} (hl : l.document = name)
    (h : Agree name f g d) : compileNode f l d = compileNode g l d := by
  induction hn : d.nesting using Nat.strongRecOn generalizing l d with
  | ind n ih =>
    subst hn
    have inner : ∀ entries : List (String × Document), (Document.object entries).nesting ≤ d.nesting →
        Agree name f g (.object entries) → ∀ e ∈ entries, ∀ k : Location, k.document = name →
          compileNode f k e.2 = compileNode g k e.2 := fun entries hle ha e he k hk =>
      ih _ (Nat.lt_of_lt_of_le (Document.nesting_lt_of_mem he) hle) hk (ha.entry he) rfl
    cases d with
    | object entries =>
      rw [compileNode.eq_def, compileNode.eq_def]
      dsimp only
      cases hr : entries.lookup "$ref" with
      | some value =>
        cases value with
        | string reference =>
          exact h l reference hl (Document.mem_referencesInEntries (Entries.mem_of_lookup hr))
        | _ => rfl
      | none =>
        refine compileKeywords_congr (fun e he => ?_) fun e he k hk =>
          inner entries (Nat.le_refl _) h e he k (hk.trans hl)
        rw [compileDeclarations.eq_def, compileDeclarations.eq_def]
        obtain ⟨key, value⟩ := e
        cases value with
        | object declared =>
          exact compileProperties_congr fun e' he' k hk =>
            inner declared (Nat.le_of_lt (Document.nesting_lt_of_mem he)) (h.entry he) e' he' k
              (hk.trans hl)
        | _ => rfl
    | bool b => cases b <;> rw [compileNode.eq_def, compileNode.eq_def]
    | _ => rw [compileNode.eq_def, compileNode.eq_def]

end Congruence

end Schema

namespace Library

variable {lib : Library} {name : String}

/-! ## The places that references lead to -/

/-- The references in all documents. -/
def references (lib : Library) : List String := lib.documents.flatMap fun d => d.2.references

/-- **There are finitely many places to go to**: wherever a reference that occurs anywhere is read in
one of the documents, the place that it leads to is listed. -/
theorem target_mem_targets {l : Location} {reference : String} {root : Document}
    (hl : lib.documents.lookup l.document = some root) (hr : reference ∈ lib.references) :
    (l.target reference).render ∈ lib.targets :=
  List.mem_flatMap.mpr ⟨(l.document, root), Entries.mem_of_lookup hl,
    List.mem_map.mpr ⟨reference, hr, rfl⟩⟩

theorem references_lookup_subset {root : Document} (h : lib.documents.lookup name = some root) :
    root.references ⊆ lib.references := fun _ hr =>
  List.mem_flatMap.mpr ⟨_, Entries.mem_of_lookup h, hr⟩

/-- A place in one of the documents, where nothing is referred to but what the documents refer to. -/
def Within (lib : Library) (l : Location) (d : Document) : Prop :=
  (∃ root, lib.documents.lookup l.document = some root) ∧ d.references ⊆ lib.references

theorem within_of_find? {l : Location} {d : Document} (h : lib.find? l = some d) :
    lib.Within l d := by
  obtain ⟨root, hr, hp⟩ := Option.bind_eq_some_iff.mp h
  exact ⟨⟨root, hr⟩, fun r hd =>
    references_lookup_subset hr (Document.references_pointer?_subset hp hd)⟩

theorem within_of_lookup {root : Document} (h : lib.documents.lookup name = some root) :
    lib.Within ⟨name, ""⟩ root :=
  ⟨⟨root, h⟩, references_lookup_subset h⟩

/-! ## Chains -/

/-- A value at a place comes to be compiled in the course of compiling the document of a name, while
the references to the places of a chain are being expanded, the latest one first. -/
inductive Expands (lib : Library) (name : String) : List Location → Location → Document → Prop
  | root {d : Document} (h : lib.documents.lookup name = some d) : Expands lib name [] ⟨name, ""⟩ d
  | inside {chain : List Location} {l l' : Location} {entries : List (String × Document)}
      {d : Document} (h : Expands lib name chain l (.object entries))
      (hr : entries.lookup "$ref" = none) (hi : Schema.Inside l entries l' d) :
      Expands lib name chain l' d
  | reference {chain : List Location} {l : Location} {entries : List (String × Document)}
      {reference : String} {d : Document} (h : Expands lib name chain l (.object entries))
      (hr : entries.lookup "$ref" = some (.string reference))
      (hf : lib.find? (l.target reference) = some d)
      (hn : (l.target reference).render ∉ chain.map Location.render) :
      Expands lib name (l.target reference :: chain) (l.target reference) d

theorem Expands.within {chain : List Location} {l : Location} {d : Document}
    (h : lib.Expands name chain l d) : lib.Within l d := by
  induction h with
  | root h => exact within_of_lookup h
  | inside _ _ hi ih =>
    refine ⟨hi.document ▸ ih.1, fun r hr => ih.2 (hi.references_subset hr)⟩
  | reference _ _ hf _ _ => exact within_of_find? hf

/-- **No chain is longer than there are places**: its places are distinct as written, and all of them
are listed. -/
theorem Expands.bounded {chain : List Location} {l : Location} {d : Document}
    (h : lib.Expands name chain l d) : (chain.map Location.render).Nodup ∧
      chain.map Location.render ⊆ lib.targets ∧ chain.length ≤ lib.targets.length := by
  have listed : (chain.map Location.render).Nodup ∧ chain.map Location.render ⊆ lib.targets := by
    induction h with
    | root => exact ⟨List.nodup_nil, nofun⟩
    | inside _ _ _ ih => exact ih
    | reference h hr _ hn ih =>
      obtain ⟨⟨root, hroot⟩, hrefs⟩ := h.within
      have hmem := target_mem_targets hroot
        (hrefs (Document.mem_referencesInEntries (Entries.mem_of_lookup hr)))
      exact ⟨List.nodup_cons.mpr ⟨hn, ih.1⟩, List.cons_subset.mpr ⟨hmem, ih.2⟩⟩
  refine ⟨listed.1, listed.2, ?_⟩
  rw [← List.length_map Location.render]
  exact (List.subperm_of_subset listed.1 listed.2).length_le

/-! ## Compiling with nothing but the chain -/

/-- The outcome for a value at a place, where the references to some places, as written, are being
expanded.  Any other reference is followed, whatever it leads to.  The count says how many references
may be expanded inside each other; `stop` is the answer where that is not enough. -/
def expand (lib : Library) (stop : Except SchemaError Schema) :
    Nat → List String → Location → Document → Except SchemaError Schema
  | 0, _, _, _ => stop
  | n + 1, active, l, d =>
    Schema.compileNode (fun here reference =>
      match lib.find? (here.target reference) with
      | none => .error (.unresolvedReference here reference)
      | some found =>
        if (here.target reference).render ∈ active then .error (.cyclicReference here reference)
        else
          lib.expand stop n ((here.target reference).render :: active) (here.target reference)
            found) l d

/-- The outcome for the document of a name, starting with no reference. -/
def expandRoot (lib : Library) (stop : Except SchemaError Schema) (n : Nat) (name : String) :
    Except SchemaError Schema :=
  match lib.documents.lookup name with
  | none => .error (.unknownDocument name)
  | some root => lib.expand stop n [] ⟨name, ""⟩ root

/-- Entering a place takes it off the places that are open and puts it on the chain. -/
theorem mem_without_iff {allowed active : List String} {place : String}
    (h : place ∈ allowed ↔ place ∉ active) (entered : String) :
    place ∈ without entered allowed ↔ place ∉ entered :: active := by
  rw [without, List.mem_filter, List.mem_cons, not_or, h, decide_eq_true_iff]
  exact and_comm

/-- Knowing the chain is as good as knowing the places that remain: with more depth than there are
places left the two compilers agree, and `stop` is never the answer. -/
theorem expand_eq_compileAt (stop : Except SchemaError Schema) {n : Nat}
    {active allowed : List String} (hn : allowed.length < n)
    (ha : ∀ place ∈ lib.targets, place ∈ allowed ↔ place ∉ active) {l : Location} {d : Document}
    (hd : lib.Within l d) : lib.expand stop n active l d = lib.compileAt allowed l d := by
  induction n generalizing active allowed l d with
  | zero => cases hn
  | succ n ih =>
    obtain ⟨⟨root, hroot⟩, hrefs⟩ := hd
    rw [compileAt_eq, expand]
    refine Schema.compileNode_congr rfl fun here reference hl hr => ?_
    have listed : (here.target reference).render ∈ lib.targets :=
      target_mem_targets (hl ▸ hroot) (hrefs hr)
    rw [following]
    cases hf : lib.find? (here.target reference) with
    | none => rfl
    | some found =>
      dsimp only
      by_cases hm : (here.target reference).render ∈ active
      · rw [if_pos hm, if_neg fun h => (ha _ listed).mp h hm]
      · have hopen := (ha _ listed).mpr hm
        have hlt := without_length_lt hopen
        rw [if_neg hm, if_pos hopen]
        exact ih (by omega) (fun place hp => mem_without_iff (ha place hp) _) (within_of_find? hf)

/-- **Compilation terminates, whatever the documents hold.**  No place comes twice on a chain of
references, and the places on it are among the finitely many that any reference can lead to.  So a
compiler that knows nothing but the chain needs no more depth than there are places: it then gives the
outcome of `compile`, a schema or an error, and would give no other if it were told to stop at once
when it goes deeper. -/
theorem compile_terminates (lib : Library) (name : String) :
    (∀ chain l d, lib.Expands name chain l d → (chain.map Location.render).Nodup ∧
      chain.map Location.render ⊆ lib.targets ∧ chain.length ≤ lib.targets.length) ∧
    ∀ (stop : Except SchemaError Schema) (n : Nat), lib.targets.length < n →
      lib.expandRoot stop n name = lib.compile name := by
  refine ⟨fun chain l d h => h.bounded, fun stop n hn => ?_⟩
  unfold expandRoot compile
  cases hr : lib.documents.lookup name with
  | none => rfl
  | some root =>
    exact expand_eq_compileAt stop hn (fun place hp => iff_of_true hp List.not_mem_nil)
      (within_of_lookup hr)

end Library

end ManifestCheck
