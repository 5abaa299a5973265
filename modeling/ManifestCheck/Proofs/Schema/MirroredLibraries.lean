import Mathlib.Data.List.Forall2
import ManifestCheck.Proofs.Schema.CompiledObjects
import ManifestCheck.Proofs.Schema.FaultPlaces

/-!
# Libraries that mirror each other

Two libraries may differ in much that compilation never looks at, or looks at without regard to its
order.  One mirrors the other if at every place where compilation of the first comes by, the second
has a value with the same reference, or else with the same keywords (`Document.Mirrors`): alike but
for what is in their objects, with the same declared keys in the same order and the same list of
permitted values.

Then both compile to one schema (`Library.compile_mirrored`).  The induction is that of compilation
itself, on the open places, and on the value as long as none is entered; the two libraries may have
different places to go to, and so both are given the places of either.
-/

namespace ManifestCheck

/-! ## Values that are alike but for what is in their objects -/

namespace Document

/-- Two values are the same but for what is in their objects. -/
inductive Outlines : Document → Document → Prop
  | null : Outlines null null
  | bool (b : Bool) : Outlines (bool b) (bool b)
  | number (n : Number) : Outlines (number n) (number n)
  | string (text : String) : Outlines (string text) (string text)
  | array {items items' : List Document} : List.Forall₂ Outlines items items' →
    Outlines (array items) (array items')
  | object (entries entries' : List (String × Document)) :
    Outlines (object entries) (object entries')

namespace Outlines

variable {d d' : Document}

theorem text? (h : d.Outlines d') : d.text? = d'.text? := by cases h <;> rfl

theorem number? (h : d.Outlines d') : d.number? = d'.number? := by cases h <;> rfl

theorem truth? (h : d.Outlines d') : d.truth? = d'.truth? := by cases h <;> rfl

theorem isArray (h : d.Outlines d') : d.isArray = d'.isArray := by cases h <;> rfl

theorem pattern? (h : d.Outlines d') : d.pattern? = d'.pattern? := by cases h <;> rfl

theorem count? (h : d.Outlines d') : d.count? = d'.count? := by
  rw [Document.count?, Document.count?, h.number?]

theorem mapM_text? {items items' : List Document} (h : List.Forall₂ Outlines items items') :
    items.mapM Document.text? = items'.mapM Document.text? := by
  induction h with
  | nil => rfl
  | cons hfirst _ ih => rw [List.mapM_cons, List.mapM_cons, hfirst.text?, ih]

theorem texts? (h : d.Outlines d') : d.texts? = d'.texts? := by
  cases h with
  | array hall => exact mapM_text? hall
  | _ => rfl

theorem typeNames? (h : d.Outlines d') : d.typeNames? = d'.typeNames? := by
  cases h with
  | array hall =>
    cases hall with
    | nil => rfl
    | cons hfirst hrest => exact mapM_text? (.cons hfirst hrest)
  | _ => rfl

theorem typeSet? (h : d.Outlines d') : d.typeSet? = d'.typeSet? := by
  rw [typeSet?_eq, typeSet?_eq, h.typeNames?]

end Outlines

end Document

/-! ## Objects with the same keywords -/

namespace Schema

/-- The keys that a schema object is asked for. -/
def keywords : List String := ["$ref", "type", "required", "properties", "additionalProperties",
  "items", "pattern", "enum", "minimum", "maximum", "minLength", "maxLength", "minItems", "maxItems"]

/-- Two objects hold the same under every keyword, but for what is in the objects there.  They list
the same values and declare the same keys in the same order. -/
structure SameKeywords (entries entries' : List (String × Document)) : Prop where
  outline : ∀ keyword ∈ keywords,
    Option.Rel Document.Outlines (entries.lookup keyword) (entries'.lookup keyword)
  listed : entries.lookup "enum" = entries'.lookup "enum"
  declared : ∀ declared declared', entries.lookup "properties" = some (.object declared) →
    entries'.lookup "properties" = some (.object declared') →
      Entries.keys declared = Entries.keys declared'

end Schema

theorem Filled.transfer {α : Type} {entries entries' : List (String × Document)} {own : String}
    {read : Document → Option α} {old new : α} {R : Document → Document → Prop}
    (h : Filled entries α own read old new)
    (hrel : Option.Rel R (entries.lookup own) (entries'.lookup own))
    (hread : ∀ d d', R d d' → read d = read d') : Filled entries' α own read old new := by
  unfold Filled at h ⊢
  generalize entries.lookup own = d at h hrel
  generalize entries'.lookup own = d' at hrel ⊢
  cases hrel with
  | none => exact h
  | some hr => exact (hread _ _ hr).symm.trans h

namespace Schema

section Transfer

variable {entries entries' : List (String × Document)} (h : SameKeywords entries entries')

include h

/-- The same checks are read from both. -/
theorem SameKeywords.checks {old new : Checks} (hc : Checks.ByKeyword (Filled entries) old new) :
    Checks.ByKeyword (Filled entries') old new := by
  have counted {keyword : String} (hk : keyword ∈ keywords) {old new : Option Nat}
      (hf : Filled entries _ keyword (fun d => d.count?.map some) old new) :=
    hf.transfer (h.outline keyword hk) fun d d' hd => by rw [hd.count?]
  have measured {keyword : String} (hk : keyword ∈ keywords) {old new : Option Number}
      (hf : Filled entries _ keyword (fun d => d.number?.map some) old new) :=
    hf.transfer (h.outline keyword hk) fun d d' hd => by rw [hd.number?]
  have listed : Option.Rel Eq (entries.lookup "enum") (entries'.lookup "enum") := by
    rw [h.listed]
    cases entries'.lookup "enum" with
    | none => exact .none
    | some d => exact .some rfl
  exact {
    types := hc.types.transfer (h.outline _ (by decide)) fun d d' hd => by rw [hd.typeSet?]
    required := hc.required.transfer (h.outline _ (by decide)) fun d d' hd => hd.texts?
    pattern := hc.pattern.transfer (h.outline _ (by decide)) fun d d' hd => by rw [hd.pattern?]
    enumeration := hc.enumeration.transfer listed fun d d' hd => by rw [hd]
    minimum := measured (by decide) hc.minimum
    maximum := measured (by decide) hc.maximum
    minLength := counted (by decide) hc.minLength
    maxLength := counted (by decide) hc.maxLength
    minItems := counted (by decide) hc.minItems
    maxItems := counted (by decide) hc.maxItems }

theorem SameKeywords.each? : Option.Rel Document.Outlines (each? entries) (each? entries') :=
  h.outline _ (by decide)

theorem SameKeywords.extra? : Option.Rel Document.Outlines (extra? entries) (extra? entries') := by
  have hrel := h.outline "additionalProperties" (by decide)
  unfold Schema.extra?
  generalize entries.lookup "additionalProperties" = d at hrel ⊢
  generalize entries'.lookup "additionalProperties" = d' at hrel ⊢
  cases hrel with
  | none => exact .none
  | some hd =>
    rw [Option.filter_some, Option.filter_some, hd.truth?]
    split
    · exact .some hd
    · exact .none

/-- Both declare the same keys. -/
theorem SameKeywords.declared? {declared : List (String × Document)}
    (hd : declared? entries = some declared) :
    ∃ declared', declared? entries' = some declared' ∧
      Entries.keys declared = Entries.keys declared' := by
  have hrel := h.outline "properties" (by decide)
  have hkeys := h.declared
  unfold Schema.declared? at hd ⊢
  generalize entries.lookup "properties" = d at hd hrel hkeys
  generalize entries'.lookup "properties" = d' at hrel hkeys ⊢
  cases hrel with
  | none =>
    cases hd
    exact ⟨[], rfl, rfl⟩
  | some hd' =>
    cases hd' with
    | object names names' =>
      cases hd
      exact ⟨names', rfl, hkeys _ _ rfl rfl⟩
    | _ => cases hd

end Transfer

/-- What stands for a declared key stands under this key in both objects. -/
theorem declared_transfer {U V : Document → Schema → Prop} {ps : List (String × Schema)}
    {declared declared' : List (String × Document)}
    (hp : Entries.keys ps = Entries.keys declared)
    (hkeys : Entries.keys declared = Entries.keys declared')
    (huv : ∀ key d d' t, (key, d) ∈ declared → (key, d') ∈ declared' → U d t → V d' t)
    (hu : ∀ x ∈ ps.zip declared, U x.2.2 x.1.2) : ∀ x ∈ ps.zip declared', V x.2.2 x.1.2 := by
  induction declared generalizing ps declared' with
  | nil =>
    rw [List.map_eq_nil_iff.mp hp]
    nofun
  | cons e rest ih =>
    obtain ⟨p, ps, rfl, -, hp⟩ := List.map_eq_cons_iff.mp hp
    obtain ⟨e', rest', rfl, hkey, hkeys⟩ := List.map_eq_cons_iff.mp hkeys.symm
    rw [List.zip_cons_cons] at hu ⊢
    obtain ⟨hfirst, hrest⟩ := List.forall_mem_cons.mp hu
    refine List.forall_mem_cons.mpr ⟨?_, ih hp hkeys.symm (fun key d d' t hd hd' =>
      huv key d d' t (List.mem_cons_of_mem _ hd) (List.mem_cons_of_mem _ hd')) hrest⟩
    have hmem : (e.1, e'.2) ∈ e' :: rest' := hkey ▸ List.mem_cons_self
    exact huv e.1 e.2 e'.2 p.2 List.mem_cons_self hmem hfirst

theorem optionRel_transfer {U V : Document → Schema → Prop} {R : Document → Document → Prop}
    {d? d'? : Option Document} {s? : Option Schema} (h : Option.Rel U d? s?)
    (hrel : Option.Rel R d? d'?)
    (huv : ∀ d d' t, d? = some d → d'? = some d' → U d t → V d' t) : Option.Rel V d'? s? := by
  cases h with
  | none =>
    cases hrel
    exact .none
  | some hu =>
    cases hrel
    exact .some (huv _ _ _ rfl rfl hu)

theorem inside_declared {l : Location} {entries declared : List (String × Document)} {key : String}
    {d : Document} (hd : declared? entries = some declared) (hm : (key, d) ∈ declared) :
    Inside l entries ((l.child "properties").child key) d := by
  unfold declared? at hd
  split at hd
  · cases hd
    cases hm
  · cases hd
    exact .declared (Entries.mem_of_lookup ‹_›) hm
  · cases hd

theorem inside_extra {l : Location} {entries : List (String × Document)} {d : Document}
    (hd : extra? entries = some d) (hfalse : d.truth? ≠ some false) :
    Inside l entries (l.child "additionalProperties") d := by
  obtain ⟨hl, htrue⟩ := Option.filter_eq_some_iff.mp hd
  refine .additional (Entries.mem_of_lookup hl) ?_
  cases ht : d.truth? with
  | none => rfl
  | some b =>
    cases b with
    | false => exact absurd ht hfalse
    | true => exact absurd ht (of_decide_eq_true htrue)

/-- **With the same keywords, the same schema is read**, if what is inside the second object has the
schemas of what stands at the same places inside the first. -/
theorem FromKeywords.transfer {U V : Document → Schema → Prop} {l : Location}
    {entries entries' : List (String × Document)} {s : Schema} (h : FromKeywords U entries s)
    (hsame : SameKeywords entries entries')
    (hu : ∀ d t, U d t → ∃ f k, compileNode f k d = .ok t)
    (huv : ∀ k d d' t, Inside l entries k d → Inside l entries' k d' → U d t → V d' t) :
    FromKeywords V entries' s where
  checks := hsame.checks h.checks
  declared := by
    obtain ⟨declared, hd, hp, hall⟩ := h.declared
    obtain ⟨declared', hd', hkeys⟩ := hsame.declared? hd
    exact ⟨declared', hd', hp.trans hkeys, declared_transfer hp hkeys (fun key d d' t hm hm' =>
      huv _ d d' t (inside_declared hd hm) (inside_declared hd' hm')) hall⟩
  additional := by
    refine optionRel_transfer h.additional hsame.extra? fun d d' t hd hd' => ?_
    have hrel := hsame.extra?
    rw [hd, hd'] at hrel
    cases hrel with
    | some ho =>
      have hfalse := h.truth?_ne_false hu (Option.filter_eq_some_iff.mp hd).1
      exact huv _ d d' t (inside_extra hd hfalse) (inside_extra hd' (ho.truth? ▸ hfalse))
  items := by
    refine optionRel_transfer h.items hsame.each? fun d d' t hd hd' => ?_
    have hrel := hsame.each?
    rw [hd, hd'] at hrel
    cases hrel with
    | some ho =>
      have harray := h.isArray_eq_false hu hd
      exact huv _ d d' t (.items (Entries.mem_of_lookup hd) harray)
        (.items (Entries.mem_of_lookup hd') (ho.isArray ▸ harray))

end Schema

/-! ## Values and libraries that mirror each other -/

/-- A value mirrors another as far as compilation looks at it by itself: it lets everything pass, it
has the same reference, or it has no reference and the same keywords. -/
inductive Document.Mirrors : Document → Document → Prop
  | always : Mirrors (.bool true) (.bool true)
  | reference {entries entries' : List (String × Document)} {reference : String}
      (hr : entries.lookup "$ref" = some (.string reference))
      (hr' : entries'.lookup "$ref" = some (.string reference)) :
      Mirrors (.object entries) (.object entries')
  | keywords {entries entries' : List (String × Document)} (hr : entries.lookup "$ref" = none)
      (hr' : entries'.lookup "$ref" = none) (h : Schema.SameKeywords entries entries') :
      Mirrors (.object entries) (.object entries')

namespace Library

variable {lib lib' : Library} {name : String}

/-- At every place where compiling the document of a name comes by, another library has a value that
mirrors the one there.  Nothing is asked where a value does not compile. -/
def MirroredBy (lib lib' : Library) (name : String) : Prop :=
  ∀ chain l d, lib.Expands name chain l d → (∃ allowed s, lib.compileAt allowed l d = .ok s) →
    ∃ d', lib'.find? l = some d' ∧ d.Mirrors d'

/-- **A library that mirrors another compiles to the same**, at each place, if the same places are
still open in both. -/
theorem compileAt_mirrored (hlib : lib.KeysDistinct) (hlib' : lib'.KeysDistinct)
    (hm : lib.MirroredBy lib' name) {chain : List Location} {allowed : List String} {l : Location}
    {d d' : Document} {s : Schema} (hx : lib.Expands name chain l d)
    (ha : ∀ place ∈ lib.targets, place ∈ allowed ↔ place ∉ chain.map Location.render)
    (hd' : lib'.find? l = some d') (h : lib.compileAt allowed l d = .ok s) :
    lib'.compileAt allowed l d' = .ok s := by
  induction hn : allowed.length using Nat.strongRecOn generalizing chain allowed l d d' s with
  | ind n ihallowed =>
    subst hn
    induction hn : d.nesting using Nat.strongRecOn generalizing l d d' s with
    | ind n ihnesting =>
      subst hn
      have hdistinct := keysDistinct_find? hlib (hx.find?_eq_some hlib)
      have hdistinct' := keysDistinct_find? hlib' hd'
      obtain ⟨_, heq, hmirrors⟩ := hm chain l d hx ⟨allowed, s, h⟩
      cases hd'.symm.trans heq
      rw [compileAt_eq] at h ⊢
      cases hmirrors with
      | always =>
        rw [Schema.compileNode.eq_def] at h ⊢
        exact h
      | @reference entries entries' reference hr hr' =>
        rw [Schema.compileNode.eq_def] at h ⊢
        dsimp only at h ⊢
        rw [hr] at h
        rw [hr']
        obtain ⟨found, hf, hopen, hc⟩ := following_ok h
        obtain ⟨⟨root, hroot⟩, hrefs⟩ := hx.within
        have listed := target_mem_targets hroot
          (hrefs (Document.mem_referencesInEntries (Entries.mem_of_lookup hr)))
        have hx' := hx.reference hr hf ((ha _ listed).mp hopen)
        obtain ⟨found', hf', -⟩ := hm _ _ _ hx' ⟨_, s, hc⟩
        show lib'.following allowed l reference = .ok s
        rw [following, hf']
        dsimp only
        rw [if_pos hopen]
        exact ihallowed _ (without_length_lt hopen) hx'
          (fun place hp => mem_without_iff (ha place hp) _) hf' hc rfl
      | @keywords entries entries' hr hr' hsame =>
        have hread := Schema.compileNode_fromKeywords
          (Document.keysDistinct_object.mp hdistinct).1 hr h
        refine Schema.compileNode_of_fromKeywords hdistinct' hr'
          (V := fun d' t => ∀ k : Location, k.document = l.document →
            Schema.compileNode (lib'.following allowed) k d' = .ok t)
          (hread.transfer (l := l) hsame ?_ ?_) fun _ _ hv => hv
        · intro d t hy
          obtain ⟨k, -, hy⟩ := hy
          exact ⟨_, k, hy⟩
        · intro l' d d' t hi hi' hy k hk
          obtain ⟨k', hk', hy⟩ := hy
          rw [← compileAt_eq] at hy ⊢
          have hopen : lib.compileAt allowed l' d = .ok t :=
            compileAt_moved (fun _ hp => hp) (hk'.trans hi.document.symm) hy
          have hfound := find?_inside hd' hdistinct' hi'
          exact compileAt_moved (fun _ hp => hp) (hi'.document.trans hk.symm)
            (ihnesting _ hi.nesting_lt (hx.inside hr hi) hfound hopen rfl)

/-- Only places to which references lead need to be open. -/
theorem compileAt_eq_compile {allowed : List String} {root : Document}
    (hroot : lib.documents.lookup name = some root) (ha : lib.targets ⊆ allowed) :
    lib.compileAt allowed ⟨name, ""⟩ root = lib.compile name := by
  have bounded : ∀ places : List String, lib.targets ⊆ places →
      places.length < allowed.length + lib.targets.length + 1 →
        lib.expand (lib.compile name) (allowed.length + lib.targets.length + 1) [] ⟨name, ""⟩ root =
          lib.compileAt places ⟨name, ""⟩ root := fun places hp hn =>
    expand_eq_compileAt _ hn (fun place hmem => iff_of_true (hp hmem) List.not_mem_nil)
      (within_of_lookup hroot)
  have hcompile : lib.compile name = lib.compileAt lib.targets ⟨name, ""⟩ root := by
    rw [compile, hroot]
  rw [hcompile, ← bounded _ ha (by omega), bounded _ (fun _ hp => hp) (by omega)]

/-- **A library that mirrors another gives the same schema under the name.**  Both are compiled with
the places of either open. -/
theorem compile_mirrored (hlib : lib.KeysDistinct) (hlib' : lib'.KeysDistinct)
    (hm : lib.MirroredBy lib' name) {s : Schema} (h : lib.compile name = .ok s) :
    lib'.compile name = .ok s := by
  cases hroot : lib.documents.lookup name with
  | none =>
    rw [compile, hroot] at h
    cases h
  | some root =>
    rw [← compileAt_eq_compile hroot (List.subset_append_left lib.targets lib'.targets)] at h
    obtain ⟨root', hroot', -⟩ := hm [] ⟨name, ""⟩ root (.root hroot) ⟨_, s, h⟩
    have hlookup : lib'.documents.lookup name = some root' := by
      obtain ⟨d, hd, hp⟩ := Option.bind_eq_some_iff.mp hroot'
      exact hd.trans hp
    rw [← compileAt_eq_compile hlookup (List.subset_append_right lib.targets lib'.targets)]
    exact compileAt_mirrored hlib hlib' hm (.root hroot)
      (fun place hp => iff_of_true (List.mem_append_left _ hp) List.not_mem_nil) hroot' h

end Library

end ManifestCheck
