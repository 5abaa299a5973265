import ManifestCheck.Proofs.Document.AssembledDocuments
import ManifestCheck.Proofs.Schema.IgnoredKeys

/-!
# The numbers that a report shows

The reader lets no number in whose literal is not one of the grammar.  Bounds and listed values are
taken from schema documents as they stand, so that those of a compiled schema are literals too
(`Library.Unfolds.numbersLiteral`).  A violation is a fault of the value at its path under the
schema that governs this value (`Schema.exists_fault_of_mem_report`), and so the numbers that it
shows are literals (`Schema.numbersLiteral_of_mem_report`).
-/

namespace ManifestCheck

/-! ## Documents -/

namespace Document

theorem numbersLiteral_object {entries : List (String × Document)} :
    (object entries).NumbersLiteral ↔ ∀ e ∈ entries, e.2.NumbersLiteral :=
  ⟨fun h _ he => h.entry he, .object⟩

theorem numbersLiteral_array {items : List Document} :
    (array items).NumbersLiteral ↔ ∀ d ∈ items, d.NumbersLiteral :=
  ⟨fun h _ hd => h.element hd, .array⟩

theorem numbersLiteral_string {text : String} : (string text).NumbersLiteral ↔ True :=
  iff_true_intro (.string text)

theorem numbersLiteral_number {n : Number} : (number n).NumbersLiteral ↔ n.IsLiteral := by
  refine ⟨fun h => ?_, .number⟩
  cases h with
  | number hn => exact hn

theorem NumbersLiteral.at? {p : Path} {d node : Document} (h : d.NumbersLiteral)
    (hp : d.at? p = some node) : node.NumbersLiteral :=
  at?_invariant (fun _ _ _ h hi => h.child? hi) h hp

theorem NumbersLiteral.step? {step : List Char} {d inner : Document} (h : d.NumbersLiteral)
    (hi : d.step? step = some inner) : inner.NumbersLiteral := by
  unfold Document.step? at hi
  split at hi
  · exact h.entry (Entries.mem_of_lookup hi)
  · obtain ⟨i, -, hi⟩ := Option.bind_eq_some_iff.mp hi
    exact h.element (List.mem_of_getElem? hi)
  · cases hi

end Document

/-! ## Schemas -/

/-- The bounds and the listed values hold no number that is not a literal. -/
structure Checks.NumbersLiteral (c : Checks) : Prop where
  enumeration : ∀ options ∈ c.enumeration, ∀ o ∈ options, o.NumbersLiteral
  minimum : ∀ n ∈ c.minimum, n.IsLiteral
  maximum : ∀ n ∈ c.maximum, n.IsLiteral

/-- The documents of a library hold no number that is not a literal. -/
def Library.NumbersLiteral (lib : Library) : Prop := ∀ e ∈ lib.documents, e.2.NumbersLiteral

theorem Library.NumbersLiteral.find? {lib : Library} {l : Location} {d : Document}
    (h : lib.NumbersLiteral) (hf : lib.find? l = some d) : d.NumbersLiteral := by
  obtain ⟨root, hr, hp⟩ := Option.bind_eq_some_iff.mp hf
  exact Document.pointer?_invariant (fun _ _ _ hd hi => hd.step? hi)
    (h _ (Entries.mem_of_lookup hr)) hp

/-- A field that its keyword fills holds what was read from a value of the object. -/
theorem Filled.exists_mem {α : Type} {entries : List (String × Document)} {own : String}
    {read : Document → Option α} {value : α}
    (h : Filled entries (Option α) own (fun d => (read d).map some) none (some value)) :
    ∃ e ∈ entries, read e.2 = some value := by
  unfold Filled at h
  split at h
  · cases h
  · rename_i d hd
    obtain ⟨a, ha, hv⟩ := Option.map_eq_some_iff.mp h
    cases hv
    exact ⟨_, Entries.mem_of_lookup hd, ha⟩

theorem Document.NumbersLiteral.number? {d : Document} {n : Number} (h : d.NumbersLiteral)
    (hn : d.number? = some n) : n.IsLiteral := by
  unfold Document.number? at hn
  split at hn
  · cases hn
    exact numbersLiteral_number.mp h
  · cases hn

theorem Document.NumbersLiteral.listed? {d : Document} {values : List Document}
    (h : d.NumbersLiteral) (hv : d.listed? = some values) : ∀ v ∈ values, v.NumbersLiteral := by
  obtain ⟨members, hm, rfl⟩ := Option.map_eq_some_iff.mp hv
  unfold Document.members? at hm
  split at hm
  · cases hm
    rw [assembleItems_eq_map]
    exact List.forall_mem_map.mpr fun o ho => (h.element ho).assemble
  · cases hm

theorem Checks.numbersLiteral_of_byKeyword {entries : List (String × Document)} {c : Checks}
    (h : (Document.object entries).NumbersLiteral) (hc : Checks.ByKeyword (Filled entries) {} c) :
    c.NumbersLiteral where
  enumeration options ho := by
    obtain ⟨e, he, hread⟩ := (ho ▸ hc.enumeration).exists_mem
    exact (h.entry he).listed? hread
  minimum n hn := by
    obtain ⟨e, he, hread⟩ := (hn ▸ hc.minimum).exists_mem
    exact (h.entry he).number? hread
  maximum n hn := by
    obtain ⟨e, he, hread⟩ := (hn ▸ hc.maximum).exists_mem
    exact (h.entry he).number? hread

theorem Schema.numbersLiteral_of_mem_insides {entries : List (String × Document)} {d : Document}
    (hd : (Document.object entries).NumbersLiteral) (h : d ∈ insides entries) :
    d.NumbersLiteral := by
  obtain ⟨e, he, rfl | ⟨inner, hi, e', he', rfl⟩⟩ := mem_insides h
  · exact hd.entry he
  · exact (hi ▸ hd.entry he : (Document.object inner).NumbersLiteral).entry he'

/-- **The numbers of a compiled schema are literals**, because those of the schema documents are. -/
theorem Library.Unfolds.numbersLiteral {lib : Library} (hlib : lib.NumbersLiteral) {name : String}
    {d : Document} {s : Schema} (h : lib.Unfolds name d s) (hd : d.NumbersLiteral) :
    s.Everywhere (·.checks.NumbersLiteral) := by
  induction h with
  | always =>
    refine Schema.everywhere_of_child? ⟨nofun, nofun, nofun⟩ fun step t ht => ?_
    cases step <;> cases ht
  | reference _ hl _ _ ih =>
    obtain ⟨-, hf⟩ := (Library.leads_iff (l := ⟨_, ""⟩)).mp hl
    exact ih (hlib.find? hf)
  | keywords _ hk _ ih =>
    refine Schema.everywhere_of_child? (Checks.numbersLiteral_of_byKeyword hd hk.checks)
      fun step t ht => ?_
    obtain ⟨inner, hin, hu⟩ := hk.exists_of_child? ht
    exact ih inner t hu (Schema.numbersLiteral_of_mem_insides hd hin)

/-! ## Violations -/

/-- The numbers that a fault shows are literals. -/
def Fault.NumbersLiteral : Fault → Prop
  | tooSmall value bound | tooLarge value bound => value.IsLiteral ∧ bound.IsLiteral
  | unlisted value options => value.NumbersLiteral ∧ ∀ o ∈ options, o.NumbersLiteral
  | _ => True

theorem Checks.NumbersLiteral.of_mem_allFaults {c : Checks} {d : Document} {f : Fault}
    (hc : c.NumbersLiteral) (hd : d.NumbersLiteral) (hf : f ∈ c.allFaults d) :
    f.NumbersLiteral := by
  rcases List.mem_append.mp hf with hf | hf
  · cases d with
    | null | bool b => cases hf
    | object entries =>
      obtain ⟨name, -, rfl⟩ := List.mem_map.mp hf
      trivial
    | array elements =>
      rcases mem_sizeReport.mp hf with ⟨n, -, -, rfl⟩ | ⟨n, -, -, rfl⟩ <;> trivial
    | string value =>
      rcases List.mem_append.mp hf with hf | hf
      · rcases mem_sizeReport.mp hf with ⟨n, -, -, rfl⟩ | ⟨n, -, -, rfl⟩ <;> trivial
      · obtain ⟨p, -, -, rfl⟩ := mem_filter_map.mp hf
        trivial
    | number value =>
      have hvalue : value.IsLiteral := hd.number? rfl
      rcases List.mem_append.mp hf with hf | hf
      · obtain ⟨m, hm, -, rfl⟩ := mem_filter_map.mp hf
        exact ⟨hvalue, hc.minimum m hm⟩
      · obtain ⟨m, hm, -, rfl⟩ := mem_filter_map.mp hf
        exact ⟨hvalue, hc.maximum m hm⟩
  · obtain ⟨options, ho, -, rfl⟩ := mem_filter_map.mp hf
    exact ⟨hd, hc.enumeration options ho⟩

namespace Schema

/-- **The numbers that violations show are literals.** -/
theorem numbersLiteral_of_mem_report {s : Schema} {d : Document} {v : Violation}
    (hs : s.NamesDistinct) (hnumbers : s.Everywhere (·.checks.NumbersLiteral))
    (hd : d.keysDistinct = true) (hl : d.NumbersLiteral) (hv : v ∈ s.report d) :
    v.fault.NumbersLiteral := by
  obtain ⟨node, t, hnode, ht, hfault⟩ := exists_fault_of_mem_report hs hd hv
  rcases Checks.mem_faults hfault with ⟨types, hf⟩ | hf
  · rw [hf]
    trivial
  · exact (hnumbers _ _ ht).of_mem_allFaults (hl.at? hnode) hf

end Schema

end ManifestCheck
