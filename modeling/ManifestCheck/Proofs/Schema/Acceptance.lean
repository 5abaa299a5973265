import ManifestCheck.Proofs.Number.IntegerComparison
import ManifestCheck.Proofs.Schema.GoverningSchema

/-!
# What schemas accept

A document is accepted if its kind is admitted, it breaks nothing itself, and whatever is inside is
accepted by the schema for it (`accepts_iff`).  For the few forms of schemas that documents are made
of, texts and integers within bounds, lists and objects, this is spelled out as a property of the
document alone.
-/

namespace ManifestCheck

/-! ## Documents of a shape -/

namespace Document

def IsText (d : Document) : Prop := ∃ value, d = .string value

/-- A text that matches the pattern with a given source. -/
def Matches (source : String) (d : Document) : Prop :=
  ∃ value p, d = .string value ∧ Pattern.compile source = .ok p ∧ p.isMatch value = true

/-- An integer literal, of any length, with a value within two bounds. -/
def IsIntegerIn (least most : Int) (d : Document) : Prop :=
  ∃ n v, d = .number n ∧ n.intValue? = some v ∧ least ≤ v ∧ v ≤ most

def IsListOf (P : Document → Prop) (d : Document) : Prop :=
  ∃ elements, d = .array elements ∧ ∀ e ∈ elements, P e

/-- An object with values of one shape under whatever keys. -/
def IsMapOf (P : Document → Prop) (d : Document) : Prop :=
  ∃ entries, d = .object entries ∧ ∀ e ∈ entries, P e.2

def IsObject (d : Document) : Prop := ∃ entries, d = .object entries

/-- An object has a value under a key, and it is of a shape. -/
def Has (d : Document) (key : String) (P : Document → Prop) : Prop :=
  ∃ value, d.get? key = some value ∧ P value

/-- If there is a value under a key at all, it is of a shape. -/
def MayHave (d : Document) (key : String) (P : Document → Prop) : Prop :=
  ∀ value, d.get? key = some value → P value

theorem has_iff {entries : List (String × Document)} {key : String} {P : Document → Prop} :
    (object entries).Has key P ↔
      key ∈ Entries.keys entries ∧ (object entries).MayHave key P := by
  constructor
  · intro h
    obtain ⟨value, hv, hp⟩ := h
    refine ⟨Entries.mem_keys_of_mem (Entries.mem_of_lookup hv), fun other ho => ?_⟩
    cases hv.symm.trans ho
    exact hp
  · intro h
    obtain ⟨hk, h⟩ := h
    cases hl : entries.lookup key with
    | none => exact absurd hk (Entries.lookup_eq_none_iff_not_mem_keys.mp hl)
    | some value => exact ⟨value, hl, h value hl⟩

theorem Has.isObject {d : Document} {key : String} {P : Document → Prop} (h : d.Has key P) :
    d.IsObject := by
  obtain ⟨value, hv, -⟩ := h
  cases d with
  | object entries => exact ⟨entries, rfl⟩
  | _ => cases hv

theorem mayHave_congr {d : Document} {key : String} {P Q : Document → Prop}
    (h : ∀ v, d.get? key = some v → (P v ↔ Q v)) : d.MayHave key P ↔ d.MayHave key Q :=
  forall₂_congr h

theorem kind_eq_string_iff {d : Document} : d.kind = .string ↔ ∃ value, d = .string value := by
  cases d with
  | number n => by_cases h : n.isInteger <;> simp [kind, h]
  | _ => simp [kind]

theorem kind_eq_integer_iff {d : Document} :
    d.kind = .integer ↔ ∃ n, d = .number n ∧ n.isInteger = true := by
  cases d with
  | number n => by_cases h : n.isInteger <;> simp [kind, h]
  | _ => simp [kind]

theorem kind_eq_array_iff {d : Document} : d.kind = .array ↔ ∃ elements, d = .array elements := by
  cases d with
  | number n => by_cases h : n.isInteger <;> simp [kind, h]
  | _ => simp [kind]

theorem kind_eq_object_iff {d : Document} : d.kind = .object ↔ ∃ entries, d = .object entries := by
  cases d with
  | number n => by_cases h : n.isInteger <;> simp [kind, h]
  | _ => simp [kind]

end Document

/-! ## Acceptance by parts -/

/-- Where one kind other than numbers is asked for, no other kind is admitted. -/
theorem Checks.admits_iff_eq {c : Checks} {k k' : Kind} (h : c.types = some (TypeSet.ofList [k]))
    (hk : k ≠ .number) : c.Admits k' ↔ k' = k := by
  unfold Checks.Admits
  rw [h]
  cases k <;> cases k' <;> first | exact absurd rfl hk | decide

namespace Schema

variable {s : Schema} {d : Document}

theorem accepts_iff_report : s.accepts d = true ↔ s.report d = [] := by
  rw [accepts, violations_report, List.isEmpty_iff]

/-- A document is accepted by parts: its kind, what it breaks itself, and what is inside. -/
theorem accepts_iff :
    s.accepts d = true ↔ s.checks.Admits d.kind ∧ s.checks.allFaults d = [] ∧
      s.reportInside d = [] := by
  rw [accepts_iff_report]
  cases hr : s.checks.refused? d.kind with
  | some types =>
    rw [report_of_refused hr, ← Checks.refused?_eq_none_iff, hr]
    exact ⟨nofun, nofun⟩
  | none =>
    have hmem := fun v => mem_report_of_admitted (v := v) hr
    rw [← Checks.refused?_eq_none_iff]
    constructor
    · intro hnil
      rw [hnil] at hmem
      refine ⟨hr, List.eq_nil_iff_forall_not_mem.mpr fun f hf => ?_,
        List.eq_nil_iff_forall_not_mem.mpr fun v hv => ?_⟩
      · exact absurd ((hmem _).mpr (.inl ⟨f, hf, rfl⟩)) List.not_mem_nil
      · exact absurd ((hmem v).mpr (.inr hv)) List.not_mem_nil
    · intro h
      obtain ⟨-, hf, hi⟩ := h
      rw [hf, hi] at hmem
      refine List.eq_nil_iff_forall_not_mem.mpr fun v hv => ?_
      rcases (hmem v).mp hv with ⟨f, hf, -⟩ | hv
      · exact List.not_mem_nil hf
      · exact List.not_mem_nil hv

theorem reportInside_object_eq_nil_iff {entries : List (String × Document)} :
    s.reportInside (.object entries) = [] ↔
      (∀ q ∈ s.properties, ∀ inner, entries.lookup q.1 = some inner → q.2.accepts inner = true) ∧
        ∀ extra, s.additional = some extra → ∀ e ∈ entries, s.property? e.1 = none →
          extra.accepts e.2 = true := by
  rw [reportInside, List.append_eq_nil_iff]
  refine and_congr ?_ ?_
  · rw [List.eq_nil_iff_forall_not_mem]
    simp only [mem_reportDeclared, accepts_iff_report]
    constructor
    · intro h q hq inner hl
      refine List.eq_nil_iff_forall_not_mem.mpr fun u hu => ?_
      exact h _ ⟨q, hq, inner, hl, u, hu, rfl⟩
    · intro h v hv
      obtain ⟨q, hq, inner, hl, u, hu, -⟩ := hv
      rw [h q hq inner hl] at hu
      exact List.not_mem_nil hu
  · cases s.additional with
    | none => simp
    | some extra =>
      simp only [List.flatMap_eq_nil_iff, List.map_eq_nil_iff, List.mem_filter, Option.some.injEq,
        Option.isNone_iff_eq_none, accepts_iff_report]
      constructor
      · intro h other ho e he hp
        cases ho
        exact h e ⟨he, hp⟩
      · intro h e he
        exact h extra rfl e he.1 he.2

theorem reportInside_array_eq_nil_iff {elements : List Document} :
    s.reportInside (.array elements) = [] ↔
      ∀ each, s.items = some each → ∀ e ∈ elements, each.accepts e = true := by
  rw [reportInside]
  cases s.items with
  | none => simp
  | some each =>
    simp only [List.flatMap_eq_nil_iff, List.map_eq_nil_iff, Option.some.injEq,
      accepts_iff_report]
    constructor
    · intro h other ho e he
      cases ho
      obtain ⟨i, hi⟩ := List.getElem?_of_mem he
      exact h (e, i) (List.mem_zipIdx_iff_getElem?.mpr hi)
    · intro h e he
      exact h each rfl e.1 (List.mem_of_getElem? (List.mem_zipIdx_iff_getElem?.mp he))

/-! ## Forms of schemas -/

/-- Values of one kind, with nothing else asked of them. -/
def ofKind (k : Kind) : Schema := node { types := some (TypeSet.ofList [k]) } [] none none

/-- Texts that match a pattern. -/
def ofPattern (p : Pattern) : Schema :=
  node { types := some (TypeSet.ofList [.string]), pattern := some p } [] none none

/-- Integers within two bounds. -/
def ofBounds (least most : Number) : Schema :=
  node { types := some (TypeSet.ofList [.integer]), minimum := some least, maximum := some most }
    [] none none

/-- Lists of values that a schema accepts. -/
def listOf (each : Schema) : Schema :=
  node { types := some (TypeSet.ofList [.array]) } [] none (some each)

/-- Objects with values that a schema accepts. -/
def mapOf (extra : Schema) : Schema :=
  node { types := some (TypeSet.ofList [.object]) } [] (some extra) none

/-- Objects with some keys required and schemas for the values under some. -/
def ofProperties (required : List String) (properties : List (String × Schema)) : Schema :=
  node { types := some (TypeSet.ofList [.object]), required } properties none none

theorem accepts_string_iff (h : s.checks.types = some (TypeSet.ofList [.string])) :
    s.accepts d = true ↔ ∃ value, d = .string value ∧ s.checks.allFaults (.string value) = [] := by
  rw [accepts_iff, Checks.admits_iff_eq h (by decide)]
  constructor
  · intro hx
    obtain ⟨hk, hf, -⟩ := hx
    obtain ⟨value, rfl⟩ := Document.kind_eq_string_iff.mp hk
    exact ⟨value, rfl, hf⟩
  · intro hx
    obtain ⟨value, rfl, hf⟩ := hx
    exact ⟨rfl, hf, rfl⟩

theorem accepts_integer_iff (h : s.checks.types = some (TypeSet.ofList [.integer])) :
    s.accepts d = true ↔
      ∃ n, d = .number n ∧ n.isInteger = true ∧ s.checks.allFaults (.number n) = [] := by
  rw [accepts_iff, Checks.admits_iff_eq h (by decide)]
  constructor
  · intro hx
    obtain ⟨hk, hf, -⟩ := hx
    obtain ⟨n, rfl, hi⟩ := Document.kind_eq_integer_iff.mp hk
    exact ⟨n, rfl, hi, hf⟩
  · intro hx
    obtain ⟨n, rfl, hi, hf⟩ := hx
    exact ⟨Document.kind_eq_integer_iff.mpr ⟨n, rfl, hi⟩, hf, rfl⟩

theorem accepts_array_iff (h : s.checks.types = some (TypeSet.ofList [.array])) :
    s.accepts d = true ↔ ∃ elements, d = .array elements ∧
      s.checks.allFaults (.array elements) = [] ∧
        ∀ each, s.items = some each → ∀ e ∈ elements, each.accepts e = true := by
  rw [accepts_iff, Checks.admits_iff_eq h (by decide)]
  constructor
  · intro hx
    obtain ⟨hk, hf, hi⟩ := hx
    obtain ⟨elements, rfl⟩ := Document.kind_eq_array_iff.mp hk
    exact ⟨elements, rfl, hf, reportInside_array_eq_nil_iff.mp hi⟩
  · intro hx
    obtain ⟨elements, rfl, hf, hi⟩ := hx
    exact ⟨rfl, hf, reportInside_array_eq_nil_iff.mpr hi⟩

theorem accepts_object_iff (h : s.checks.types = some (TypeSet.ofList [.object])) :
    s.accepts d = true ↔ ∃ entries, d = .object entries ∧
      s.checks.allFaults (.object entries) = [] ∧
        (∀ q ∈ s.properties, ∀ inner, entries.lookup q.1 = some inner →
          q.2.accepts inner = true) ∧
        ∀ extra, s.additional = some extra → ∀ e ∈ entries, s.property? e.1 = none →
          extra.accepts e.2 = true := by
  rw [accepts_iff, Checks.admits_iff_eq h (by decide)]
  constructor
  · intro hx
    obtain ⟨hk, hf, hi⟩ := hx
    obtain ⟨entries, rfl⟩ := Document.kind_eq_object_iff.mp hk
    exact ⟨entries, rfl, hf, reportInside_object_eq_nil_iff.mp hi⟩
  · intro hx
    obtain ⟨entries, rfl, hf, hi⟩ := hx
    exact ⟨rfl, hf, reportInside_object_eq_nil_iff.mpr hi⟩

theorem ofKind_string_accepts : (ofKind .string).accepts d = true ↔ d.IsText := by
  rw [accepts_string_iff rfl]
  exact exists_congr fun value => ⟨And.left, fun h => ⟨h, rfl⟩⟩

theorem ofPattern_accepts {source : String} {p : Pattern} (hp : Pattern.compile source = .ok p) :
    (ofPattern p).accepts d = true ↔ d.Matches source := by
  rw [accepts_string_iff rfl]
  have faults : ∀ value, (ofPattern p).checks.allFaults (.string value) = [] ↔
      p.isMatch value = true := by
    intro value
    show ((some p).filter _).toList.map _ ++ [] = [] ↔ _
    cases h : p.isMatch value <;> simp [Option.filter, h]
  constructor
  · intro h
    obtain ⟨value, rfl, hf⟩ := h
    exact ⟨value, p, rfl, hp, (faults value).mp hf⟩
  · intro h
    obtain ⟨value, q, rfl, hq, hm⟩ := h
    cases hp.symm.trans hq
    exact ⟨value, rfl, (faults value).mpr hm⟩

/-- Bounds are kept by value, and each one that is not is a fault. -/
theorem ofBounds_allFaults {least most n : Number} {a b v : Int} (hl : least.intValue? = some a)
    (hm : most.intValue? = some b) (ha : a.natAbs ≤ 2 ^ 126) (hb : b.natAbs ≤ 2 ^ 126)
    (hv : n.intValue? = some v) :
    (ofBounds least most).checks.allFaults (.number n) =
      (if v < a then [.tooSmall n least] else []) ++ (if b < v then [.tooLarge n most] else []) := by
  have hlow : n.compare? least ∉ [some .gt, some .eq] ↔ v < a := by
    rw [Number.compare?_eq_compare hv hl ha]
    rcases Int.lt_trichotomy v a with hlt | rfl | hgt
    · simp [compare_lt_iff_lt.mpr hlt, hlt]
    · simp
    · simp [compare_gt_iff_gt.mpr hgt, Int.le_of_lt hgt]
  have hhigh : n.compare? most ∉ [some .lt, some .eq] ↔ b < v := by
    rw [Number.compare?_eq_compare hv hm hb]
    rcases Int.lt_trichotomy v b with hlt | rfl | hgt
    · simp [compare_lt_iff_lt.mpr hlt, Int.le_of_lt hlt]
    · simp
    · simp [compare_gt_iff_gt.mpr hgt, hgt]
  show (((some least).filter fun m => n.compare? m ∉ [some .gt, some .eq]).toList.map
      (Fault.tooSmall n) ++
    ((some most).filter fun m => n.compare? m ∉ [some .lt, some .eq]).toList.map
      (Fault.tooLarge n)) ++ [] = _
  simp only [Option.filter, hlow, hhigh, List.append_nil, decide_eq_true_eq]
  by_cases h : v < a <;> by_cases h' : b < v <;> simp [h, h']

theorem ofBounds_faults {least most n : Number} {a b v : Int} (hl : least.intValue? = some a)
    (hm : most.intValue? = some b) (ha : a.natAbs ≤ 2 ^ 126) (hb : b.natAbs ≤ 2 ^ 126)
    (hv : n.intValue? = some v) :
    (ofBounds least most).checks.allFaults (.number n) = [] ↔ a ≤ v ∧ v ≤ b := by
  rw [ofBounds_allFaults hl hm ha hb hv, List.append_eq_nil_iff]
  simp

/-- Bounds are kept by value, whatever the number of digits. -/
theorem ofBounds_accepts {least most : Number} {a b : Int} (hl : least.intValue? = some a)
    (hm : most.intValue? = some b) (ha : a.natAbs ≤ 2 ^ 126) (hb : b.natAbs ≤ 2 ^ 126)
    (hd : d.NumbersLiteral) : (ofBounds least most).accepts d = true ↔ d.IsIntegerIn a b := by
  rw [accepts_integer_iff rfl]
  constructor
  · intro h
    obtain ⟨n, rfl, hi, hf⟩ := h
    have hlit : n.IsLiteral := by
      cases hd with
      | number h => exact h
    obtain ⟨v, hv⟩ := Number.exists_intValue hlit hi
    exact ⟨n, v, rfl, hv, (ofBounds_faults hl hm ha hb hv).mp hf⟩
  · intro h
    obtain ⟨n, v, rfl, hv, hin⟩ := h
    exact ⟨n, rfl, Number.isInteger_of_intValue? hv, (ofBounds_faults hl hm ha hb hv).mpr hin⟩

theorem listOf_accepts {each : Schema} : (listOf each).accepts d = true ↔
    d.IsListOf fun e => each.accepts e = true := by
  rw [accepts_array_iff rfl]
  refine exists_congr fun elements => and_congr_right fun _ => ?_
  constructor
  · intro h
    obtain ⟨-, h⟩ := h
    exact h each rfl
  · intro h
    refine ⟨rfl, fun other ho => ?_⟩
    cases ho
    exact h

theorem mapOf_accepts {extra : Schema} : (mapOf extra).accepts d = true ↔
    d.IsMapOf fun e => extra.accepts e = true := by
  rw [accepts_object_iff rfl]
  refine exists_congr fun entries => and_congr_right fun _ => ?_
  constructor
  · intro h e he
    exact h.2.2 extra rfl e he rfl
  · intro h
    refine ⟨rfl, nofun, fun other ho e he _ => ?_⟩
    cases ho
    exact h e he

theorem ofProperties_accepts {required : List String} {properties : List (String × Schema)} :
    (ofProperties required properties).accepts d = true ↔ ∃ entries, d = .object entries ∧
      (∀ name ∈ required, name ∈ Entries.keys entries) ∧
        ∀ q ∈ properties, d.MayHave q.1 fun inner => q.2.accepts inner = true := by
  rw [accepts_object_iff rfl]
  refine exists_congr fun entries => and_congr_right fun he => ?_
  subst he
  have faults : (ofProperties required properties).checks.allFaults (.object entries) = [] ↔
      ∀ name ∈ required, name ∈ Entries.keys entries := by
    show (required.filter _).map _ ++ [] = [] ↔ _
    simp
  rw [faults]
  refine and_congr_right fun _ => ?_
  constructor
  · intro h
    obtain ⟨h, -⟩ := h
    exact h
  · intro h
    exact ⟨h, nofun⟩

end Schema

end ManifestCheck
