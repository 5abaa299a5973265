import ManifestCheck.Proofs.Schema.CompositionalReport
import ManifestCheck.Proofs.Schema.ReferenceUnfolding

/-!
# What a report holds

A path leads through a document and, in step, through a schema: a key to the schema declared for it
or else to the one for other keys, an index to the one for elements.  The schema at the end governs
the value at the end.  A violation is reported at a path exactly if the value there breaks what its
governing schema asks, and nothing above it is of a refused kind (`violations_iff_faultAt`).

Declared keys must be distinct for this, or else a value would be reported on twice.  They are in
every compiled schema, because the keys of the schema documents are (`Unfolds.namesDistinct`).
-/

namespace ManifestCheck

/-! ## Paths into schemas -/

namespace Schema

/-- The schema for the values one step inside: a key goes by its declaration, and only an
undeclared one by the schema for other keys. -/
def child? (s : Schema) : Segment → Option Schema
  | .key name => (s.property? name).or s.additional
  | .index _ => s.items

/-- The schema that governs the value at a path. -/
def governing? : Path → Schema → Option Schema
  | [], s => some s
  | step :: rest, s => (s.child? step).bind (governing? rest)

/-- No schema that governs any value declares a key twice. -/
def NamesDistinct (s : Schema) : Prop :=
  ∀ p t, s.governing? p = some t → (Entries.keys t.properties).Nodup

theorem namesDistinct_child? {s t : Schema} {step : Segment} (hs : s.NamesDistinct)
    (h : s.child? step = some t) : t.NamesDistinct := fun p u hu =>
  hs (step :: p) u (by rw [governing?, h]; exact hu)

theorem mem_parts_of_child? {s t : Schema} {step : Segment} (h : s.child? step = some t) :
    t ∈ s.parts := by
  cases step with
  | index i => exact mem_parts.mpr (.inr (.inr h))
  | key name =>
    rcases Option.or_eq_some_iff.mp h with hp | ⟨-, ha⟩
    · exact mem_parts.mpr (.inl ⟨_, Entries.mem_of_lookup hp, rfl⟩)
    · exact mem_parts.mpr (.inr (.inl ha))

/-- Every schema one step inside belongs to a document one step inside. -/
theorem FromKeywords.exists_of_mem_parts {U : Document → Schema → Prop}
    {entries : List (String × Document)} {s t : Schema} (h : FromKeywords U entries s)
    (ht : t ∈ s.parts) : ∃ d ∈ insides entries, U d t := by
  have of_rel : ∀ (d? : Option Document), (∀ d, d? = some d → d ∈ insides entries) →
      Option.Rel U d? (some t) → ∃ d ∈ insides entries, U d t := by
    intro d? hin hr
    cases hr with
    | some hu => exact ⟨_, hin _ rfl, hu⟩
  rcases mem_parts.mp ht with ⟨q, hq, rfl⟩ | ha | hi
  · obtain ⟨declared, hd, hk, hu⟩ := h.declared
    have hl : s.properties.length ≤ declared.length := by
      rw [← List.length_map Prod.fst, ← List.length_map Prod.fst]
      exact Nat.le_of_eq (congrArg List.length hk)
    rw [← List.map_fst_zip hl] at hq
    obtain ⟨x, hx, rfl⟩ := List.mem_map.mp hq
    refine ⟨x.2.2, ?_, hu x hx⟩
    refine List.mem_append_left _ (List.mem_append_left _ ?_)
    rw [hd]
    exact List.mem_map.mpr ⟨x.2, (List.of_mem_zip hx).2, rfl⟩
  · refine of_rel _ (fun d hd => ?_) (ha ▸ h.additional)
    exact List.mem_append_left _ (List.mem_append_right _ (Option.mem_toList.mpr hd))
  · refine of_rel _ (fun d hd => ?_) (hi ▸ h.items)
    exact List.mem_append_right _ (Option.mem_toList.mpr hd)

theorem FromKeywords.exists_of_child? {U : Document → Schema → Prop}
    {entries : List (String × Document)} {s t : Schema} {step : Segment}
    (h : FromKeywords U entries s) (ht : s.child? step = some t) :
    ∃ d ∈ insides entries, U d t :=
  h.exists_of_mem_parts (mem_parts_of_child? ht)

end Schema

/-- Compiled schemas declare no key twice. -/
theorem Library.Unfolds.namesDistinct {lib : Library} (hlib : lib.KeysDistinct) {name : String}
    {d : Document} {s : Schema} (h : lib.Unfolds name d s) (hd : d.keysDistinct = true) :
    s.NamesDistinct := by
  induction h with
  | always =>
    intro p t ht
    cases p with
    | nil =>
      cases ht
      exact List.nodup_nil
    | cons step rest => cases step <;> cases ht
  | reference _ hl _ _ ih =>
    obtain ⟨-, hf⟩ := (Library.leads_iff (l := ⟨_, ""⟩)).mp hl
    exact ih (Library.keysDistinct_find? hlib hf)
  | keywords _ hk _ ih =>
    intro p t ht
    cases p with
    | nil =>
      cases ht
      obtain ⟨declared, hdecl, hkeys, -⟩ := hk.declared
      rw [hkeys]
      unfold Schema.declared? at hdecl
      split at hdecl
      · cases hdecl
        exact List.nodup_nil
      · rename_i entries hp
        cases hdecl
        have := (Document.keysDistinct_object.mp hd).2 _ (Entries.mem_of_lookup hp)
        exact (Document.keysDistinct_object.mp this).1
      · cases hdecl
    | cons step rest =>
      obtain ⟨inner, hinner, hrest⟩ := Option.bind_eq_some_iff.mp ht
      obtain ⟨d', hin, hu⟩ := hk.exists_of_child? hinner
      exact ih d' inner hu (Schema.keysDistinct_of_mem_insides hd hin) rest t hrest

theorem Library.namesDistinct_of_compile {lib : Library} {name : String} {s : Schema}
    (hlib : lib.KeysDistinct) (hs : lib.compile name = .ok s) : s.NamesDistinct := by
  obtain ⟨root, -, hroot, hu⟩ := Library.unfolds_of_compile hlib hs
  exact hu.namesDistinct hlib hroot

/-! ## What a value breaks -/

namespace Checks

/-- A kind is asked for, or anything goes. -/
def Admits (c : Checks) (k : Kind) : Prop := ∀ types, c.types = some types → types.accepts k = true

/-- What a value of an admitted kind breaks.  Each check is on values of one kind, except for the
list of permitted values. -/
inductive Breaks (c : Checks) : Document → FaultKind → Prop where
  | lacks {entries : List (String × Document)} {name : String} (hr : name ∈ c.required)
      (hn : name ∉ Entries.keys entries) : Breaks c (.object entries) .missingProperty
  | tooFew {elements : List Document} {n : Nat} (hb : c.minItems = some n)
      (hn : elements.length < n) : Breaks c (.array elements) .rangeViolation
  | tooMany {elements : List Document} {n : Nat} (hb : c.maxItems = some n)
      (hn : n < elements.length) : Breaks c (.array elements) .rangeViolation
  | tooShort {value : String} {n : Nat} (hb : c.minLength = some n) (hn : value.length < n) :
      Breaks c (.string value) .rangeViolation
  | tooLong {value : String} {n : Nat} (hb : c.maxLength = some n) (hn : n < value.length) :
      Breaks c (.string value) .rangeViolation
  | unmatched {value : String} {p : Pattern} (hb : c.pattern = some p)
      (hn : p.isMatch value = false) : Breaks c (.string value) .patternMismatch
  | tooSmall {value m : Number} (hb : c.minimum = some m)
      (hn : value.compare? m ∉ [some .gt, some .eq]) : Breaks c (.number value) .rangeViolation
  | tooLarge {value m : Number} (hb : c.maximum = some m)
      (hn : value.compare? m ∉ [some .lt, some .eq]) : Breaks c (.number value) .rangeViolation
  | unlisted {d : Document} {options : List Document} (hb : c.enumeration = some options)
      (hn : ∀ o ∈ options, o.equal d = false) : Breaks c d .enumMismatch

/-- What is wrong with a value.  One of a refused kind has that one fault and no other. -/
def Faulty (c : Checks) (d : Document) (k : FaultKind) : Prop :=
  (¬c.Admits d.kind ∧ k = .typeMismatch) ∨ (c.Admits d.kind ∧ c.Breaks d k)

theorem refused?_eq_none_iff {c : Checks} {k : Kind} : c.refused? k = none ↔ c.Admits k := by
  unfold refused? Admits
  cases c.types with
  | none => simp
  | some types => simp [Option.filter]

theorem not_admits_of_refused {c : Checks} {k : Kind} {types : TypeSet}
    (h : c.refused? k = some types) : ¬c.Admits k := by
  intro ha
  rw [refused?_eq_none_iff.mpr ha] at h
  cases h

theorem mem_filter_map {α : Type} {o : Option α} {keep : α → Bool} {fault : α → Fault} {f : Fault} :
    f ∈ (o.filter keep).toList.map fault ↔ ∃ a, o = some a ∧ keep a = true ∧ fault a = f := by
  constructor
  · intro h
    obtain ⟨a, ha, rfl⟩ := List.mem_map.mp h
    obtain ⟨ho, hk⟩ := Option.filter_eq_some_iff.mp (Option.mem_toList.mp ha)
    exact ⟨a, ho, hk, rfl⟩
  · intro h
    obtain ⟨a, ho, hk, rfl⟩ := h
    exact List.mem_map.mpr ⟨a, Option.mem_toList.mpr (Option.filter_eq_some_iff.mpr ⟨ho, hk⟩), rfl⟩

theorem mem_sizeReport {unit : CountUnit} {size : Nat} {least most : Option Nat} {f : Fault} :
    f ∈ sizeReport unit size least most ↔
      (∃ n, least = some n ∧ size < n ∧ .tooFew unit size n = f) ∨
        ∃ n, most = some n ∧ n < size ∧ .tooMany unit size n = f := by
  rw [sizeReport, List.mem_append, mem_filter_map, mem_filter_map]
  simp only [decide_eq_true_eq]

/-- All faults of a value of an admitted kind. -/
def allFaults (c : Checks) (d : Document) : List Fault :=
  c.selfReport d ++ (c.unlisted? d).toList.map (Fault.unlisted d)

theorem breaks_of_mem_allFaults {c : Checks} {d : Document} {f : Fault} (h : f ∈ c.allFaults d) :
    c.Breaks d f.kind := by
  rcases List.mem_append.mp h with h | h
  · cases d with
    | null | bool b => cases h
    | object entries =>
      obtain ⟨name, hname, rfl⟩ := List.mem_map.mp h
      obtain ⟨hr, hn⟩ := List.mem_filter.mp hname
      exact .lacks hr (of_decide_eq_true hn)
    | array elements =>
      rcases mem_sizeReport.mp h with ⟨n, hb, hn, rfl⟩ | ⟨n, hb, hn, rfl⟩
      · exact .tooFew hb hn
      · exact .tooMany hb hn
    | string value =>
      rcases List.mem_append.mp h with h | h
      · rcases mem_sizeReport.mp h with ⟨n, hb, hn, rfl⟩ | ⟨n, hb, hn, rfl⟩
        · exact .tooShort hb hn
        · exact .tooLong hb hn
      · obtain ⟨p, hb, hn, rfl⟩ := mem_filter_map.mp h
        exact .unmatched hb (Bool.not_eq_true' _ |>.mp hn)
    | number value =>
      rcases List.mem_append.mp h with h | h
      · obtain ⟨m, hb, hn, rfl⟩ := mem_filter_map.mp h
        exact .tooSmall hb (of_decide_eq_true hn)
      · obtain ⟨m, hb, hn, rfl⟩ := mem_filter_map.mp h
        exact .tooLarge hb (of_decide_eq_true hn)
  · obtain ⟨options, hb, hn, rfl⟩ := mem_filter_map.mp h
    exact .unlisted hb fun o ho => Bool.not_eq_true' _ |>.mp (List.all_eq_true.mp hn o ho)

theorem exists_of_breaks {c : Checks} {d : Document} {k : FaultKind} (h : c.Breaks d k) :
    ∃ f ∈ c.allFaults d, f.kind = k := by
  have own : ∀ f ∈ c.selfReport d, f ∈ c.allFaults d := fun f hf => List.mem_append_left _ hf
  cases h with
  | lacks hr hn =>
    exact ⟨_, own _ (List.mem_map.mpr ⟨_, List.mem_filter.mpr ⟨hr, decide_eq_true hn⟩, rfl⟩), rfl⟩
  | tooFew hb hn => exact ⟨_, own _ (mem_sizeReport.mpr (.inl ⟨_, hb, hn, rfl⟩)), rfl⟩
  | tooMany hb hn => exact ⟨_, own _ (mem_sizeReport.mpr (.inr ⟨_, hb, hn, rfl⟩)), rfl⟩
  | tooShort hb hn =>
    exact ⟨_, own _ (List.mem_append_left _ (mem_sizeReport.mpr (.inl ⟨_, hb, hn, rfl⟩))), rfl⟩
  | tooLong hb hn =>
    exact ⟨_, own _ (List.mem_append_left _ (mem_sizeReport.mpr (.inr ⟨_, hb, hn, rfl⟩))), rfl⟩
  | unmatched hb hn =>
    have hk := Bool.not_eq_true' _ |>.mpr hn
    exact ⟨_, own _ (List.mem_append_right _ (mem_filter_map.mpr ⟨_, hb, hk, rfl⟩)), rfl⟩
  | tooSmall hb hn =>
    have hk := decide_eq_true hn
    exact ⟨_, own _ (List.mem_append_left _ (mem_filter_map.mpr ⟨_, hb, hk, rfl⟩)), rfl⟩
  | tooLarge hb hn =>
    have hk := decide_eq_true hn
    exact ⟨_, own _ (List.mem_append_right _ (mem_filter_map.mpr ⟨_, hb, hk, rfl⟩)), rfl⟩
  | unlisted hb hn =>
    have hk := List.all_eq_true.mpr fun o ho => Bool.not_eq_true' _ |>.mpr (hn o ho)
    exact ⟨_, List.mem_append_right _ (mem_filter_map.mpr ⟨_, hb, hk, rfl⟩), rfl⟩

/-- What is wrong with a value: that it is of a refused kind, or else whatever it breaks. -/
def faults (c : Checks) (d : Document) : List Fault :=
  match c.refused? d.kind with
  | some types => [.wrongType types d.kind]
  | none => c.allFaults d

theorem mem_faults {c : Checks} {d : Document} {f : Fault} (h : f ∈ c.faults d) :
    (∃ types, f = .wrongType types d.kind) ∨ f ∈ c.allFaults d := by
  unfold faults at h
  split at h
  · exact .inl ⟨_, List.mem_singleton.mp h⟩
  · exact .inr h

/-- Among the faults are those of every kind that the value has. -/
theorem faulty_iff {c : Checks} {d : Document} {k : FaultKind} :
    c.Faulty d k ↔ ∃ f ∈ c.faults d, f.kind = k := by
  unfold Faulty faults
  cases hr : c.refused? d.kind with
  | some types =>
    have ha := not_admits_of_refused hr
    constructor
    · intro h
      rcases h with ⟨-, rfl⟩ | ⟨h, -⟩
      · exact ⟨_, List.mem_singleton.mpr rfl, rfl⟩
      · exact absurd h ha
    · intro h
      obtain ⟨f, hf, rfl⟩ := h
      rw [List.mem_singleton.mp hf]
      exact .inl ⟨ha, rfl⟩
  | none =>
    have ha := refused?_eq_none_iff.mp hr
    constructor
    · intro h
      rcases h with ⟨h, -⟩ | ⟨-, hb⟩
      · exact absurd ha h
      · exact exists_of_breaks hb
    · intro h
      obtain ⟨f, hf, rfl⟩ := h
      exact .inr ⟨ha, breaks_of_mem_allFaults hf⟩

theorem allFaults_eq_nil_iff {c : Checks} {d : Document} :
    c.allFaults d = [] ↔ ∀ k, ¬c.Breaks d k := by
  rw [List.eq_nil_iff_forall_not_mem]
  constructor
  · intro h k hb
    obtain ⟨f, hf, -⟩ := exists_of_breaks hb
    exact h f hf
  · intro h f hf
    exact h f.kind (breaks_of_mem_allFaults hf)

end Checks

/-! ## Where a report stands -/

namespace Schema

/-- The part of a report that is about the values inside. -/
def reportInside (s : Schema) : Document → List Violation
  | .object entries =>
    reportDeclared s.properties entries ++
      (match s.additional with
        | none => []
        | some extra =>
          (entries.filter fun e => (s.property? e.1).isNone).flatMap fun e =>
            (extra.report e.2).map (·.under [.key e.1]))
  | .array elements =>
    match s.items with
    | none => []
    | some each => elements.zipIdx.flatMap fun e => (each.report e.1).map (·.under [.index e.2])
  | _ => []

theorem report_of_refused {s : Schema} {d : Document} {types : TypeSet}
    (h : s.checks.refused? d.kind = some types) :
    s.report d = [⟨[], .wrongType types d.kind⟩] := by
  obtain ⟨c, properties, additional, items⟩ := s
  rw [report.eq_def]
  dsimp only [checks] at h ⊢
  rw [h]

theorem report_of_admitted {s : Schema} {d : Document} (h : s.checks.refused? d.kind = none) :
    s.report d = (s.checks.selfReport d).map (Violation.mk []) ++ s.reportInside d ++
      (s.checks.unlisted? d).toList.map fun options => ⟨[], .unlisted d options⟩ := by
  obtain ⟨c, properties, additional, items⟩ := s
  rw [report.eq_def]
  dsimp only [checks] at h ⊢
  rw [h]
  cases d <;> rfl

theorem mem_report_of_admitted {s : Schema} {d : Document} {v : Violation}
    (h : s.checks.refused? d.kind = none) :
    v ∈ s.report d ↔ (∃ f ∈ s.checks.allFaults d, ⟨[], f⟩ = v) ∨ v ∈ s.reportInside d := by
  rw [report_of_admitted h, Checks.allFaults]
  simp only [List.mem_append, List.mem_map]
  constructor
  · intro hv
    rcases hv with (⟨f, hf, rfl⟩ | hi) | ⟨options, ho, rfl⟩
    · exact .inl ⟨f, .inl hf, rfl⟩
    · exact .inr hi
    · exact .inl ⟨_, .inr ⟨options, ho, rfl⟩, rfl⟩
  · intro hv
    rcases hv with ⟨f, hf | ⟨options, ho, rfl⟩, rfl⟩ | hi
    · exact .inl (.inl ⟨f, hf, rfl⟩)
    · exact .inr ⟨options, ho, rfl⟩
    · exact .inl (.inr hi)

theorem mem_reportDeclared {properties : List (String × Schema)}
    {entries : List (String × Document)} {v : Violation} :
    v ∈ reportDeclared properties entries ↔ ∃ q ∈ properties, ∃ inner,
      entries.lookup q.1 = some inner ∧ ∃ u ∈ q.2.report inner, u.under [.key q.1] = v := by
  induction properties with
  | nil => simp [reportDeclared]
  | cons q rest ih =>
    simp only [reportDeclared, List.mem_append, ih, List.mem_cons, exists_eq_or_imp]
    refine or_congr ?_ Iff.rfl
    cases entries.lookup q.1 with
    | none => simp
    | some inner => simp

theorem mem_reportInside_object {s : Schema} {entries : List (String × Document)} {v : Violation}
    (hn : (Entries.keys s.properties).Nodup) (hk : (Entries.keys entries).Nodup) :
    v ∈ s.reportInside (.object entries) ↔ ∃ name inner t, entries.lookup name = some inner ∧
      (s.property? name).or s.additional = some t ∧
        ∃ u ∈ t.report inner, u.under [.key name] = v := by
  rw [reportInside, List.mem_append, mem_reportDeclared]
  constructor
  · intro h
    rcases h with ⟨q, hq, inner, hl, u, hu, rfl⟩ | h
    · have hp : s.property? q.1 = some q.2 := (Entries.lookup_eq_some_iff hn).mpr hq
      exact ⟨q.1, inner, q.2, hl, Option.or_eq_some_iff.mpr (.inl hp), u, hu, rfl⟩
    · cases ha : s.additional with
      | none =>
        rw [ha] at h
        cases h
      | some extra =>
        rw [ha] at h
        obtain ⟨e, he, hv⟩ := List.mem_flatMap.mp h
        obtain ⟨hm, hp⟩ := List.mem_filter.mp he
        obtain ⟨u, hu, rfl⟩ := List.mem_map.mp hv
        have hl : entries.lookup e.1 = some e.2 := (Entries.lookup_eq_some_iff hk).mpr hm
        have ht : (s.property? e.1).or (some extra) = some extra :=
          Option.or_eq_some_iff.mpr (.inr ⟨Option.isNone_iff_eq_none.mp hp, rfl⟩)
        exact ⟨e.1, e.2, extra, hl, ht, u, hu, rfl⟩
  · intro h
    obtain ⟨name, inner, t, hl, ht, u, hu, rfl⟩ := h
    rcases Option.or_eq_some_iff.mp ht with hp | ⟨hp, ha⟩
    · exact .inl ⟨(name, t), Entries.mem_of_lookup hp, inner, hl, u, hu, rfl⟩
    · right
      rw [ha]
      refine List.mem_flatMap.mpr ⟨(name, inner), List.mem_filter.mpr ⟨?_, ?_⟩, ?_⟩
      · exact Entries.mem_of_lookup hl
      · exact Option.isNone_iff_eq_none.mpr hp
      · exact List.mem_map.mpr ⟨u, hu, rfl⟩

theorem mem_reportInside_array {s : Schema} {elements : List Document} {v : Violation} :
    v ∈ s.reportInside (.array elements) ↔ ∃ i inner t, elements[i]? = some inner ∧
      s.items = some t ∧ ∃ u ∈ t.report inner, u.under [.index i] = v := by
  rw [reportInside]
  cases s.items with
  | none => simp
  | some each =>
    dsimp only
    rw [List.mem_flatMap]
    constructor
    · intro h
      obtain ⟨e, he, hv⟩ := h
      obtain ⟨u, hu, rfl⟩ := List.mem_map.mp hv
      exact ⟨e.2, e.1, each, List.mem_zipIdx_iff_getElem?.mp he, rfl, u, hu, rfl⟩
    · intro h
      obtain ⟨i, inner, t, hl, ht, u, hu, rfl⟩ := h
      cases ht
      exact ⟨(inner, i), List.mem_zipIdx_iff_getElem?.mpr hl, List.mem_map.mpr ⟨u, hu, rfl⟩⟩

/-- A violation inside is one of a value one step inside, under the schema for that step. -/
theorem mem_reportInside {s : Schema} {d : Document} {v : Violation} (hs : s.NamesDistinct)
    (hd : d.keysDistinct = true) :
    v ∈ s.reportInside d ↔ ∃ step inner t, d.child? step = some inner ∧ s.child? step = some t ∧
      ∃ u ∈ t.report inner, u.under [step] = v := by
  cases d with
  | object entries =>
    rw [mem_reportInside_object (hs [] s rfl) (Document.keysDistinct_object.mp hd).1]
    constructor
    · intro h
      obtain ⟨name, inner, t, hl, ht, hu⟩ := h
      exact ⟨.key name, inner, t, hl, ht, hu⟩
    · intro h
      obtain ⟨step, inner, t, hl, ht, hu⟩ := h
      cases step with
      | key name => exact ⟨name, inner, t, hl, ht, hu⟩
      | index i => cases hl
  | array elements =>
    rw [mem_reportInside_array]
    constructor
    · intro h
      obtain ⟨i, inner, t, hl, ht, hu⟩ := h
      exact ⟨.index i, inner, t, hl, ht, hu⟩
    · intro h
      obtain ⟨step, inner, t, hl, ht, hu⟩ := h
      cases step with
      | key name => cases hl
      | index i => exact ⟨i, inner, t, hl, ht, hu⟩
  | _ =>
    refine ⟨nofun, ?_⟩
    intro h
    obtain ⟨step, inner, t, hl, -⟩ := h
    cases step <;> cases hl

/-- A violation of a kind stands at a path in the report. -/
def Reported (s : Schema) (d : Document) (p : Path) (k : FaultKind) : Prop :=
  ∃ v ∈ s.report d, v.path = p ∧ v.kind = k

/-- **Where a fault is.**  A path leads to a value and to the schema that governs it, every value
above is of a kind that its own governing schema admits, and the value has a fault of that kind. -/
def FaultAt (s : Schema) (d : Document) (p : Path) (k : FaultKind) : Prop :=
  ∃ node t, d.at? p = some node ∧ s.governing? p = some t ∧
    (∀ q, q <+: p → q ≠ p → ∃ above u, d.at? q = some above ∧ s.governing? q = some u ∧
      u.checks.Admits above.kind) ∧
    t.checks.Faulty node k

section Steps

variable {s : Schema} {d : Document} {k : FaultKind}

/-- At the root the faults of the value there are reported. -/
theorem mem_report_nil {f : Fault} (hs : s.NamesDistinct) (hd : d.keysDistinct = true) :
    ⟨[], f⟩ ∈ s.report d ↔ f ∈ s.checks.faults d := by
  unfold Checks.faults
  cases hr : s.checks.refused? d.kind with
  | some types =>
    rw [report_of_refused hr]
    simp
  | none =>
    rw [mem_report_of_admitted hr]
    constructor
    · intro h
      rcases h with ⟨g, hg, heq⟩ | hi
      · cases heq
        exact hg
      · obtain ⟨step, inner, t, -, -, u, -, heq⟩ := (mem_reportInside hs hd).mp hi
        cases congrArg Violation.path heq
    · intro h
      exact .inl ⟨f, h, rfl⟩

/-- Further inside, what is reported on the value one step inside is reported, if the kind of the
whole value is admitted. -/
theorem mem_report_cons {step : Segment} {p : Path} {f : Fault} (hs : s.NamesDistinct)
    (hd : d.keysDistinct = true) :
    ⟨step :: p, f⟩ ∈ s.report d ↔ s.checks.Admits d.kind ∧ ∃ inner t,
      d.child? step = some inner ∧ s.child? step = some t ∧ ⟨p, f⟩ ∈ t.report inner := by
  cases hr : s.checks.refused? d.kind with
  | some types =>
    have ha := Checks.not_admits_of_refused hr
    rw [report_of_refused hr]
    simp [ha]
  | none =>
    have ha := Checks.refused?_eq_none_iff.mp hr
    rw [mem_report_of_admitted hr]
    constructor
    · intro h
      rcases h with ⟨g, -, heq⟩ | hi
      · cases heq
      · obtain ⟨step', inner, t, hl, ht, ⟨q, g⟩, hu, heq⟩ := (mem_reportInside hs hd).mp hi
        cases heq
        exact ⟨ha, inner, t, hl, ht, hu⟩
    · intro h
      obtain ⟨-, inner, t, hl, ht, hu⟩ := h
      exact .inr ((mem_reportInside hs hd).mpr ⟨step, inner, t, hl, ht, _, hu, rfl⟩)

theorem reported_nil (hs : s.NamesDistinct) (hd : d.keysDistinct = true) :
    s.Reported d [] k ↔ s.checks.Faulty d k := by
  rw [Checks.faulty_iff]
  constructor
  · intro h
    obtain ⟨⟨_, f⟩, hv, rfl, rfl⟩ := h
    exact ⟨f, (mem_report_nil hs hd).mp hv, rfl⟩
  · intro h
    obtain ⟨f, hf, rfl⟩ := h
    exact ⟨_, (mem_report_nil hs hd).mpr hf, rfl, rfl⟩

theorem reported_cons {step : Segment} {p : Path} (hs : s.NamesDistinct)
    (hd : d.keysDistinct = true) :
    s.Reported d (step :: p) k ↔ s.checks.Admits d.kind ∧ ∃ inner t,
      d.child? step = some inner ∧ s.child? step = some t ∧ t.Reported inner p k := by
  constructor
  · intro h
    obtain ⟨⟨_, f⟩, hv, rfl, rfl⟩ := h
    obtain ⟨ha, inner, t, hl, ht, hu⟩ := (mem_report_cons hs hd).mp hv
    exact ⟨ha, inner, t, hl, ht, _, hu, rfl, rfl⟩
  · intro h
    obtain ⟨ha, inner, t, hl, ht, ⟨_, f⟩, hu, rfl, rfl⟩ := h
    exact ⟨_, (mem_report_cons hs hd).mpr ⟨ha, inner, t, hl, ht, hu⟩, rfl, rfl⟩

theorem faultAt_nil : s.FaultAt d [] k ↔ s.checks.Faulty d k := by
  constructor
  · intro h
    obtain ⟨node, t, hn, ht, -, h⟩ := h
    cases hn
    cases ht
    exact h
  · intro h
    exact ⟨d, s, rfl, rfl, fun q hq hne => absurd (List.prefix_nil.mp hq) hne, h⟩

theorem faultAt_cons {step : Segment} {p : Path} :
    s.FaultAt d (step :: p) k ↔ s.checks.Admits d.kind ∧ ∃ inner t,
      d.child? step = some inner ∧ s.child? step = some t ∧ t.FaultAt inner p k := by
  constructor
  · intro h
    obtain ⟨node, u, hn, hg, habove, hf⟩ := h
    obtain ⟨inner, hi, hn⟩ := Option.bind_eq_some_iff.mp hn
    obtain ⟨t, ht, hg⟩ := Option.bind_eq_some_iff.mp hg
    obtain ⟨_, _, hroot, hs, ha⟩ := habove [] List.nil_prefix nofun
    cases hroot
    cases hs
    refine ⟨ha, inner, t, hi, ht, node, u, hn, hg, fun q hq hne => ?_, hf⟩
    obtain ⟨above, w, hw, hv, hadm⟩ := habove (step :: q)
      (List.cons_prefix_cons.mpr ⟨rfl, hq⟩) fun he => hne (List.cons_eq_cons.mp he).2
    rw [Document.at?, hi] at hw
    rw [governing?, ht] at hv
    exact ⟨above, w, hw, hv, hadm⟩
  · intro h
    obtain ⟨ha, inner, t, hi, ht, node, u, hn, hg, habove, hf⟩ := h
    refine ⟨node, u, by rw [Document.at?, hi]; exact hn, by rw [governing?, ht]; exact hg,
      fun q hq hne => ?_, hf⟩
    cases q with
    | nil => exact ⟨d, s, rfl, rfl, ha⟩
    | cons step' q =>
      obtain ⟨rfl, hq'⟩ := List.cons_prefix_cons.mp hq
      obtain ⟨above, w, hw, hv, hadm⟩ := habove q hq' fun he => hne (by rw [he])
      exact ⟨above, w, by rw [Document.at?, hi]; exact hw, by rw [governing?, ht]; exact hv, hadm⟩

end Steps

/-- **A violation is a fault of the value at its path**: the path leads to a value and to the schema
that governs it, and what is said is wrong with this value. -/
theorem exists_fault_of_mem_report {s : Schema} {d : Document} {v : Violation}
    (hs : s.NamesDistinct) (hd : d.keysDistinct = true) (hv : v ∈ s.report d) :
    ∃ node t, d.at? v.path = some node ∧ s.governing? v.path = some t ∧
      v.fault ∈ t.checks.faults node := by
  obtain ⟨p, f⟩ := v
  induction p generalizing s d with
  | nil => exact ⟨d, s, rfl, rfl, (mem_report_nil hs hd).mp hv⟩
  | cons step p ih =>
    obtain ⟨-, inner, t, hl, ht, hu⟩ := (mem_report_cons hs hd).mp hv
    obtain ⟨node, t', hnode, ht', hf⟩ :=
      ih (namesDistinct_child? hs ht) (Document.keysDistinct_child? hd hl) hu
    exact ⟨node, t', Option.bind_eq_some_iff.mpr ⟨inner, hl, hnode⟩,
      Option.bind_eq_some_iff.mpr ⟨t, ht, ht'⟩, hf⟩

/-- **Faults are what is reported.**  By induction on the path, document and schema change with each
step. -/
theorem reported_iff_faultAt {s : Schema} {d : Document} (hs : s.NamesDistinct)
    (hd : d.keysDistinct = true) (p : Path) (k : FaultKind) :
    s.Reported d p k ↔ s.FaultAt d p k := by
  induction p generalizing s d with
  | nil => rw [reported_nil hs hd, faultAt_nil]
  | cons step p ih =>
    rw [reported_cons hs hd, faultAt_cons]
    refine and_congr_right fun _ => exists_congr fun inner => exists_congr fun t => ?_
    refine and_congr_right fun hi => and_congr_right fun ht => ?_
    exact ih (namesDistinct_child? hs ht) (Document.keysDistinct_child? hd hi)

end Schema

/-- **A report holds exactly the faults of a document.**  For a compiled schema and a loaded
document, a violation of a kind is reported at a path exactly if there is such a fault there, and the
document is accepted exactly if there is no fault anywhere. -/
theorem violations_iff_faultAt {lib : Library} {name : String} {s : Schema} {l : Loader}
    {bytes : List UInt8} {d : Document} (hlib : lib.KeysDistinct) (hs : lib.compile name = .ok s)
    (hd : l.load bytes = .ok d) :
    (∀ p k, (∃ v ∈ s.violations d, v.path = p ∧ v.kind = k) ↔ s.FaultAt d p k) ∧
      (s.accepts d = true ↔ ∀ p k, ¬s.FaultAt d p k) := by
  obtain ⟨root, -, hroot, hu⟩ := Library.unfolds_of_compile hlib hs
  have hn : s.NamesDistinct := hu.namesDistinct hlib hroot
  have hfault := Schema.reported_iff_faultAt hn (Document.keysDistinct_of_load hd)
  rw [Schema.accepts, Schema.violations_report, List.isEmpty_iff]
  refine ⟨hfault, ?_⟩
  constructor
  · intro hnil p k hf
    obtain ⟨v, hv, -⟩ := (hfault p k).mpr hf
    rw [hnil] at hv
    cases hv
  · intro hnone
    refine List.eq_nil_iff_forall_not_mem.mpr fun v hv => ?_
    exact hnone v.path v.kind ((hfault _ _).mp ⟨v, hv, rfl, rfl⟩)

/-- A schema for objects that have one key and keep a bound under another. -/
def bounded : Library := ⟨[
  ("bounded", .object [
    ("type", .string "object"),
    ("required", .array [.string "name"]),
    ("properties", .object [("size", .object [("maximum", .number ⟨"3"⟩)])])])]⟩

theorem faultAt_bounded : ∃ s d, bounded.compile "bounded" = .ok s ∧
    ({} : Loader).load (Utf8.encode "\x7b\"size\": 5\x7d") = .ok d ∧
      s.FaultAt d [.key "size"] .rangeViolation ∧ s.accepts d = false := by
  have hlib : bounded.KeysDistinct := by
    unfold Library.KeysDistinct
    decide +kernel
  have h : (match bounded.compile "bounded",
      ({} : Loader).load (Utf8.encode "\x7b\"size\": 5\x7d") with
    | .ok s, .ok d =>
      (s.violations d).any fun v => v.path = [.key "size"] && v.kind = .rangeViolation
    | _, _ => false) = true := by decide +kernel
  split at h
  · rename_i s d hs hd
    obtain ⟨hfault, haccepts⟩ := violations_iff_faultAt hlib hs hd
    obtain ⟨v, hv, hvp⟩ := List.any_eq_true.mp h
    rw [Bool.and_eq_true, decide_eq_true_iff, decide_eq_true_iff] at hvp
    have hat : s.FaultAt d [.key "size"] .rangeViolation := (hfault _ _).mp ⟨v, hv, hvp⟩
    exact ⟨s, d, hs, hd, hat, Bool.eq_false_iff.mpr fun ha => haccepts.mp ha _ _ hat⟩
  · cases h

end ManifestCheck
