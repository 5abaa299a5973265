import ManifestCheck.Proofs.Schema.LocalChanges

/-!
# Keys that a schema ignores

An object may hold more than a schema speaks of.  An entry under a key that the governing schema
ignores is not looked at, whatever its value is and wherever it stands among the others, and nothing
that is reported goes by it (`Schema.report_addEntry`).  A list of permitted values on the object, or
on what it stands in, is the one thing that compares all entries.

Some schemas ignore all keys but those that they declare, throughout (`Schema.IsOpen`).  Only for maps
of annotations do they have a schema for values under other keys, and a list of permitted values only
for texts, which hold no objects.
-/

namespace ManifestCheck

/-! ## One entry more -/

namespace Entries

variable {α : Type} {key name : String} {before behind : List (String × α)}

theorem lookup_append_cons (h : name ≠ key) (value : α) :
    (before ++ (key, value) :: behind).lookup name = (before ++ behind).lookup name := by
  rw [List.lookup_append, List.lookup_append, lookup_cons, if_neg h]

theorem mem_keys_append_cons (h : name ≠ key) (value : α) :
    name ∈ keys (before ++ (key, value) :: behind) ↔ name ∈ keys (before ++ behind) := by
  simp [keys, h]

end Entries

namespace Document

variable {d inner above node : Document} {p q : Path}

theorem kind_ne_string_of_child? {step : Segment} (h : d.child? step = some inner) :
    d.kind ≠ .string := by
  intro hkind
  obtain ⟨value, rfl⟩ := kind_eq_string_iff.mp hkind
  cases step <;> cases h

/-- Above the end of a path there are no texts. -/
theorem kind_ne_string_of_above (hp : d.at? p = some node) (hq : q <+: p) (hne : q ≠ p)
    (habove : d.at? q = some above) : above.kind ≠ .string := by
  obtain ⟨rest, rfl⟩ := hq
  rw [at?_append, habove, Option.bind_some] at hp
  cases rest with
  | nil => exact absurd (List.append_nil q).symm hne
  | cons step rest =>
    obtain ⟨inner, hinner, -⟩ := Option.bind_eq_some_iff.mp hp
    exact kind_ne_string_of_child? hinner

end Document

namespace Schema

variable {s t : Schema} {d : Document} {p : Path} {key : String}
  {before behind : List (String × Document)}

/-- A schema asks nothing of a value under a key, nor that there is one. -/
structure Ignores (s : Schema) (key : String) : Prop where
  undeclared : s.declares key = false
  unrequired : key ∉ s.checks.required
  additional : s.additional = none

theorem declares_iff {name : String} : s.declares name = true ↔ name ∈ Entries.keys s.properties := by
  rw [declares, Option.isSome_iff_ne_none, property?, ne_eq,
    Entries.lookup_eq_none_iff_not_mem_keys, Decidable.not_not]

theorem Ignores.ne_of_declared (h : s.Ignores key) {q : String × Schema} (hq : q ∈ s.properties) :
    q.1 ≠ key := by
  rintro rfl
  exact Bool.false_ne_true (h.undeclared.symm.trans (declares_iff.mpr (Entries.mem_keys_of_mem hq)))

/-- An entry that a schema ignores is not reported on, and no other report goes by it. -/
theorem report_object_of_ignored (h : s.Ignores key)
    (hlist : s.checks.Admits .object → s.checks.enumeration = none) (value : Document) :
    s.report (.object (before ++ (key, value) :: behind)) =
      s.report (.object (before ++ behind)) := by
  cases hkind : s.checks.refused? .object with
  | some types =>
    rw [report_of_refused (d := .object (before ++ (key, value) :: behind)) hkind,
      report_of_refused (d := .object (before ++ behind)) hkind]
    rfl
  | none =>
    have hunlisted : ∀ d, s.checks.unlisted? d = none := fun d => by
      rw [Checks.unlisted?, hlist (Checks.refused?_eq_none_iff.mp hkind)]
      rfl
    have hself : s.checks.selfReport (.object (before ++ (key, value) :: behind)) =
        s.checks.selfReport (.object (before ++ behind)) := by
      rw [Checks.selfReport, Checks.selfReport]
      congr 1
      refine List.filter_congr fun name hname => ?_
      have hne : name ≠ key := fun he => h.unrequired (he ▸ hname)
      simp only [Entries.mem_keys_append_cons hne]
    have hinside : s.reportInside (.object (before ++ (key, value) :: behind)) =
        s.reportInside (.object (before ++ behind)) := by
      rw [reportInside, reportInside, h.additional]
      exact congrArg (· ++ []) (reportDeclared_congr fun q hq =>
        Entries.lookup_append_cons (h.ne_of_declared hq) value)
    rw [report_of_admitted (d := .object (before ++ (key, value) :: behind)) hkind,
      report_of_admitted (d := .object (before ++ behind)) hkind, hunlisted, hunlisted, hself,
      hinside]
    rfl

/-- **An ignored entry leaves a report as it is.**  The object may be anywhere in a document, if
neither it nor a value above it is compared with a list of permitted values. -/
theorem report_addEntry (hs : s.NamesDistinct) (hd : d.keysDistinct = true)
    (hp : d.at? p = some (.object (before ++ behind)))
    (hignored : ∀ t, s.governing? p = some t → t.Ignores key ∧
      (t.checks.Admits .object → t.checks.enumeration = none))
    (hlist : s.UncomparedAbove d p) (value : Document) :
    s.report (d.replaceAt p (.object (before ++ (key, value) :: behind))) = s.report d := by
  obtain ⟨front, back, -, -, hframe⟩ := frames_replaceAt hs hd hp hlist
  have hpart : s.reportAlong d p (.object (before ++ (key, value) :: behind)) =
      s.reportAlong d p (.object (before ++ behind)) := by
    unfold reportAlong
    cases hchecking : s.checking? p d with
    | none => rfl
    | some t =>
      obtain ⟨hkey, hself⟩ := hignored t (governing?_of_checking? hp hchecking)
      exact congrArg (List.map _) (report_object_of_ignored hkey hself value)
  calc s.report (d.replaceAt p (.object (before ++ (key, value) :: behind)))
      = front ++ s.reportAlong d p (.object (before ++ (key, value) :: behind)) ++ back :=
        hframe _
    _ = front ++ s.reportAlong d p (.object (before ++ behind)) ++ back := by rw [hpart]
    _ = s.report (d.replaceAt p (.object (before ++ behind))) := (hframe _).symm
    _ = s.report d := by rw [Document.replaceAt_self hp]

/-! ## Open schemas -/

/-- Every schema that governs some value has a property. -/
def Everywhere (P : Schema → Prop) (s : Schema) : Prop := ∀ p t, s.governing? p = some t → P t

theorem governing?_append (p q : Path) (s : Schema) :
    s.governing? (p ++ q) = (s.governing? p).bind (governing? q) := by
  induction p generalizing s with
  | nil => rfl
  | cons step p ih =>
    rw [List.cons_append, governing?, governing?]
    cases s.child? step with
    | none => rfl
    | some t => exact ih t

theorem everywhere_of_child? {P : Schema → Prop} (hs : P s)
    (h : ∀ step t, s.child? step = some t → t.Everywhere P) : s.Everywhere P := by
  intro p t ht
  cases p with
  | nil =>
    cases ht
    exact hs
  | cons step p =>
    obtain ⟨u, hu, ht⟩ := Option.bind_eq_some_iff.mp ht
    exact h step u hu p t ht

/-- A schema that leaves objects open.  It compares no value but texts with a list, it requires what
it declares, and it holds no schema for values under other keys, but for its annotations. -/
structure IsOpen (s : Schema) : Prop where
  listed : s.checks.enumeration = none ∨ s.checks.types = some (TypeSet.ofList [.string])
  required : ∀ name ∈ s.checks.required, s.declares name = true
  child : ∀ step t, s.child? step = some t →
    t.additional = none ∨ step = .key "annotations" ∧ s.declares "annotations" = true

/-- A path leads to a map of annotations: along the key that the schema in front of it declares. -/
def LeadsToAnnotations (s : Schema) (p : Path) : Prop :=
  ∃ q t, p = q ++ [.key "annotations"] ∧ s.governing? q = some t ∧ t.declares "annotations" = true

theorem IsOpen.uncompared {k : Kind} (h : s.IsOpen) (hk : k ≠ .string)
    (hadmits : s.checks.Admits k) : s.checks.enumeration = none :=
  h.listed.resolve_right fun htext =>
    hk ((Checks.admits_iff_eq htext (by decide)).mp hadmits)

theorem Everywhere.uncomparedAbove {node : Document} (h : s.Everywhere IsOpen)
    (hp : d.at? p = some node) : s.UncomparedAbove d p := fun q _ u hq hne habove hu hadmits =>
  (h q u hu).uncompared (Document.kind_ne_string_of_above hp hq hne habove) hadmits

/-- Only maps of annotations have a schema for values under other keys. -/
theorem Everywhere.additional_eq_none (h : s.Everywhere IsOpen) (hs : s.additional = none)
    (ht : s.governing? p = some t) (hp : ¬s.LeadsToAnnotations p) : t.additional = none := by
  rcases List.eq_nil_or_concat p with rfl | ⟨q, step, rfl⟩
  · cases ht
    exact hs
  · rw [List.concat_eq_append] at ht hp
    rw [governing?_append] at ht
    obtain ⟨u, hu, ht⟩ := Option.bind_eq_some_iff.mp ht
    obtain ⟨t', ht', hlast⟩ := Option.bind_eq_some_iff.mp ht
    cases hlast
    refine ((h q u hu).child step t ht').resolve_right fun hann => hp ?_
    obtain ⟨rfl, hdeclares⟩ := hann
    exact ⟨q, u, rfl, hu, hdeclares⟩

/-- A schema is open throughout if it is open itself and what it is made of is open throughout. -/
theorem everywhere_isOpen {c : Checks} {ps : List (String × Schema)} {a i : Option Schema}
    (hlist : c.enumeration = none ∨ c.types = some (TypeSet.ofList [.string]))
    (hrequired : ∀ name ∈ c.required, name ∈ Entries.keys ps)
    (hps : ∀ q ∈ ps, q.2.Everywhere IsOpen ∧ (q.2.additional = none ∨ q.1 = "annotations"))
    (ha : ∀ t ∈ a, t.Everywhere IsOpen ∧ t.additional = none)
    (hi : ∀ t ∈ i, t.Everywhere IsOpen ∧ t.additional = none) :
    (node c ps a i).Everywhere IsOpen := by
  have hchild : ∀ step t, (node c ps a i).child? step = some t → t.Everywhere IsOpen ∧
      (t.additional = none ∨
        step = .key "annotations" ∧ (node c ps a i).declares "annotations" = true) := by
    intro step t ht
    cases step with
    | index j =>
      obtain ⟨hopen, hnone⟩ := hi t ht
      exact ⟨hopen, .inl hnone⟩
    | key name =>
      rcases Option.or_eq_some_iff.mp ht with hp | ⟨-, hextra⟩
      · have hmem : (name, t) ∈ ps := Entries.mem_of_lookup hp
        obtain ⟨hopen, hname⟩ := hps (name, t) hmem
        refine ⟨hopen, hname.imp_right fun he => ?_⟩
        cases he
        exact ⟨rfl, declares_iff.mpr (Entries.mem_keys_of_mem hmem)⟩
      · obtain ⟨hopen, hnone⟩ := ha t hextra
        exact ⟨hopen, .inl hnone⟩
  refine everywhere_of_child? ⟨hlist, fun name hname => ?_, fun step t ht => ?_⟩ fun step t ht => ?_
  · exact declares_iff.mpr (hrequired name hname)
  · exact (hchild step t ht).2
  · exact (hchild step t ht).1

end Schema

end ManifestCheck
