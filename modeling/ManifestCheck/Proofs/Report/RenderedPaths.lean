import ManifestCheck.Proofs.Schema.GoverningSchema

/-!
# Places told from rendered paths

A rendered path joins its steps with points and does not show which of them are keys.  Where no key
is empty or holds a point, the steps can be told apart again (`Path.map_render_injective`).  What kind
of step each one is, the document says: an object has keys and a list has indices, so that two paths
through one document that are rendered alike are the same (`Document.eq_of_render`).

Every violation stands at a value of the document, whatever the schema is
(`Schema.isSome_at?_of_mem_report`).  So what is found in a report by a rendered path is what is
reported at the path (`Loader.located_violations`).
-/

namespace ManifestCheck

/-! ## Steps and their rendering -/

/-- A step that can be told from a rendered path: its key, if it is one, is neither empty nor holds a
point. -/
def Segment.Plain : Segment → Prop
  | .key name => name ≠ "" ∧ '.' ∉ name.toList
  | .index _ => True

instance (step : Segment) : Decidable step.Plain := by
  cases step <;> unfold Segment.Plain <;> infer_instance

/-- All steps of a path can be told from its rendering. -/
def Path.Plain (p : Path) : Prop := ∀ step ∈ p, step.Plain

instance (p : Path) : Decidable p.Plain := inferInstanceAs (Decidable (∀ step ∈ p, step.Plain))

namespace Segment

variable {step : Segment}

theorem toString_toList (i : Nat) : (toString i).toList = Nat.toDigits 10 i := Nat.toList_repr

theorem toString_injective {i j : Nat} (h : toString i = toString j) : i = j := by
  have hdigits : Nat.toDigits 10 i = Nat.toDigits 10 j := by
    rw [← toString_toList, ← toString_toList, h]
  calc i = Nat.ofDigitChars 10 (Nat.toDigits 10 i) 0 := Nat.ofDigitChars_ten_toDigits.symm
    _ = Nat.ofDigitChars 10 (Nat.toDigits 10 j) 0 := by rw [hdigits]
    _ = j := Nat.ofDigitChars_ten_toDigits

theorem Plain.render_ne_nil (h : step.Plain) : step.render.toList ≠ [] := by
  cases step with
  | key name => exact fun hnil => h.1 (String.toList_eq_nil_iff.mp hnil)
  | index i =>
    show (toString i).toList ≠ []
    rw [toString_toList]
    exact Nat.toDigits_ne_nil

theorem Plain.point_not_mem_render (h : step.Plain) : '.' ∉ step.render.toList := by
  cases step with
  | key name => exact h.2
  | index i =>
    show '.' ∉ (toString i).toList
    rw [toString_toList]
    intro hpoint
    cases Nat.isDigit_of_mem_toDigits (by decide) (by decide) hpoint

end Segment

namespace Path

variable {p q : Path}

/-- Cut at its points, a rendered path gives its steps. -/
theorem splitOn_render (hp : p.Plain) (hne : p ≠ []) :
    p.render.toList.splitOn '.' = p.map fun step => step.render.toList := by
  have hjoin : p.render.toList = ['.'].intercalate (p.map fun step => step.render.toList) := by
    rw [render, String.toList_intercalate, List.map_map]
    rfl
  rw [hjoin]
  refine List.splitOn_intercalate '.' (fun cs hcs => ?_) fun hnil => hne (List.map_eq_nil_iff.mp hnil)
  obtain ⟨step, hstep, rfl⟩ := List.mem_map.mp hcs
  exact (hp step hstep).point_not_mem_render

/-- Only the root is rendered as the empty text. -/
theorem render_ne_render_nil (hp : p.Plain) (hne : p ≠ []) : p.render ≠ render [] := by
  intro h
  have hcut := splitOn_render hp hne
  rw [h] at hcut
  have hmem : [] ∈ p.map fun step => step.render.toList := hcut ▸ List.mem_singleton.mpr rfl
  obtain ⟨step, hstep, hnil⟩ := List.mem_map.mp hmem
  exact (hp step hstep).render_ne_nil hnil

/-- The rendering of a path tells that of each step. -/
theorem map_render_injective (hp : p.Plain) (hq : q.Plain) (h : p.render = q.render) :
    p.map Segment.render = q.map Segment.render := by
  by_cases hp' : p = []
  · by_cases hq' : q = []
    · rw [hp', hq']
    · exact absurd (hp' ▸ h.symm) (render_ne_render_nil hq hq')
  · by_cases hq' : q = []
    · exact absurd (hq' ▸ h) (render_ne_render_nil hp hp')
    · have hcut : (p.map fun step => step.render.toList) = q.map fun step => step.render.toList := by
        rw [← splitOn_render hp hp', ← splitOn_render hq hq', h]
      have htexts := congrArg (List.map String.ofList) hcut
      simp only [List.map_map, Function.comp_def, String.ofList_toList] at htexts
      exact htexts

end Path

/-! ## Walking along two paths -/

namespace Document

variable {d inner inner' : Document} {p q : Path} {a b : Segment}

/-- Two steps into one value that are rendered alike are the same. -/
theorem eq_of_render_step (ha : d.child? a = some inner) (hb : d.child? b = some inner')
    (h : a.render = b.render) : a = b := by
  cases d with
  | object entries =>
    cases a with
    | index i => cases ha
    | key name =>
      cases b with
      | index j => cases hb
      | key name' => exact congrArg Segment.key h
  | array items =>
    cases a with
    | key name => cases ha
    | index i =>
      cases b with
      | key name' => cases hb
      | index j => exact congrArg Segment.index (Segment.toString_injective h)
  | _ => cases a <;> cases ha

/-- Two paths to values of one document are the same if their steps are rendered alike. -/
theorem eq_of_map_render (hp : (d.at? p).isSome) (hq : (d.at? q).isSome)
    (h : p.map Segment.render = q.map Segment.render) : p = q := by
  induction p generalizing d q with
  | nil => exact (List.map_eq_nil_iff.mp h.symm).symm
  | cons a p ih =>
    obtain ⟨b, q, rfl, hstep, hrest⟩ := List.map_eq_cons_iff.mp h.symm
    obtain ⟨node, hp⟩ := Option.isSome_iff_exists.mp hp
    obtain ⟨node', hq⟩ := Option.isSome_iff_exists.mp hq
    obtain ⟨inner, ha, hp⟩ := Option.bind_eq_some_iff.mp hp
    obtain ⟨inner', hb, hq⟩ := Option.bind_eq_some_iff.mp hq
    have hab : a = b := eq_of_render_step ha hb hstep.symm
    subst hab
    cases ha.symm.trans hb
    rw [ih (Option.isSome_of_mem hp) (Option.isSome_of_mem hq) hrest.symm]

/-- **Paths through one document can be told from their renderings.** -/
theorem eq_of_render (hp : (d.at? p).isSome) (hq : (d.at? q).isSome) (hp' : p.Plain)
    (hq' : q.Plain) (h : p.render = q.render) : p = q :=
  eq_of_map_render hp hq (Path.map_render_injective hp' hq' h)

end Document

/-! ## Where violations stand -/

namespace Schema

variable {s : Schema} {d : Document} {v : Violation}

/-- A violation inside is one of a value one step inside, under one of the schema's parts. -/
theorem exists_part_of_mem_reportInside (hd : d.keysDistinct = true) (hv : v ∈ s.reportInside d) :
    ∃ step inner, d.child? step = some inner ∧
      ∃ t ∈ s.parts, ∃ u ∈ t.report inner, u.under [step] = v := by
  cases d with
  | object entries =>
    rw [reportInside, List.mem_append, mem_reportDeclared] at hv
    rcases hv with ⟨q, hq, inner, hinner, hu⟩ | hv
    · exact ⟨.key q.1, inner, hinner, q.2, mem_parts.mpr (.inl ⟨q, hq, rfl⟩), hu⟩
    · cases ha : s.additional with
      | none =>
        rw [ha] at hv
        cases hv
      | some extra =>
        rw [ha] at hv
        obtain ⟨e, he, hv⟩ := List.mem_flatMap.mp hv
        have hinner := Document.lookup_of_keysDistinct hd (List.mem_filter.mp he).1
        exact ⟨.key e.1, e.2, hinner, extra, mem_parts.mpr (.inr (.inl ha)), List.mem_map.mp hv⟩
  | array elements =>
    obtain ⟨i, inner, t, hinner, ht, hu⟩ := mem_reportInside_array.mp hv
    exact ⟨.index i, inner, hinner, t, mem_parts.mpr (.inr (.inr ht)), hu⟩
  | _ => cases hv

/-- **The path of a violation leads to a value of the document.** -/
theorem isSome_at?_of_mem_report (hd : d.keysDistinct = true) (hv : v ∈ s.report d) :
    (d.at? v.path).isSome := by
  induction s using partsInduction generalizing d v with
  | h s ih =>
    cases hr : s.checks.refused? d.kind with
    | some types =>
      rw [report_of_refused hr] at hv
      cases List.mem_singleton.mp hv
      rfl
    | none =>
      rcases (mem_report_of_admitted hr).mp hv with ⟨f, -, rfl⟩ | hinside
      · rfl
      · obtain ⟨step, inner, hinner, t, ht, u, hu, rfl⟩ :=
          exists_part_of_mem_reportInside hd hinside
        have hbelow := ih t ht (Document.keysDistinct_child? hd hinner) hu
        show ((d.child? step).bind (Document.at? u.path)).isSome
        rw [hinner]
        exact hbelow

end Schema

/-! ## What is found by a rendered path -/

namespace Violation

variable {p : Path} {vs : List Violation}

/-- Where only one of the paths is rendered in a given way, just what stands there is found. -/
theorem located_eq_filter (h : ∀ v ∈ vs, v.path.render = p.render → v.path = p) :
    located p.render vs = vs.filter fun v => v.path = p := by
  refine List.filter_congr fun v hv => ?_
  rw [Bool.eq_iff_iff, beq_iff_eq, decide_eq_true_iff]
  exact ⟨h v hv, fun heq => heq ▸ rfl⟩

theorem reported_iff {path : String} {k : FaultKind} :
    reported path k vs = true ↔ ∃ v ∈ located path vs, v.kind = k := by
  rw [reported, List.any_eq_true]
  exact exists_congr fun v => and_congr_right fun _ => decide_eq_true_iff

end Violation

/-- **Places in a loaded document are known by their rendered paths.**  Two paths that lead to values
of the document are the same if they are rendered alike and no key on them is empty or holds a point.
If the keys on the paths of all violations are such too, then what a report finds by the rendering of
a path is just what it has at that path, in its order, and it finds a kind there just if a violation of
that kind is reported at the path. -/
theorem Loader.located_violations {l : Loader} {bytes : List UInt8} {d : Document}
    (hd : l.load bytes = .ok d) :
    (∀ p q : Path, (d.at? p).isSome → (d.at? q).isSome → p.Plain → q.Plain →
      p.render = q.render → p = q) ∧
    ∀ (s : Schema) (p : Path), (d.at? p).isSome → p.Plain →
      (∀ v ∈ s.violations d, v.path.Plain) →
        Violation.located p.render (s.violations d) =
          (s.violations d).filter (fun v => v.path = p) ∧
        ∀ k, Violation.reported p.render k (s.violations d) = true ↔
          ∃ v ∈ s.violations d, v.path = p ∧ v.kind = k := by
  have hdistinct := Document.keysDistinct_of_load hd
  refine ⟨fun p q hp hq hp' hq' h => Document.eq_of_render hp hq hp' hq' h, ?_⟩
  intro s p hp hplain hplains
  have hlocated : Violation.located p.render (s.violations d) =
      (s.violations d).filter fun v => v.path = p := by
    refine Violation.located_eq_filter fun v hv h => ?_
    have hnode : (d.at? v.path).isSome :=
      Schema.isSome_at?_of_mem_report hdistinct (Schema.violations_report s d ▸ hv)
    exact Document.eq_of_render hnode hp (hplains v hv) hplain h
  refine ⟨hlocated, fun k => ?_⟩
  rw [Violation.reported_iff, hlocated]
  simp only [List.mem_filter, decide_eq_true_iff, and_assoc]

/-- A key and an index can be rendered alike; they do not lead into the same value. -/
example : Path.render [.key "0"] = Path.render [.index 0] := by decide

/-- A schema for a text under a key that looks like an index, and for a list of texts. -/
def numbered : Library := ⟨[
  ("numbered", .object [("properties", .object [
    ("0", .object [("type", .string "string")]),
    ("a", .object [("items", .object [("type", .string "string")])])])])]⟩

/-- Two values are of the wrong kind, and the rendering of a path finds the one at that path. -/
theorem Loader.located_violations_numbered : ∃ s d, numbered.compile "numbered" = .ok s ∧
    ({} : Loader).load (Utf8.encode "\x7b\"0\":1,\"a\":[true]\x7d") = .ok d ∧
    (d.at? [.key "a", .index 0]).isSome ∧ Path.Plain [.key "a", .index 0] ∧
    (s.violations d).map (fun v => (v.path, v.kind)) =
      [([.key "0"], .typeMismatch), ([.key "a", .index 0], .typeMismatch)] ∧
    (∀ v ∈ s.violations d, v.path.Plain) ∧
    Violation.located "a.0" (s.violations d) =
      (s.violations d).filter (fun v => v.path = [.key "a", .index 0]) ∧
    Violation.reported "a.0" .typeMismatch (s.violations d) = true ∧
    Violation.reported "a.0" .enumMismatch (s.violations d) = false := by
  obtain ⟨s, hs, hload⟩ := exists_ok_of_map (e := numbered.compile "numbered")
    (f := fun s =>
      (({} : Loader).load (Utf8.encode "\x7b\"0\":1,\"a\":[true]\x7d")).toOption.map fun d =>
        ((d.at? [.key "a", .index 0]).isSome, (s.violations d).map fun v => (v.path, v.kind)))
    (b := some (true, [([.key "0"], .typeMismatch), ([.key "a", .index 0], .typeMismatch)]))
    (by decide +kernel)
  obtain ⟨d, hd, hboth⟩ := exists_ok_of_map hload
  obtain ⟨hnode, hshown⟩ := Prod.mk.inj hboth
  have hplain : ∀ v ∈ s.violations d, v.path.Plain := by
    have hall : ∀ x ∈ (s.violations d).map fun v => (v.path, v.kind), x.1.Plain := by
      rw [hshown]
      decide
    exact fun v hv => hall _ (List.mem_map_of_mem hv)
  have hpath : Path.Plain [.key "a", .index 0] := by decide
  have hrender : Path.render [.key "a", .index 0] = "a.0" := by decide
  obtain ⟨hlocated, hreported⟩ := (Loader.located_violations hd).2 s _ hnode hpath hplain
  rw [hrender] at hlocated hreported
  have hmem : ∀ k, (∃ v ∈ s.violations d, v.path = [.key "a", .index 0] ∧ v.kind = k) ↔
      ([.key "a", .index 0], k) ∈ (s.violations d).map fun v => (v.path, v.kind) := by
    intro k
    simp only [List.mem_map, Prod.mk.injEq]
  refine ⟨s, d, hs, hd, hnode, hpath, hshown, hplain, hlocated, ?_, ?_⟩
  · rw [hreported, hmem, hshown]
    decide
  · rw [Bool.eq_false_iff, Ne, hreported, hmem, hshown]
    decide

end ManifestCheck
