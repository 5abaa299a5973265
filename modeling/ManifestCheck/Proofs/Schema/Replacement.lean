import ManifestCheck.Proofs.Schema.Acceptance

/-!
# Replacing a value

Replacing one value inside a document touches the part of a report that is about this value, and no
other part of it.  One step inside, the report is made of what the schema for that step reports on
the new value, and of a rest around it that is about other places and was there before
(`Schema.frames_report`).  A list of permitted values compares whole documents and is left out here.

Taking an entry out of an accepted object is reported for the key that is then missing, and for
nothing else (`Schema.report_erase`).
-/

namespace ManifestCheck

/-! ## Changed documents -/

namespace Entries

variable {α : Type}

/-- The entries under other keys. -/
def erase (key : String) (entries : List (String × α)) : List (String × α) :=
  entries.filter fun e => e.1 ≠ key

theorem mem_keys_erase {key name : String} {entries : List (String × α)} :
    name ∈ keys (erase key entries) ↔ name ≠ key ∧ name ∈ keys entries := by
  simp only [keys, erase, List.mem_map, List.mem_filter, decide_eq_true_iff]
  constructor
  · intro h
    obtain ⟨e, ⟨he, hk⟩, rfl⟩ := h
    exact ⟨hk, e, he, rfl⟩
  · intro h
    obtain ⟨hk, e, he, rfl⟩ := h
    exact ⟨e, ⟨he, hk⟩, rfl⟩

theorem lookup_erase (key name : String) (entries : List (String × α)) :
    (erase key entries).lookup name = if name = key then none else entries.lookup name := by
  induction entries with
  | nil => simp [erase]
  | cons e rest ih =>
    obtain ⟨k, v⟩ := e
    by_cases hk : k = key
    · rw [erase, List.filter_cons_of_neg (by simpa using hk)]
      refine ih.trans ?_
      rw [lookup_cons]
      split
      · rfl
      · rw [if_neg (fun h => ‹¬name = key› (h.trans hk))]
    · rw [erase, List.filter_cons_of_pos (by simpa using hk), lookup_cons, lookup_cons]
      split
      · rw [if_neg (fun h => hk (‹name = k›.symm.trans h))]
      · exact ih

theorem insert_append {key : String} {value old : α} {before behind : List (String × α)}
    (h : key ∉ keys before) :
    insert key value (before ++ (key, old) :: behind) = before ++ (key, value) :: behind := by
  induction before with
  | nil => simp [insert]
  | cons e rest ih =>
    rw [keys_cons, List.mem_cons, not_or] at h
    rw [List.cons_append, insert, if_neg (Ne.symm h.1), ih h.2, List.cons_append]

/-- A known key stands between the entries in front of it and those behind it. -/
theorem exists_split {key : String} {value : α} {entries : List (String × α)}
    (h : entries.lookup key = some value) :
    ∃ before behind, entries = before ++ (key, value) :: behind ∧ key ∉ keys before := by
  obtain ⟨before, behind, rfl, hne⟩ := List.lookup_eq_some_iff.mp h
  refine ⟨before, behind, rfl, fun hmem => ?_⟩
  obtain ⟨e, he, hk⟩ := List.mem_map.mp hmem
  exact bne_iff_ne.mp (hne e he) hk.symm

theorem exists_split_of_nodup {key : String} {value : α} {entries : List (String × α)}
    (hn : (keys entries).Nodup) (h : entries.lookup key = some value) :
    ∃ before behind, entries = before ++ (key, value) :: behind ∧ key ∉ keys before ∧
      key ∉ keys behind := by
  obtain ⟨before, behind, rfl, hbefore⟩ := exists_split h
  rw [keys, List.map_append, List.map_cons, List.nodup_append, List.nodup_cons] at hn
  exact ⟨before, behind, rfl, hbefore, hn.2.1.1⟩

end Entries

namespace Document

/-- The document without the entry under a key. -/
def erase (key : String) : Document → Document
  | object entries => object (Entries.erase key entries)
  | d => d

/-- The document with another value one step inside, where there is one already. -/
def setChild : Segment → Document → Document → Document
  | .key name, object entries, x => object (Entries.insert name x entries)
  | .index i, array elements, x => array (elements.set i x)
  | _, d, _ => d

/-- The document with another value at the end of a path, where there is one already. -/
def replaceAt : Path → Document → Document → Document
  | [], _, x => x
  | step :: rest, d, x =>
    match d.child? step with
    | some inner => d.setChild step (inner.replaceAt rest x)
    | none => d

theorem at?_append (p q : Path) (d : Document) : d.at? (p ++ q) = (d.at? p).bind (at? q) := by
  induction p generalizing d with
  | nil => rfl
  | cons step p ih =>
    rw [List.cons_append, at?, at?]
    cases d.child? step with
    | none => rfl
    | some inner => exact ih inner

theorem at?_singleton (step : Segment) (d : Document) : d.at? [step] = d.child? step := by
  cases h : d.child? step <;> simp [at?, h]

theorem setChild_self {d inner : Document} {step : Segment} (h : d.child? step = some inner) :
    d.setChild step inner = d := by
  unfold child? at h
  split at h
  · obtain ⟨before, behind, rfl, hk⟩ := Entries.exists_split h
    exact congrArg object (Entries.insert_append hk)
  · obtain ⟨hi, rfl⟩ := List.getElem?_eq_some_iff.mp h
    exact congrArg array (List.set_getElem_self hi)
  · cases h

end Document

/-! ## One step inside -/

namespace Schema

variable {s t : Schema} {d inner node x : Document} {step : Segment} {p : Path}
  {vs : List Violation} {f : Document → List Violation}

/-- What is reported on a value one step inside. -/
def reportAt (s : Schema) (step : Segment) (x : Document) : List Violation :=
  match s.child? step with
  | some t => (t.report x).map (·.under [step])
  | none => []

/-- Violations at other places than those that a step leads to. -/
def Away (step : Segment) (vs : List Violation) : Prop := ∀ v ∈ vs, ¬[step] <+: v.path

/-- A report that goes by the value at a step: what is reported on that value, with a rest around it
that does not go by the value and is about other places. -/
def Frames (s : Schema) (step : Segment) (f : Document → List Violation) : Prop :=
  ∃ before behind, Away step before ∧ Away step behind ∧
    ∀ x, f x = before ++ s.reportAt step x ++ behind

theorem away_append {us : List Violation} (hv : Away step vs) (hu : Away step us) :
    Away step (vs ++ us) := fun v hmem =>
  (List.mem_append.mp hmem).elim (hv v) (hu v)

theorem away_own (faults : List Fault) : Away step (faults.map (Violation.mk [])) := by
  intro v hv
  obtain ⟨fault, -, rfl⟩ := List.mem_map.mp hv
  exact List.prefix_nil.not.mpr (List.cons_ne_nil _ _)

/-- Reports on the values at other steps are away from this one. -/
theorem away_flatMap {α : Type} {es : List α} {place : α → Segment} {found : α → List Violation}
    (h : ∀ e ∈ es, place e ≠ step) :
    Away step (es.flatMap fun e => (found e).map (·.under [place e])) := by
  intro v hv hp
  obtain ⟨e, he, hv⟩ := List.mem_flatMap.mp hv
  obtain ⟨u, -, rfl⟩ := List.mem_map.mp hv
  exact h e he (List.cons_prefix_cons.mp hp).1.symm

theorem Frames.append_left (h : s.Frames step f) (hv : Away step vs) :
    s.Frames step fun x => vs ++ f x := by
  obtain ⟨before, behind, hbefore, hbehind, hf⟩ := h
  exact ⟨vs ++ before, behind, away_append hv hbefore, hbehind, fun x => by
    simp only [hf, List.append_assoc]⟩

theorem Frames.append_right (h : s.Frames step f) (hv : Away step vs) :
    s.Frames step fun x => f x ++ vs := by
  obtain ⟨before, behind, hbefore, hbehind, hf⟩ := h
  exact ⟨before, behind ++ vs, hbefore, away_append hbehind hv, fun x => by
    simp only [hf, List.append_assoc]⟩

/-- Elements in front of a place and behind it are reported on under indices of their own. -/
theorem frames_array {elements : List Document} {i : Nat} (h : elements[i]? = some inner) :
    s.Frames (.index i) fun x => s.reportInside (.array (elements.set i x)) := by
  obtain ⟨hi, rfl⟩ := List.getElem?_eq_some_iff.mp h
  cases hitems : s.items with
  | none => exact ⟨[], [], nofun, nofun, fun x => by simp [reportInside, reportAt, child?, hitems]⟩
  | some each =>
    let said : Document × Nat → List Violation := fun e =>
      (each.report e.1).map (·.under [.index e.2])
    have haway : ∀ es : List (Document × Nat), (∀ e ∈ es, e.2 ≠ i) →
        Away (.index i) (es.flatMap said) := fun es hes =>
      away_flatMap fun e he hi => hes e he (Segment.index.inj hi)
    have hinside : ∀ ds, s.reportInside (.array ds) = ds.zipIdx.flatMap said := fun ds => by
      rw [reportInside, hitems]
    simp only [hinside]
    refine ⟨(elements.take i).zipIdx.flatMap said,
      ((elements.drop (i + 1)).zipIdx (i + 1)).flatMap said, haway _ fun e he => ?_,
      haway _ fun e he => ?_, fun x => ?_⟩
    · have hlt := List.snd_lt_of_mem_zipIdx he
      rw [List.length_take] at hlt
      omega
    · have hle := List.le_snd_of_mem_zipIdx he
      omega
    · have hlen : (elements.take i).length = i := by
        rw [List.length_take]
        omega
      show (elements.set i x).zipIdx.flatMap said = _
      rw [reportAt, child?, hitems, List.set_eq_take_append_cons_drop, if_pos hi]
      simp [List.zipIdx_append, List.zipIdx_cons, hlen, said]

theorem reportDeclared_append (ps qs : List (String × Schema))
    (entries : List (String × Document)) :
    reportDeclared (ps ++ qs) entries = reportDeclared ps entries ++ reportDeclared qs entries := by
  induction ps with
  | nil => rfl
  | cons q rest ih => rw [List.cons_append, reportDeclared, reportDeclared, ih, List.append_assoc]

/-- Declared keys are reported on by their own values. -/
theorem reportDeclared_congr {ps : List (String × Schema)} {es fs : List (String × Document)}
    (h : ∀ q ∈ ps, es.lookup q.1 = fs.lookup q.1) :
    reportDeclared ps es = reportDeclared ps fs := by
  induction ps with
  | nil => rfl
  | cons q rest ih =>
    obtain ⟨hq, hrest⟩ := List.forall_mem_cons.mp h
    rw [reportDeclared, reportDeclared, ih hrest, hq]

theorem reportDeclared_insert {ps : List (String × Schema)} {name : String}
    {entries : List (String × Document)} (h : name ∉ Entries.keys ps) (x : Document) :
    reportDeclared ps (Entries.insert name x entries) = reportDeclared ps entries :=
  reportDeclared_congr fun q hq => by
    have hne : q.1 ≠ name := fun he => h (he ▸ Entries.mem_keys_of_mem hq)
    rw [Entries.lookup_insert, if_neg hne]

theorem away_declared {ps : List (String × Schema)} {name : String}
    {entries : List (String × Document)} (h : name ∉ Entries.keys ps) :
    Away (.key name) (reportDeclared ps entries) := by
  intro v hv hp
  obtain ⟨q, hq, inner, -, u, -, rfl⟩ := mem_reportDeclared.mp hv
  obtain ⟨heq, -⟩ := List.cons_prefix_cons.mp hp
  cases heq
  exact h (Entries.mem_keys_of_mem hq)

/-- What is reported on values under undeclared keys. -/
def reportOthers (s : Schema) (entries : List (String × Document)) : List Violation :=
  match s.additional with
  | none => []
  | some extra =>
    (entries.filter fun e => (s.property? e.1).isNone).flatMap fun e =>
      (extra.report e.2).map (·.under [.key e.1])

theorem reportOthers_append (s : Schema) (es fs : List (String × Document)) :
    s.reportOthers (es ++ fs) = s.reportOthers es ++ s.reportOthers fs := by
  unfold reportOthers
  cases s.additional <;> simp

theorem away_others {entries : List (String × Document)} {name : String}
    (h : name ∉ Entries.keys entries) : Away (.key name) (s.reportOthers entries) := by
  unfold reportOthers
  cases s.additional with
  | none => nofun
  | some extra =>
    refine away_flatMap fun e he hk => h ?_
    cases hk
    exact Entries.mem_keys_of_mem (List.mem_filter.mp he).1

theorem reportInside_object (s : Schema) (entries : List (String × Document)) :
    s.reportInside (.object entries) =
      reportDeclared s.properties entries ++ s.reportOthers entries := rfl

theorem reportOthers_declared {name : String} {t : Schema} (hp : s.property? name = some t)
    (before behind : List (String × Document)) (x : Document) :
    s.reportOthers (before ++ (name, x) :: behind) = s.reportOthers (before ++ behind) := by
  unfold reportOthers
  cases s.additional <;> simp [hp]

theorem reportOthers_undeclared {name : String} (hp : s.property? name = none) (x : Document) :
    s.reportOthers [(name, x)] = s.reportAt (.key name) x := by
  unfold reportOthers reportAt
  rw [child?, hp]
  cases s.additional <;> simp [hp]

/-- Under a declared key a value is reported on where the key is declared. -/
theorem frames_declared {name : String} {t : Schema} (hn : (Entries.keys s.properties).Nodup)
    (hp : s.property? name = some t) (entries : List (String × Document)) :
    s.Frames (.key name) fun x => reportDeclared s.properties (Entries.insert name x entries) := by
  obtain ⟨ps, qs, hsplit, hps, hqs⟩ := Entries.exists_split_of_nodup hn hp
  refine ⟨reportDeclared ps entries, reportDeclared qs entries, away_declared hps,
    away_declared hqs, fun x => ?_⟩
  dsimp only
  rw [hsplit, reportDeclared_append, reportDeclared, reportDeclared_insert hps,
    reportDeclared_insert hqs, Entries.lookup_insert, if_pos rfl, reportAt, child?, hp,
    List.append_assoc]
  rfl

/-- Under another key a value is reported on where it stands. -/
theorem frames_others {name : String} {before behind : List (String × Document)}
    (hp : s.property? name = none) (hbefore : name ∉ Entries.keys before)
    (hbehind : name ∉ Entries.keys behind) :
    s.Frames (.key name) fun x => s.reportOthers (before ++ (name, x) :: behind) := by
  refine ⟨s.reportOthers before, s.reportOthers behind, away_others hbefore, away_others hbehind,
    fun x => ?_⟩
  rw [← reportOthers_undeclared hp, ← reportOthers_append, ← reportOthers_append,
    List.append_assoc, List.singleton_append]

theorem frames_object {entries : List (String × Document)} {name : String}
    (hn : (Entries.keys s.properties).Nodup) (hk : (Entries.keys entries).Nodup)
    (h : entries.lookup name = some inner) :
    s.Frames (.key name) fun x => s.reportInside (.object (Entries.insert name x entries)) := by
  obtain ⟨before, behind, rfl, hbefore, hbehind⟩ := Entries.exists_split_of_nodup hk h
  simp only [reportInside_object]
  cases hp : s.property? name with
  | some t =>
    have hothers : ∀ x, s.reportOthers (Entries.insert name x (before ++ (name, inner) :: behind)) =
        s.reportOthers (before ++ behind) := fun x => by
      rw [Entries.insert_append hbefore, reportOthers_declared hp]
    have haway : Away (.key name) (s.reportOthers (before ++ behind)) := by
      rw [reportOthers_append]
      exact away_append (away_others hbefore) (away_others hbehind)
    simp only [hothers]
    exact (frames_declared hn hp _).append_right haway
  | none =>
    have hps : name ∉ Entries.keys s.properties := Entries.lookup_eq_none_iff_not_mem_keys.mp hp
    simp only [reportDeclared_insert hps]
    simp only [Entries.insert_append hbefore]
    exact (frames_others hp hbefore hbehind).append_left (away_declared hps)

/-- **A value has its own part of a report.**  With an admitted kind and no list of permitted values,
what changes in a report with the value one step inside is the part about that value. -/
theorem frames_report (hn : (Entries.keys s.properties).Nodup) (hd : d.keysDistinct = true)
    (hkind : s.checks.refused? d.kind = none) (hlist : s.checks.enumeration = none)
    (h : d.child? step = some inner) : s.Frames step fun x => s.report (d.setChild step x) := by
  have hunlisted : ∀ d, s.checks.unlisted? d = none := fun d => by
    rw [Checks.unlisted?, hlist]
    rfl
  unfold Document.child? at h
  split at h
  case h_1 name entries =>
    have hself : ∀ x, s.checks.selfReport (.object (Entries.insert name x entries)) =
        s.checks.selfReport (.object entries) := fun x => by
      have hmem := Entries.mem_keys_of_mem (Entries.mem_of_lookup h)
      rw [Checks.selfReport, Checks.selfReport, Entries.keys_insert, if_pos hmem]
    have hreport : ∀ x, s.report (.object (Entries.insert name x entries)) =
        (s.checks.selfReport (.object entries)).map (Violation.mk []) ++
          s.reportInside (.object (Entries.insert name x entries)) := fun x => by
      rw [report_of_admitted (show s.checks.refused? Kind.object = none from hkind), hunlisted,
        hself]
      exact List.append_nil _
    have hframe := (frames_object hn (Document.keysDistinct_object.mp hd).1 h).append_left
      (away_own (s.checks.selfReport (.object entries)))
    simp only [← hreport] at hframe
    exact hframe
  case h_2 i elements =>
    have hself : ∀ x, s.checks.selfReport (.array (elements.set i x)) =
        s.checks.selfReport (.array elements) := fun x => by
      rw [Checks.selfReport, Checks.selfReport, List.length_set]
    have hreport : ∀ x, s.report (.array (elements.set i x)) =
        (s.checks.selfReport (.array elements)).map (Violation.mk []) ++
          s.reportInside (.array (elements.set i x)) := fun x => by
      rw [report_of_admitted (show s.checks.refused? Kind.array = none from hkind), hunlisted,
        hself]
      exact List.append_nil _
    have hframe := (frames_array (s := s) h).append_left
      (away_own (s.checks.selfReport (.array elements)))
    simp only [← hreport] at hframe
    exact hframe
  case h_3 => cases h

/-! ## An entry taken out -/

/-- What an accepted object lacks without a key is that key, if it is required. -/
theorem report_erase {entries : List (String × Document)} (hlist : s.checks.enumeration = none)
    (ha : s.report (.object entries) = []) (key : String) :
    s.report (.object (Entries.erase key entries)) =
      (s.checks.required.filter (· = key)).map fun name => ⟨[], .missing name⟩ := by
  have haccepts := accepts_iff.mp (accepts_iff_report.mpr ha)
  obtain ⟨hkind, hfaults, hinside⟩ := haccepts
  have hinside' : s.reportInside (.object (Entries.erase key entries)) = [] := by
    obtain ⟨hdeclared, hothers⟩ := reportInside_object_eq_nil_iff.mp hinside
    refine reportInside_object_eq_nil_iff.mpr ⟨fun q hq inner hl => ?_, fun extra he e hmem => ?_⟩
    · rw [Entries.lookup_erase] at hl
      split at hl
      · cases hl
      · exact hdeclared q hq inner hl
    · exact hothers extra he e (List.mem_filter.mp hmem).1
  have hrequired : ∀ name ∈ s.checks.required, name ∈ Entries.keys entries := by
    intro name hname
    refine Decidable.byContradiction fun hk => ?_
    exact Checks.allFaults_eq_nil_iff.mp hfaults _ (.lacks hname hk)
  have hself : s.checks.selfReport (.object (Entries.erase key entries)) =
      (s.checks.required.filter (· = key)).map Fault.missing := by
    rw [Checks.selfReport]
    congr 1
    refine List.filter_congr fun name hname => ?_
    simp [Entries.mem_keys_erase, hrequired name hname]
  have hkind' : s.checks.refused? (Document.object (Entries.erase key entries)).kind = none :=
    Checks.refused?_eq_none_iff.mpr hkind
  rw [report_of_admitted hkind', hself, hinside', Checks.unlisted?, hlist]
  simp

end Schema

end ManifestCheck
