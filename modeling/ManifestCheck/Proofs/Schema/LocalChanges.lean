import ManifestCheck.Proofs.Schema.Replacement

/-!
# Changes inside a document

However deep inside a document a value is replaced, and whatever the document is, its report changes
in one part only.  The part is about that value and what is inside it, it stands together, and the
new part is what the governing schema reports on the new value.  All other violations stay, in their
order (`violations_replaceAt`).

Two things stand between a value and its schema: a path that no schema goes along with, and a value
on the way whose kind is refused.  The value is then held against nothing (`Schema.checking?`), and
its part of the report is empty before and after.  A list of permitted values further up compares
everything below it and would speak about the change from another place.

An accepted document has no other violations, so that what the governing schema reports on the new
value is all that is reported (`Schema.report_replaceAt`).
-/

namespace ManifestCheck

namespace Document

variable {d node inner : Document} {step : Segment} {p : Path}

theorem replaceAt_cons (h : d.child? step = some inner) (p : Path) (x : Document) :
    d.replaceAt (step :: p) x = d.setChild step (inner.replaceAt p x) := by
  rw [replaceAt, h]

theorem replaceAt_self (h : d.at? p = some node) : d.replaceAt p node = d := by
  induction p generalizing d with
  | nil => exact (Option.some.inj h).symm
  | cons step p ih =>
    obtain ⟨inner, hinner, h⟩ := Option.bind_eq_some_iff.mp h
    rw [replaceAt_cons hinner, ih h]
    exact setChild_self hinner

theorem kind_setChild (step : Segment) (d x : Document) : (d.setChild step x).kind = d.kind := by
  unfold setChild
  split <;> rfl

end Document

namespace Schema

variable {s t : Schema} {d inner node : Document} {step : Segment} {p : Path}

/-! ## On the way to a value -/

/-- Each value above the end of a path, with the schema that governs it, has a property. -/
def Above (P : Schema → Document → Prop) (s : Schema) (d : Document) (p : Path) : Prop :=
  ∀ q above u, q <+: p → q ≠ p → d.at? q = some above → s.governing? q = some u → P u above

/-- No value above the end of a path is of a kind that its governing schema refuses. -/
def AdmittedAbove (s : Schema) (d : Document) (p : Path) : Prop :=
  s.Above (fun u above => u.checks.Admits above.kind) d p

/-- No value above the end of a path is compared with a list of permitted values: its governing
schema has none, or refuses the kind of the value before. -/
def UncomparedAbove (s : Schema) (d : Document) (p : Path) : Prop :=
  s.Above (fun u above => u.checks.Admits above.kind → u.checks.enumeration = none) d p

theorem above_nil (P : Schema → Document → Prop) (s : Schema) (d : Document) : s.Above P d [] :=
  fun _ _ _ hq hne => absurd (List.prefix_nil.mp hq) hne

theorem above_cons {P : Schema → Document → Prop} (hinner : d.child? step = some inner) :
    s.Above P d (step :: p) ↔ P s d ∧ ∀ t, s.child? step = some t → t.Above P inner p := by
  constructor
  · intro h
    refine ⟨h [] d s List.nil_prefix (List.cons_ne_nil _ _).symm rfl rfl, ?_⟩
    intro t ht q above u hq hne habove hu
    refine h (step :: q) above u (List.cons_prefix_cons.mpr ⟨rfl, hq⟩) (fun heq => hne ?_) ?_ ?_
    · exact (List.cons_eq_cons.mp heq).2
    · rw [Document.at?, hinner]
      exact habove
    · rw [governing?, ht]
      exact hu
  · intro hx q above u hq hne habove hu
    obtain ⟨hs, h⟩ := hx
    cases q with
    | nil =>
      cases habove
      cases hu
      exact hs
    | cons step' q =>
      obtain ⟨rfl, hprefix⟩ := List.cons_prefix_cons.mp hq
      obtain ⟨inner', hinner', habove⟩ := Option.bind_eq_some_iff.mp habove
      obtain ⟨t, ht, hu⟩ := Option.bind_eq_some_iff.mp hu
      cases hinner.symm.trans hinner'
      exact h t ht q above u hprefix (fun heq => hne (by rw [heq])) habove hu

/-- No schema that governs a value above the end of a path has a list of permitted values. -/
def NoListAbove (s : Schema) (p : Path) : Prop :=
  ∀ q u, q <+: p → q ≠ p → s.governing? q = some u → u.checks.enumeration = none

theorem noListAbove_nil (s : Schema) : s.NoListAbove [] := fun _ _ hq hne =>
  absurd (List.prefix_nil.mp hq) hne

theorem NoListAbove.cons (hs : s.checks.enumeration = none) (ht : s.child? step = some t)
    (h : t.NoListAbove p) : s.NoListAbove (step :: p) := by
  intro q u hq hne hu
  cases q with
  | nil =>
    cases hu
    exact hs
  | cons step' q =>
    obtain ⟨rfl, hprefix⟩ := List.cons_prefix_cons.mp hq
    obtain ⟨t', ht', hu⟩ := Option.bind_eq_some_iff.mp hu
    cases ht.symm.trans ht'
    exact h q u hprefix (fun heq => hne (by rw [heq])) hu

theorem NoListAbove.uncompared (h : s.NoListAbove p) (d : Document) : s.UncomparedAbove d p :=
  fun q _ u hq hne _ hu _ => h q u hq hne hu

/-- The schema that the value at the end of a path is held against.  There is none if no schema
governs it, or if a value on the way is of a refused kind. -/
def checking? : Path → Schema → Document → Option Schema
  | [], s, _ => some s
  | step :: rest, s, d =>
    match s.checks.refused? d.kind, s.child? step, d.child? step with
    | none, some t, some inner => checking? rest t inner
    | _, _, _ => none

theorem checking?_of_admittedAbove (hp : d.at? p = some node) (h : s.AdmittedAbove d p) :
    s.checking? p d = s.governing? p := by
  induction p generalizing s d with
  | nil => rfl
  | cons step p ih =>
    obtain ⟨inner, hinner, hp⟩ := Option.bind_eq_some_iff.mp hp
    obtain ⟨hroot, hbelow⟩ := (above_cons hinner).mp h
    rw [checking?, governing?, Checks.refused?_eq_none_iff.mpr hroot, hinner]
    cases ht : s.child? step with
    | none => rfl
    | some t => exact ih hp (hbelow t ht)

theorem checking?_of_not_admittedAbove (hp : d.at? p = some node) (h : ¬s.AdmittedAbove d p) :
    s.checking? p d = none := by
  induction p generalizing s d with
  | nil => exact absurd (above_nil _ s d) h
  | cons step p ih =>
    obtain ⟨inner, hinner, hp⟩ := Option.bind_eq_some_iff.mp hp
    rw [AdmittedAbove, above_cons hinner, not_and] at h
    rw [checking?, hinner]
    cases hr : s.checks.refused? d.kind with
    | some types => rfl
    | none =>
      cases ht : s.child? step with
      | none => rfl
      | some t =>
        refine ih hp fun hbelow => h (Checks.refused?_eq_none_iff.mp hr) fun u hu => ?_
        cases ht.symm.trans hu
        exact hbelow

theorem governing?_of_checking? (hp : d.at? p = some node)
    (h : s.checking? p d = some t) : s.governing? p = some t := by
  by_cases hadmitted : s.AdmittedAbove d p
  · rw [← checking?_of_admittedAbove hp hadmitted, h]
  · cases h.symm.trans (checking?_of_not_admittedAbove hp hadmitted)

/-! ## The part about a value -/

/-- What is reported on a value at the end of a path. -/
def reportAlong (s : Schema) (d : Document) (p : Path) (x : Document) : List Violation :=
  match s.checking? p d with
  | some t => (t.report x).map (·.under p)
  | none => []

theorem reportAlong_cons (hkind : s.checks.refused? d.kind = none) (ht : s.child? step = some t)
    (hinner : d.child? step = some inner) (x : Document) :
    s.reportAlong d (step :: p) x = (t.reportAlong inner p x).map (·.under [step]) := by
  rw [reportAlong, reportAlong, checking?, hkind, ht, hinner]
  dsimp only
  cases t.checking? p inner with
  | none => rfl
  | some u =>
    rw [List.map_map]
    rfl

theorem prefix_of_mem_reportAlong {x : Document} {v : Violation} (h : v ∈ s.reportAlong d p x) :
    p <+: v.path := by
  unfold reportAlong at h
  split at h
  · obtain ⟨u, -, rfl⟩ := List.mem_map.mp h
    exact List.prefix_append p u.path
  · cases h

/-- Violations at other places than the end of a path and those below it. -/
def Apart (p : Path) (vs : List Violation) : Prop := ∀ v ∈ vs, ¬p <+: v.path

theorem Away.apart {vs : List Violation} (h : Away step vs) (p : Path) : Apart (step :: p) vs :=
  fun v hv hp => h v hv (List.IsPrefix.trans (List.cons_prefix_cons.mpr ⟨rfl, List.nil_prefix⟩) hp)

theorem Apart.under {vs : List Violation} (h : Apart p vs) (step : Segment) :
    Apart (step :: p) (vs.map (·.under [step])) := by
  intro v hv hp
  obtain ⟨u, hu, rfl⟩ := List.mem_map.mp hv
  exact h u hu (List.cons_prefix_cons.mp hp).2

theorem apart_append {vs us : List Violation} (hv : Apart p vs) (hu : Apart p us) :
    Apart p (vs ++ us) := fun v hmem =>
  (List.mem_append.mp hmem).elim (hv v) (hu v)

/-- **The rest of a report does not go by the value at the end of a path.**  By induction on the
path: the frame one step inside is put into the frame around that step. -/
theorem frames_replaceAt (hs : s.NamesDistinct) (hd : d.keysDistinct = true)
    (hp : d.at? p = some node) (hlist : s.UncomparedAbove d p) :
    ∃ before behind, Apart p before ∧ Apart p behind ∧
      ∀ x, s.report (d.replaceAt p x) = before ++ s.reportAlong d p x ++ behind := by
  induction p generalizing s d with
  | nil =>
    refine ⟨[], [], nofun, nofun, fun x => ?_⟩
    rw [List.append_nil, List.nil_append]
    exact (Violation.map_under_nil _).symm
  | cons step p ih =>
    obtain ⟨inner, hinner, hp⟩ := Option.bind_eq_some_iff.mp hp
    obtain ⟨hroot, hbelow⟩ := (above_cons hinner).mp hlist
    simp only [Document.replaceAt_cons hinner]
    cases hkind : s.checks.refused? d.kind with
    | some types =>
      -- the refused value is above the end of the path, and is all that is reported
      refine ⟨[⟨[], .wrongType types d.kind⟩], [], fun v hv hprefix => ?_, nofun, fun x => ?_⟩
      · rw [List.mem_singleton.mp hv] at hprefix
        exact List.cons_ne_nil _ _ (List.prefix_nil.mp hprefix)
      · have hkind' : s.checks.refused? (d.setChild step (inner.replaceAt p x)).kind =
            some types := by rw [Document.kind_setChild, hkind]
        rw [report_of_refused hkind', Document.kind_setChild, reportAlong, checking?, hkind]
        rfl
    | none =>
      obtain ⟨before, behind, hbefore, hbehind, hframe⟩ := frames_report (hs [] s rfl) hd hkind
        (hroot (Checks.refused?_eq_none_iff.mp hkind)) hinner
      dsimp only at hframe
      cases ht : s.child? step with
      | none =>
        refine ⟨before, behind, hbefore.apart p, hbehind.apart p, fun x => ?_⟩
        rw [hframe, reportAt, ht, reportAlong, checking?, hkind, ht]
      | some t =>
        obtain ⟨before', behind', hbefore', hbehind', hinside⟩ := ih (namesDistinct_child? hs ht)
          (Document.keysDistinct_child? hd hinner) hp (hbelow t ht)
        refine ⟨before ++ before'.map (·.under [step]), behind'.map (·.under [step]) ++ behind,
          apart_append (hbefore.apart p) (hbefore'.under step),
          apart_append (hbehind'.under step) (hbehind.apart p), fun x => ?_⟩
        have hat : s.reportAt step (inner.replaceAt p x) =
            (t.report (inner.replaceAt p x)).map (·.under [step]) := by rw [reportAt, ht]
        rw [hframe, hat, hinside, reportAlong_cons hkind ht hinner]
        simp only [List.map_append, List.append_assoc]

/-! ## Accepted documents -/

/-- What is inside an accepted document is accepted by the schema that governs it. -/
theorem report_at (hs : s.NamesDistinct) (hd : d.keysDistinct = true) (ha : s.report d = [])
    (hp : d.at? p = some node) (ht : s.governing? p = some t) : t.report node = [] := by
  induction p generalizing s d with
  | nil =>
    cases hp
    cases ht
    exact ha
  | cons step p ih =>
    obtain ⟨inner, hinner, hp⟩ := Option.bind_eq_some_iff.mp hp
    obtain ⟨u, hu, ht⟩ := Option.bind_eq_some_iff.mp ht
    have hnone : u.report inner = [] := List.eq_nil_iff_forall_not_mem.mpr fun v hv => by
      have hinside := (mem_reportInside hs hd).mpr ⟨step, inner, u, hinner, hu, v, hv, rfl⟩
      rw [(accepts_iff.mp (accepts_iff_report.mpr ha)).2.2] at hinside
      exact List.not_mem_nil hinside
    exact ih (namesDistinct_child? hs hu) (Document.keysDistinct_child? hd hinner) hnone hp ht

theorem admittedAbove_of_report (hs : s.NamesDistinct) (hd : d.keysDistinct = true)
    (ha : s.report d = []) (p : Path) : s.AdmittedAbove d p := fun _ _ _ _ _ habove hu =>
  (accepts_iff.mp (accepts_iff_report.mpr (report_at hs hd ha habove hu))).1

/-- **In an accepted document all faults come from the new value.**  When another value is put at the
end of a path, what the governing schema reports on that one is all that is reported. -/
theorem report_replaceAt (hs : s.NamesDistinct) (hd : d.keysDistinct = true)
    (ha : s.report d = []) (hp : d.at? p = some node) (ht : s.governing? p = some t)
    (hlist : s.NoListAbove p) (x : Document) :
    s.report (d.replaceAt p x) = (t.report x).map (·.under p) := by
  obtain ⟨before, behind, -, -, hframe⟩ := frames_replaceAt hs hd hp (hlist.uncompared d)
  have hempty := hframe node
  rw [Document.replaceAt_self hp, ha] at hempty
  obtain ⟨hfront, rfl⟩ := List.append_eq_nil_iff.mp hempty.symm
  obtain ⟨rfl, -⟩ := List.append_eq_nil_iff.mp hfront
  rw [hframe, List.nil_append, List.append_nil, reportAlong,
    checking?_of_admittedAbove hp (admittedAbove_of_report hs hd ha p), ht]

end Schema

/-- **A replaced value changes its own part of a report.**  Take a compiled schema and a loaded
document, and a path to a value with no list of permitted values in the schemas above it.  Then the
report of the document is made of a part that is about the value and what is inside it, and of the
violations at other places in front and behind.  With another value at the end of the path the report
is the same but for that part, which is what the governing schema reports on the new value, put under
the path; it is empty if there is no governing schema, or if a value above is of a refused kind. -/
theorem violations_replaceAt {lib : Library} {name : String} {s : Schema} {l : Loader}
    {bytes : List UInt8} {d node : Document} {p : Path} (hlib : lib.KeysDistinct)
    (hs : lib.compile name = .ok s) (hd : l.load bytes = .ok d) (hp : d.at? p = some node)
    (hlist : s.NoListAbove p) :
    ∃ (before behind : List Violation) (part : Document → List Violation),
      (∀ v ∈ before ++ behind, ¬p <+: v.path) ∧
      (∀ x, ∀ v ∈ part x, p <+: v.path) ∧
      s.violations d = before ++ part node ++ behind ∧
      (∀ x, s.violations (d.replaceAt p x) = before ++ part x ++ behind) ∧
      (∀ t, s.governing? p = some t → s.AdmittedAbove d p →
        ∀ x, part x = (t.violations x).map (·.under p)) ∧
      (s.governing? p = none ∨ ¬s.AdmittedAbove d p → ∀ x, part x = []) := by
  obtain ⟨root, -, hroot, hu⟩ := Library.unfolds_of_compile hlib hs
  obtain ⟨before, behind, hbefore, hbehind, hframe⟩ := Schema.frames_replaceAt
    (hu.namesDistinct hlib hroot) (Document.keysDistinct_of_load hd) hp (hlist.uncompared d)
  have hself := hframe node
  rw [Document.replaceAt_self hp] at hself
  refine ⟨before, behind, s.reportAlong d p, Schema.apart_append hbefore hbehind,
    fun x v hv => Schema.prefix_of_mem_reportAlong hv, ?_, fun x => ?_, fun t ht hadmitted x => ?_,
    fun hnone x => ?_⟩
  · rw [Schema.violations_report]
    exact hself
  · rw [Schema.violations_report]
    exact hframe x
  · rw [Schema.reportAlong, Schema.checking?_of_admittedAbove hp hadmitted, ht,
      Schema.violations_report]
  · have hchecking : s.checking? p d = none := by
      by_cases hadmitted : s.AdmittedAbove d p
      · rw [Schema.checking?_of_admittedAbove hp hadmitted]
        exact hnone.resolve_right (not_not_intro hadmitted)
      · exact Schema.checking?_of_not_admittedAbove hp hadmitted
    rw [Schema.reportAlong, hchecking]

/-- An object lacks a name and has a size out of bounds.  With a truth value for the size, of which
nothing is asked, the missing name is all that is left, where it was. -/
theorem violations_replaceAt_bounded : ∃ s d node, bounded.compile "bounded" = .ok s ∧
    ({} : Loader).load (Utf8.encode "\x7b\"size\": 5\x7d") = .ok d ∧
      d.at? [.key "size"] = some node ∧ s.NoListAbove [.key "size"] ∧
        ∃ before behind part, Schema.Apart [.key "size"] (before ++ behind) ∧ part ≠ [] ∧
          s.violations d = before ++ part ++ behind ∧
            s.violations (d.replaceAt [.key "size"] (.bool true)) = before ++ behind := by
  have hlib : bounded.KeysDistinct := by
    unfold Library.KeysDistinct
    decide +kernel
  have h : (match bounded.compile "bounded",
      ({} : Loader).load (Utf8.encode "\x7b\"size\": 5\x7d") with
    | .ok s, .ok d =>
      (d.at? [.key "size"]).any fun node => (s.governing? [.key "size"]).any fun t =>
        s.checks.enumeration.isNone && (s.checks.refused? d.kind).isNone &&
          !(t.violations node).isEmpty && (t.violations (.bool true)).isEmpty
    | _, _ => false) = true := by decide +kernel
  split at h
  · rename_i s d hs hd
    simp only [Option.any_eq_true, Bool.and_eq_true, Bool.not_eq_true', Option.isNone_iff_eq_none,
      List.isEmpty_iff, List.isEmpty_eq_false_iff] at h
    obtain ⟨node, hp, t, ht, ⟨⟨hunlisted, hkind⟩, hfound⟩, hnone⟩ := h
    obtain ⟨inner, hinner, -⟩ := Option.bind_eq_some_iff.mp hp
    obtain ⟨below, hbelow, -⟩ := Option.bind_eq_some_iff.mp ht
    have hlist : s.NoListAbove [.key "size"] :=
      .cons hunlisted hbelow (Schema.noListAbove_nil below)
    have hadmitted : s.AdmittedAbove d [.key "size"] := (Schema.above_cons hinner).mpr
      ⟨Checks.refused?_eq_none_iff.mp hkind, fun u _ => Schema.above_nil _ u inner⟩
    obtain ⟨before, behind, part, hapart, -, hbefore, hafter, hgoverned, -⟩ :=
      violations_replaceAt hlib hs hd hp hlist
    refine ⟨s, d, node, hs, hd, hp, hlist, before, behind, part node, hapart, ?_, hbefore, ?_⟩
    · rw [hgoverned t ht hadmitted]
      exact fun hempty => hfound (List.map_eq_nil_iff.mp hempty)
    · rw [hafter, hgoverned t ht hadmitted, hnone, List.map_nil, List.append_nil]
  · cases h

end ManifestCheck
