import ManifestCheck.Proofs.Schema.LiteralNumbers
import ManifestCheck.Proofs.Schema.LocalChanges
import ManifestCheck.Proofs.Text.EscapedTexts

/-!
# How often a violation is reported

All that is reported at one path is about one value and comes from the schema that governs it
(`Schema.filter_report`): distinct keys and indices lead to distinct places, and a place is visited
once.  So a violation can only come twice if one value has one fault twice.  Its checks differ in
what they say, a list of permitted values is one check, and different names are shown differently;
but the names that a schema requires are checked as they are listed, and a name that is listed twice
is reported twice (`count_violations`).
-/

namespace ManifestCheck

/-- The path, the kind and the message of a violation. -/
def Violation.shown (v : Violation) : Path × FaultKind × String := (v.path, v.kind, v.message)

/-! ## Faults of one value -/

namespace Fault

/-- The kind and the message of a fault. -/
def said (f : Fault) : FaultKind × String := (f.kind, f.message)

theorem said_missing_injective : Function.Injective fun name => (missing name).said := by
  intro name name' h
  have hmessage : (missing name).message = (missing name').message := congrArg Prod.snd h
  have hshown := (String.append_right_inj _).mp hmessage
  exact Escaped.render_injective hshown

/-- Texts differ if behind the same front they go on differently. -/
theorem append_ne {a b : String} (i : Nat) (ha : i < a.toList.length) (hb : i < b.toList.length)
    (hne : a.toList[i]? ≠ b.toList[i]?) (front x y : String) :
    front ++ a ++ x ≠ front ++ b ++ y := by
  intro h
  rw [String.append_assoc, String.append_assoc, String.append_right_inj] at h
  have hchars := congrArg (fun t : String => t.toList[i]?) h
  simp only [String.toList_append, List.getElem?_append_left ha, List.getElem?_append_left hb]
    at hchars
  exact hne hchars

theorem message_tooMany_ne (unit : CountUnit) (count least most : Nat) :
    (tooMany unit count most).message ≠ (tooFew unit count least).message :=
  append_ne 5 (by decide) (by decide) (by decide) _ _ _

theorem message_tooLarge_ne (value least most : Number) :
    (tooLarge value most).message ≠ (tooSmall value least).message :=
  append_ne 4 (by decide) (by decide) (by decide) _ _ _

end Fault

namespace Checks

variable {c : Checks} {d : Document} {f : Fault}

/-- How often a fault is reported: a missing property as often as it is required. -/
def repetitions (c : Checks) : Fault → Nat
  | .missing name => c.required.count name
  | _ => 1

omit c d f in
/-- A list begun by what may be there has no repetition if its rest has none and lacks that. -/
theorem nodup_optional {α β : Type} {o : Option α} {say : α → β} {rest : List β}
    (hrest : rest.Nodup) (ho : ∀ a, say a ∉ rest) : (o.toList.map say ++ rest).Nodup := by
  cases o with
  | none => exact hrest
  | some a => exact List.nodup_cons.mpr ⟨ho a, hrest⟩

/-- The checks of a value that is no object say different things. -/
theorem nodup_said (h : ∀ entries, d ≠ .object entries) :
    ((c.allFaults d).map Fault.said).Nodup := by
  have hlist : ((c.unlisted? d).toList.map (Fault.said ∘ Fault.unlisted d)).Nodup := by
    cases c.unlisted? d <;> simp
  unfold allFaults
  cases d with
  | null | bool _ => simpa [selfReport] using hlist
  | object entries => exact absurd rfl (h entries)
  | array elements =>
    have hne := Fault.message_tooMany_ne .item elements.length
    simp only [selfReport, sizeReport, List.map_append, List.map_map, List.append_assoc]
    refine nodup_optional (nodup_optional hlist ?_) ?_ <;> simp [Fault.said, Fault.kind, hne]
  | string value =>
    have hne := Fault.message_tooMany_ne .character value.length
    simp only [selfReport, sizeReport, List.map_append, List.map_map, List.append_assoc]
    refine nodup_optional (nodup_optional (nodup_optional hlist ?_) ?_) ?_ <;>
      simp [Fault.said, Fault.kind, hne]
  | number value =>
    have hne := Fault.message_tooLarge_ne value
    simp only [selfReport, List.map_append, List.map_map, List.append_assoc]
    refine nodup_optional (nodup_optional hlist ?_) ?_ <;> simp [Fault.said, Fault.kind, hne]

/-- An object has its missing properties as often as they are required. -/
theorem count_said_object {entries : List (String × Document)}
    (h : f ∈ c.allFaults (.object entries)) :
    ((c.allFaults (.object entries)).map Fault.said).count f.said = c.repetitions f := by
  have hmissing : ((c.selfReport (.object entries)).map Fault.said) =
      (c.required.filter fun name => name ∉ Entries.keys entries).map
        fun name => (Fault.missing name).said := by
    rw [selfReport, List.map_map]
    rfl
  rw [allFaults, List.map_append, List.map_map, List.count_append, hmissing]
  rcases List.mem_append.mp h with h | h
  · obtain ⟨name, hname, rfl⟩ := List.mem_map.mp h
    have hlist : ((c.unlisted? (.object entries)).toList.map
        (Fault.said ∘ Fault.unlisted (.object entries))).count (Fault.missing name).said = 0 := by
      refine List.count_eq_zero.mpr ?_
      simp [Fault.said, Fault.kind]
    have hcount : (c.required.filter fun name => name ∉ Entries.keys entries).count name =
        c.required.count name := List.count_filter (List.mem_filter.mp hname).2
    rw [List.count_map_of_injective _ _ Fault.said_missing_injective, hcount, hlist]
    rfl
  · obtain ⟨options, hoptions, rfl⟩ := List.mem_map.mp h
    rw [Option.mem_toList.mp hoptions]
    have hself : ((c.required.filter fun name => name ∉ Entries.keys entries).map
        fun name => (Fault.missing name).said).count
          (Fault.unlisted (.object entries) options).said = 0 := by
      refine List.count_eq_zero.mpr ?_
      simp [Fault.said, Fault.kind]
    rw [hself]
    simp [repetitions]

theorem exists_object_of_missing {name : String} (h : .missing name ∈ c.allFaults d) :
    ∃ entries, d = .object entries := by
  have hbreaks : c.Breaks d .missingProperty := breaks_of_mem_allFaults h
  cases hbreaks with
  | lacks _ _ => exact ⟨_, rfl⟩

/-- **How often a value has a fault that says the same.** -/
theorem count_said (h : f ∈ c.faults d) :
    ((c.faults d).map Fault.said).count f.said = c.repetitions f := by
  unfold faults at h ⊢
  cases hr : c.refused? d.kind with
  | some types =>
    rw [hr] at h
    cases List.mem_singleton.mp h
    simp [repetitions]
  | none =>
    rw [hr] at h
    by_cases hobject : ∃ entries, d = .object entries
    · obtain ⟨entries, rfl⟩ := hobject
      exact count_said_object h
    · have hone := List.count_eq_one_of_mem (nodup_said fun entries he => hobject ⟨entries, he⟩)
        (List.mem_map_of_mem h)
      refine hone.trans ?_
      cases f with
      | missing name => exact absurd (exists_object_of_missing h) hobject
      | _ => rfl

end Checks

/-! ## Everything that is reported at one path -/

namespace Schema

variable {s t : Schema} {d inner : Document} {step : Segment}

/-- The part about the values inside is made of what is reported one step inside, and of a rest about
other places. -/
theorem exists_frame (hs : s.NamesDistinct) (hd : d.keysDistinct = true)
    (hl : d.child? step = some inner) : ∃ before behind, Away step before ∧ Away step behind ∧
      s.reportInside d = before ++ s.reportAt step inner ++ behind := by
  have hself := Document.setChild_self hl
  have hframes : s.Frames step fun x => s.reportInside (d.setChild step x) := by
    unfold Document.child? at hl
    split at hl
    · exact frames_object (hs [] s rfl) (Document.keysDistinct_object.mp hd).1 hl
    · exact frames_array hl
    · cases hl
  obtain ⟨before, behind, hbefore, hbehind, hf⟩ := hframes
  have hinside := hf inner
  dsimp only at hinside
  rw [hself] at hinside
  exact ⟨before, behind, hbefore, hbehind, hinside⟩

theorem filter_own (faults : List Fault) :
    (faults.map (Violation.mk [])).filter (fun v => v.path = []) = faults.map (Violation.mk []) :=
  List.filter_eq_self.mpr (by simp)

theorem filter_inside_nil (hs : s.NamesDistinct) (hd : d.keysDistinct = true) :
    (s.reportInside d).filter (fun v => v.path = []) = [] := by
  refine List.filter_eq_nil_iff.mpr fun v hv => ?_
  obtain ⟨step, inner, t, -, -, u, -, rfl⟩ := (mem_reportInside hs hd).mp hv
  simp [Violation.under]

/-- What is reported at the root. -/
theorem filter_report_nil (hs : s.NamesDistinct) (hd : d.keysDistinct = true) :
    (s.report d).filter (fun v => v.path = []) = (s.checks.faults d).map (Violation.mk []) := by
  unfold Checks.faults
  cases hr : s.checks.refused? d.kind with
  | some types =>
    rw [report_of_refused hr]
    rfl
  | none =>
    have hlist : ((s.checks.unlisted? d).toList.map fun options =>
        (⟨[], .unlisted d options⟩ : Violation)) =
          ((s.checks.unlisted? d).toList.map (Fault.unlisted d)).map (Violation.mk []) := by
      rw [List.map_map]
      rfl
    rw [report_of_admitted hr, hlist, List.filter_append, List.filter_append, filter_own, filter_own,
      filter_inside_nil hs hd, List.append_nil, ← List.map_append]
    rfl

theorem filter_away {vs : List Violation} (h : Away step vs) (p : Path) :
    vs.filter (fun v => v.path = step :: p) = [] := by
  refine List.filter_eq_nil_iff.mpr fun v hv hp => h v hv ?_
  rw [of_decide_eq_true hp]
  exact List.prefix_append [step] p

/-- What is reported further inside is what is reported on the value one step inside. -/
theorem filter_report_cons (hs : s.NamesDistinct) (hd : d.keysDistinct = true)
    (hr : s.checks.refused? d.kind = none) (hl : d.child? step = some inner)
    (ht : s.child? step = some t) (p : Path) :
    (s.report d).filter (fun v => v.path = step :: p) =
      ((t.report inner).filter fun v => v.path = p).map (·.under [step]) := by
  obtain ⟨before, behind, hbefore, hbehind, hinside⟩ := exists_frame hs hd hl
  have hown : ∀ faults : List Fault,
      (faults.map (Violation.mk [])).filter (fun v => v.path = step :: p) = [] := fun faults =>
    filter_away (away_own faults) p
  have hlist : ((s.checks.unlisted? d).toList.map fun options =>
      (⟨[], .unlisted d options⟩ : Violation)).filter (fun v => v.path = step :: p) = [] := by
    cases s.checks.unlisted? d <;> simp
  have hat : (s.reportAt step inner).filter (fun v => v.path = step :: p) =
      ((t.report inner).filter fun v => v.path = p).map (·.under [step]) := by
    rw [reportAt, ht, List.filter_map]
    refine congrArg (List.map _) (List.filter_congr fun v _ => ?_)
    simp [Violation.under]
  rw [report_of_admitted hr, hinside, List.filter_append, List.filter_append, List.filter_append,
    List.filter_append, hown, hlist, hat, filter_away hbefore, filter_away hbehind,
    List.nil_append, List.nil_append, List.append_nil, List.append_nil]

/-- **What is reported at one path.**  The path of a violation leads to a value and to the schema that
governs it, and there the report holds the faults of this value and nothing else. -/
theorem filter_report {v : Violation} (hs : s.NamesDistinct) (hd : d.keysDistinct = true)
    (hv : v ∈ s.report d) :
    ∃ node t, d.at? v.path = some node ∧ s.governing? v.path = some t ∧
      (s.report d).filter (fun u => u.path = v.path) =
        (t.checks.faults node).map (Violation.mk v.path) := by
  obtain ⟨p, f⟩ := v
  induction p generalizing s d with
  | nil => exact ⟨d, s, rfl, rfl, filter_report_nil hs hd⟩
  | cons step p ih =>
    obtain ⟨ha, inner, t, hl, ht, hu⟩ := (mem_report_cons hs hd).mp hv
    obtain ⟨node, t', hnode, ht', hfilter⟩ :=
      ih (namesDistinct_child? hs ht) (Document.keysDistinct_child? hd hl) hu
    refine ⟨node, t', ?_, ?_, ?_⟩
    · exact Option.bind_eq_some_iff.mpr ⟨inner, hl, hnode⟩
    · exact Option.bind_eq_some_iff.mpr ⟨t, ht, ht'⟩
    · refine (filter_report_cons hs hd (Checks.refused?_eq_none_iff.mpr ha) hl ht _).trans ?_
      rw [hfilter, List.map_map]
      rfl

end Schema

/-! ## Counting -/

/-- Violations that are shown alike stand at one path and say the same there. -/
theorem Violation.count_shown (v : Violation) (vs : List Violation) :
    (vs.map shown).count v.shown =
      ((vs.filter fun u => u.path = v.path).map fun u => u.fault.said).count v.fault.said := by
  rw [List.count, List.count, List.countP_map, List.countP_map, List.countP_filter]
  refine List.countP_congr fun u _ => ?_
  obtain ⟨p, f⟩ := u
  obtain ⟨q, g⟩ := v
  simp [shown, Fault.said, Violation.kind, Violation.message, and_comm]

theorem Schema.count_report {s : Schema} {d : Document} {v : Violation} (hs : s.NamesDistinct)
    (hd : d.keysDistinct = true) (hv : v ∈ s.report d) :
    ∃ t, s.governing? v.path = some t ∧
      ((s.report d).map Violation.shown).count v.shown = t.checks.repetitions v.fault := by
  obtain ⟨node, t, -, ht, hfilter⟩ := filter_report hs hd hv
  have hmem : v ∈ (s.report d).filter fun u => u.path = v.path :=
    List.mem_filter.mpr ⟨hv, decide_eq_true rfl⟩
  rw [hfilter] at hmem
  obtain ⟨f, hf, hvf⟩ := List.mem_map.mp hmem
  have hfault : v.fault = f := by rw [← hvf]
  refine ⟨t, ht, ?_⟩
  rw [Violation.count_shown, hfilter, List.map_map, hfault]
  exact Checks.count_said hf

/-- **How often a violation is reported.**  A violation with a given path, kind and message is
reported as often as the schema that governs the value at the path requires the property, if one is
missing, and once otherwise.  So no two violations are the same, unless a property is missing that
the governing schema lists more than once. -/
theorem count_violations {lib : Library} {name : String} {s : Schema} {l : Loader}
    {bytes : List UInt8} {d : Document} (hlib : lib.KeysDistinct) (hs : lib.compile name = .ok s)
    (hd : l.load bytes = .ok d) :
    (∀ v ∈ s.violations d, ∃ t, s.governing? v.path = some t ∧
      ((s.violations d).map Violation.shown).count v.shown = t.checks.repetitions v.fault) ∧
    (((s.violations d).map Violation.shown).Nodup ↔
      ∀ v ∈ s.violations d, ∀ t property, s.governing? v.path = some t →
        v.fault = .missing property → t.checks.required.count property = 1) := by
  obtain ⟨root, -, hroot, hu⟩ := Library.unfolds_of_compile hlib hs
  have hnames : s.NamesDistinct := hu.namesDistinct hlib hroot
  have hdistinct := Document.keysDistinct_of_load hd
  rw [Schema.violations_report]
  have hcount := fun v hv => Schema.count_report (v := v) hnames hdistinct hv
  refine ⟨hcount, ?_⟩
  rw [List.nodup_iff_count_eq_one, List.forall_mem_map]
  refine forall₂_congr fun v hv => ?_
  obtain ⟨t, ht, hv⟩ := hcount v hv
  rw [hv]
  constructor
  · intro hone t' property ht' hfault
    cases ht.symm.trans ht'
    rwa [hfault] at hone
  · intro hrequired
    cases hfault : v.fault with
    | missing property => exact hrequired t property ht hfault
    | _ => rfl

/-- A schema for objects with two keys, and with bounds under a third that no number keeps. -/
def narrow : Library := ⟨[
  ("narrow", .object [
    ("required", .array [.string "a", .string "b"]),
    ("properties", .object [("size", .object [("minimum", .number ⟨"9"⟩),
      ("maximum", .number ⟨"5"⟩)])])])]⟩

/-- Three violations, two of them of one value.  They are different, and so the key that is missing
is required once. -/
theorem count_violations_narrow : ∃ s d, narrow.compile "narrow" = .ok s ∧
    ({} : Loader).load (Utf8.encode "\x7b\"size\":7,\"a\":null\x7d") = .ok d ∧
      (s.violations d).map Violation.shown =
        [([], .missingProperty, "missing required property \"b\""),
          ([.key "size"], .rangeViolation, "7 is less than the minimum of 9"),
          ([.key "size"], .rangeViolation, "7 is greater than the maximum of 5")] ∧
      ∀ v ∈ s.violations d, ∀ t property, s.governing? v.path = some t →
        v.fault = .missing property → t.checks.required.count property = 1 := by
  have hlib : narrow.KeysDistinct := by
    unfold Library.KeysDistinct
    decide +kernel
  obtain ⟨s, hs, hload⟩ := exists_ok_of_map (e := narrow.compile "narrow")
    (f := fun s => (({} : Loader).load (Utf8.encode "\x7b\"size\":7,\"a\":null\x7d")).toOption.map
      fun d => (s.violations d).map Violation.shown)
    (b := some [([], .missingProperty, "missing required property \"b\""),
      ([.key "size"], .rangeViolation, "7 is less than the minimum of 9"),
      ([.key "size"], .rangeViolation, "7 is greater than the maximum of 5")]) (by decide +kernel)
  obtain ⟨d, hd, hshown⟩ := exists_ok_of_map hload
  refine ⟨s, d, hs, hd, hshown, (count_violations hlib hs hd).2.mp ?_⟩
  rw [hshown]
  decide

/-- A key that is required twice is reported twice, in the same words. -/
theorem violations_repeated : ∃ lib s d,
    ({} : Library).addText "twice" "\x7b\"required\":[\"a\",\"a\"]\x7d" = .ok lib ∧
      lib.compile "twice" = .ok s ∧ ({} : Loader).load (Utf8.encode "\x7b\x7d") = .ok d ∧
        (s.violations d).map Violation.shown =
          [([], .missingProperty, "missing required property \"a\""),
            ([], .missingProperty, "missing required property \"a\"")] ∧
        ¬((s.violations d).map Violation.shown).Nodup := by
  obtain ⟨s, hs, hload⟩ := exists_ok_of_map (e := (({} : Library).addText "twice"
      "\x7b\"required\":[\"a\",\"a\"]\x7d").bind (·.compile "twice"))
    (f := fun s => (({} : Loader).load (Utf8.encode "\x7b\x7d")).toOption.map
      fun d => (s.violations d).map Violation.shown)
    (b := some [([], .missingProperty, "missing required property \"a\""),
      ([], .missingProperty, "missing required property \"a\"")]) (by decide +kernel)
  obtain ⟨lib, hlib, hs⟩ := bind_ok hs
  obtain ⟨d, hd, hshown⟩ := exists_ok_of_map hload
  refine ⟨lib, s, d, hlib, hs, hd, hshown, ?_⟩
  rw [hshown]
  decide

end ManifestCheck
