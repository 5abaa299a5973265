import ManifestCheck.Proofs.Document.DistinctKeys
import ManifestCheck.Schema.Validation

/-!
# Reports as a function of document and schema

`Schema.violations` walks over a document with one path that is extended and cut back and with one
list that only grows.  `Schema.report` says the same without either: a value's own faults stand at
the root, and the report of a value inside is put under the step that leads there.

`visit_eq_record` ties the two together from any state of the walk, by induction on the schema: a
visit records exactly the report, put under the present path, and leaves the path as it was.
Patterns and the equality of documents are taken as they are; everything else that a check compares
is written out again.
-/

namespace ManifestCheck

/-! ## Faults of one value -/

namespace Checks

/-- The kinds that were asked for, if a kind is not among them. -/
def refused? (c : Checks) (k : Kind) : Option TypeSet := c.types.filter fun types => !types.accepts k

theorem typeFault?_eq (c : Checks) (d : Document) :
    c.typeFault? d = (c.refused? d.kind).map fun types => .wrongType types d.kind := by
  unfold typeFault? refused?
  cases c.types with
  | none => rfl
  | some types => cases h : types.accepts d.kind <;> simp [Option.filter, h]

/-- The bounds that a size keeps to neither side, the least one first. -/
def sizeReport (unit : CountUnit) (size : Nat) (least most : Option Nat) : List Fault :=
  (least.filter (size < ·)).toList.map (Fault.tooFew unit size) ++
    (most.filter (· < size)).toList.map (Fault.tooMany unit size)

theorem countFaults_eq_sizeReport (unit : CountUnit) (size : Nat) (least most : Option Nat) :
    countFaults unit size least most = sizeReport unit size least most := by
  unfold countFaults sizeReport
  congr 1
  · cases least with
    | none => rfl
    | some n => by_cases h : size < n <;> simp [Option.filter, h]
  · cases most with
    | none => rfl
    | some n => by_cases h : n < size <;> simp [Option.filter, h]

/-- What is wrong with a value of an admitted kind by itself, up to the list of permitted values:
properties an object lacks, a length out of bounds and then a pattern that a string misses, and the
two bounds of a number. -/
def selfReport (c : Checks) : Document → List Fault
  | .object entries => (c.required.filter fun name => name ∉ Entries.keys entries).map Fault.missing
  | .array elements => sizeReport .item elements.length c.minItems c.maxItems
  | .string value =>
    sizeReport .character value.length c.minLength c.maxLength ++
      (c.pattern.filter fun p => !p.isMatch value).toList.map fun p => .unmatched value p.source
  | .number value =>
    (c.minimum.filter fun m => value.compare? m ∉ [some .gt, some .eq]).toList.map
        (Fault.tooSmall value) ++
      (c.maximum.filter fun m => value.compare? m ∉ [some .lt, some .eq]).toList.map
        (Fault.tooLarge value)
  | .null | .bool _ => []

theorem ownFaults_eq_selfReport (c : Checks) (d : Document) : c.ownFaults d = c.selfReport d := by
  cases d with
  | null => rfl
  | bool b => rfl
  | object entries =>
    show c.missingFaults entries = _
    simp only [missingFaults, selfReport, Entries.contains_eq_decide_mem_keys, decide_not]
  | array elements => exact countFaults_eq_sizeReport _ _ _ _
  | string value =>
    show c.stringFaults value = _
    rw [stringFaults, selfReport, countFaults_eq_sizeReport]
    congr 1
    cases c.pattern with
    | none => rfl
    | some p => cases h : p.isMatch value <;> simp [Option.filter, h]
  | number value =>
    show c.numberFaults value = _
    rw [numberFaults, selfReport]
    congr 1
    · cases c.minimum with
      | none => rfl
      | some m => by_cases h : value.atLeast m <;> simp_all [Option.filter, Number.atLeast]
    · cases c.maximum with
      | none => rfl
      | some m => by_cases h : value.atMost m <;> simp_all [Option.filter, Number.atMost]

/-- The permitted values, if a value equals none of them. -/
def unlisted? (c : Checks) (d : Document) : Option (List Document) :=
  c.enumeration.filter fun options => options.all fun o => !o.equal d

theorem listFaults_eq (c : Checks) (d : Document) :
    c.listFaults d = (c.unlisted? d).toList.map (Fault.unlisted d) := by
  unfold listFaults unlisted?
  cases c.enumeration with
  | none => rfl
  | some options =>
    have h : (options.all fun o => !o.equal d) = !options.any fun o => o.equal d := by
      rw [List.not_any_eq_all_not]
    by_cases ho : options.any fun o => o.equal d
    · simp [Option.filter, h, ho]
    · simp [Option.filter, h, ho]

end Checks

/-! ## The report of a document -/

/-- The same violation seen from further out, where a path leads to the value it was seen from. -/
def Violation.under (p : Path) (v : Violation) : Violation := ⟨p ++ v.path, v.fault⟩

theorem Violation.map_under_nil (vs : List Violation) : vs.map (·.under []) = vs := by
  simp [Violation.under]

namespace Schema

mutual

/-- The violations of a document.  A refused kind is the only fault of its value.  Otherwise the
value's own faults come first, then the reports of the values inside: under declared keys in the
order of declaration, under other keys in the order of the document, in a list by index.  A value
missing from the list of permitted ones comes last. -/
def report : Schema → Document → List Violation
  | node c properties additional items, d =>
    match c.refused? d.kind with
    | some types => [⟨[], .wrongType types d.kind⟩]
    | none =>
      (c.selfReport d).map (Violation.mk []) ++
        (match d with
          | .object entries =>
            reportDeclared properties entries ++
              (match additional with
                | none => []
                | some extra =>
                  (entries.filter fun e => (properties.lookup e.1).isNone).flatMap fun e =>
                    (extra.report e.2).map (·.under [.key e.1]))
          | .array elements =>
            match items with
            | none => []
            | some each =>
              elements.zipIdx.flatMap fun e => (each.report e.1).map (·.under [.index e.2])
          | _ => []) ++
        (c.unlisted? d).toList.map fun options => ⟨[], .unlisted d options⟩

/-- The violations of the values under declared keys. -/
def reportDeclared : List (String × Schema) → List (String × Document) → List Violation
  | [], _ => []
  | (name, s) :: rest, entries =>
    (match entries.lookup name with
      | none => []
      | some d => (s.report d).map (·.under [.key name])) ++ reportDeclared rest entries

end

/-- Induction on a schema: a property of schemas holds of one whenever it holds of all schemas for
the values inside. -/
theorem inductionOn {motive : Schema → Prop} (s : Schema)
    (node : ∀ c properties additional items, (∀ p ∈ properties, motive p.2) →
      (∀ t ∈ additional, motive t) → (∀ t ∈ items, motive t) →
      motive (.node c properties additional items)) : motive s :=
  @Schema.rec motive (fun ps => ∀ p ∈ ps, motive p.2) (fun o => ∀ t ∈ o, motive t)
    (fun p => motive p.2) (fun c ps a is hps ha his => node c ps a is hps ha his)
    (fun _ h => absurd h List.not_mem_nil)
    (fun _ _ head tail p hp => by
      rcases List.mem_cons.mp hp with rfl | hp
      · exact head
      · exact tail p hp)
    (fun _ h => absurd h (Option.not_mem_none _))
    (fun t ht u hu => by cases hu; exact ht)
    (fun _ _ h => h) s

/-- The schemas one step inside. -/
def parts (s : Schema) : List Schema :=
  s.properties.map Prod.snd ++ s.additional.toList ++ s.items.toList

theorem mem_parts {s t : Schema} :
    t ∈ s.parts ↔ (∃ q ∈ s.properties, q.2 = t) ∨ s.additional = some t ∨ s.items = some t := by
  simp only [parts, List.mem_append, List.mem_map, Option.mem_toList, or_assoc]

/-- Induction on a schema by its parts. -/
theorem partsInduction {motive : Schema → Prop} (s : Schema)
    (h : ∀ s, (∀ t ∈ s.parts, motive t) → motive s) : motive s := by
  induction s using inductionOn with
  | node c properties additional items hp ha hi =>
    refine h _ fun t ht => ?_
    rcases mem_parts.mp ht with ⟨q, hq, rfl⟩ | hadditional | hitems
    · exact hp q hq
    · exact ha t hadditional
    · exact hi t hitems

end Schema

/-! ## What a walk records -/

namespace Walk

/-- The walk with some violations found below the present value, in their order. -/
def record (w : Walk) (vs : List Violation) : Walk :=
  { w with found := (vs.map (·.under w.steps.reverse)).reverse ++ w.found }

theorem record_steps (w : Walk) (vs : List Violation) : (w.record vs).steps = w.steps := rfl

theorem record_found_reverse (w : Walk) (vs : List Violation) :
    (w.record vs).found.reverse = w.found.reverse ++ vs.map (·.under w.steps.reverse) := by
  simp [record]

theorem record_nil (w : Walk) : w.record [] = w := rfl

theorem record_record (w : Walk) (vs us : List Violation) :
    (w.record vs).record us = w.record (vs ++ us) := by
  simp [record]

theorem report_eq_record (w : Walk) (fault : Fault) : w.report fault = w.record [⟨[], fault⟩] := by
  simp [report, record, Violation.under]

theorem reportAll_eq_record (w : Walk) (faults : List Fault) :
    w.reportAll faults = w.record (faults.map (Violation.mk [])) := by
  unfold reportAll
  induction faults generalizing w with
  | nil => rfl
  | cons fault rest ih =>
    rw [List.foldl_cons, ih, report_eq_record, record_record]
    rfl

/-- What is recorded between stepping in and stepping out is recorded under that step. -/
theorem enter_record_leave (w : Walk) (step : Segment) (vs : List Violation) :
    ((w.enter step).record vs).leave = w.record (vs.map (·.under [step])) := by
  simp [enter, leave, record, Violation.under, List.append_assoc]

/-- A loop that records for each element records everything in the order of the elements. -/
theorem foldl_record {α : Type} (step : Walk → α → Walk) (found : α → List Violation)
    (xs : List α) (h : ∀ w, ∀ x ∈ xs, step w x = w.record (found x)) (w : Walk) :
    xs.foldl step w = w.record (xs.flatMap found) := by
  induction xs generalizing w with
  | nil => rfl
  | cons x rest ih =>
    rw [List.foldl_cons, h w x List.mem_cons_self,
      ih (fun w y hy => h w y (List.mem_cons_of_mem x hy)), record_record, List.flatMap_cons]

end Walk

namespace Schema

theorem visitProperties_eq_record (properties : List (String × Schema))
    (entries : List (String × Document))
    (h : ∀ p ∈ properties, ∀ d w, p.2.visit d w = w.record (p.2.report d)) (w : Walk) :
    visitProperties properties entries w = w.record (reportDeclared properties entries) := by
  induction properties generalizing w with
  | nil => rw [visitProperties, reportDeclared, Walk.record_nil]
  | cons p rest ih =>
    obtain ⟨name, s⟩ := p
    rw [visitProperties, reportDeclared, ih (fun q hq => h q (List.mem_cons_of_mem _ hq)),
      ← Walk.record_record]
    congr 1
    cases entries.lookup name with
    | none => rfl
    | some d =>
      show (s.visit d (w.enter (.key name))).leave = _
      rw [h (name, s) List.mem_cons_self, Walk.enter_record_leave]

/-- **A visit records the report.**  From any path and behind any violations found before, visiting
a value records its report under that path and comes back to it. -/
theorem visit_eq_record (s : Schema) (d : Document) (w : Walk) :
    s.visit d w = w.record (s.report d) := by
  induction s using inductionOn generalizing d w with
  | node c properties additional items hp ha hi =>
    rw [visit.eq_def, report.eq_def]
    simp only [Checks.typeFault?_eq]
    cases c.refused? d.kind with
    | some types => exact Walk.report_eq_record w _
    | none =>
      simp only [Option.map_none, Walk.reportAll_eq_record, Checks.ownFaults_eq_selfReport,
        Checks.listFaults_eq, ← Walk.record_record, List.map_map, Function.comp_def]
      congr 1
      generalize w.record ((c.selfReport d).map (Violation.mk [])) = w
      cases d with
      | null | bool b | number n | string s => rfl
      | array elements =>
        cases items with
        | none => rfl
        | some each =>
          refine Walk.foldl_record _ _ _ (fun w e _ => ?_) w
          rw [hi each rfl, Walk.enter_record_leave]
      | object entries =>
        have declared := visitProperties_eq_record properties entries hp w
        cases additional with
        | none =>
          simp only [List.append_nil]
          exact declared
        | some extra =>
          simp only [declared, ← Walk.record_record]
          refine Walk.foldl_record _ _ _ (fun w e _ => ?_) _
          rw [ha extra rfl, Walk.enter_record_leave]

theorem violations_report (s : Schema) (d : Document) : s.violations d = s.report d := by
  rw [violations, visit_eq_record, Walk.record_found_reverse]
  exact Violation.map_under_nil _

/-- **Reports come out of the walk unchanged.**  The violations of a document are exactly its
report, each with its path, fault and place in the order.  From any other path, with any
violations found before, a visit appends the report with that path in front of each of its paths,
and is back at the same path when it ends. -/
theorem violations_eq_report (s : Schema) (d : Document) :
    s.violations d = s.report d ∧
      ∀ w : Walk, (s.visit d w).steps = w.steps ∧
        (s.visit d w).found.reverse =
          w.found.reverse ++ (s.report d).map (·.under w.steps.reverse) := by
  refine ⟨violations_report s d, fun w => ?_⟩
  rw [visit_eq_record]
  exact ⟨Walk.record_steps w _, Walk.record_found_reverse w _⟩

end Schema

end ManifestCheck
