import Mathlib.Data.List.Forall2
import Mathlib.Data.List.Perm.Basic
import ManifestCheck.Proofs.Document.RenderingRoundTrip
import ManifestCheck.Proofs.Schema.Replacement

/-!
# The order of entries

Two documents may hold the same entries in another order, at any depth (`Document.Reordered`).  No
look-up sees the difference, and neither does equality with a listed value, as long as keys are
distinct.  So the same is reported on both, up to the order of the violations and up to the message
about a value that is not listed, which shows the value (`violations_reordered`).

Of all that a report is made of, only the values under undeclared keys are taken in the order of the
document.  A schema that speaks of none (`Schema.DeclaredOnly`) reports in the same order, too.
-/

namespace ManifestCheck

/-! ## Documents with their entries in another order -/

namespace Document

/-- The same document, but for the order of entries in its objects: the entries of an object are put
in another order, and inside their values the same may have been done. -/
inductive Reordered : Document → Document → Prop
  | null : Reordered null null
  | bool (b : Bool) : Reordered (bool b) (bool b)
  | number (n : Number) : Reordered (number n) (number n)
  | string (text : String) : Reordered (string text) (string text)
  | array {items items' : List Document} :
    List.Forall₂ Reordered items items' → Reordered (array items) (array items')
  | object {entries moved entries' : List (String × Document)} : entries.Perm moved →
    Entries.keys moved = Entries.keys entries' →
    List.Forall₂ (fun e e' => Reordered e.2 e'.2) moved entries' →
    Reordered (object entries) (object entries')

theorem Reordered.kind {d d' : Document} (h : d.Reordered d') : d.kind = d'.kind := by
  cases h <;> rfl

end Document

namespace Entries

variable {α β : Type}

/-- Where keys are distinct, looking one up finds the same in any order. -/
theorem lookup_perm {entries moved : List (String × α)} (h : entries.Perm moved)
    (hn : (keys entries).Nodup) (key : String) : entries.lookup key = moved.lookup key := by
  have hn' : (keys moved).Nodup := (h.map Prod.fst).nodup_iff.mp hn
  refine Option.ext fun value => ?_
  rw [lookup_eq_some_iff hn, lookup_eq_some_iff hn', h.mem_iff]

/-- Entries with the same keys in the same places, whose values are related. -/
def Matched (R : α → β → Prop) : List (String × α) → List (String × β) → Prop :=
  List.Forall₂ fun e e' => e.1 = e'.1 ∧ R e.2 e'.2

variable {R : α → β → Prop} {entries : List (String × α)} {entries' : List (String × β)}

theorem matched_of_keys (hkeys : keys entries = keys entries')
    (h : List.Forall₂ (fun e e' => R e.2 e'.2) entries entries') : Matched R entries entries' := by
  induction h with
  | nil => exact .nil
  | cons he _ ih =>
    obtain ⟨hkey, hrest⟩ := List.cons_eq_cons.mp hkeys
    exact .cons ⟨hkey, he⟩ (ih hrest)

theorem Matched.keys_eq (h : Matched R entries entries') : keys entries = keys entries' := by
  induction h with
  | nil => rfl
  | cons he _ ih => rw [keys_cons, keys_cons, he.1, ih]

/-- What is found in matched entries is related as the values are. -/
theorem Matched.lookup (h : Matched R entries entries') (key : String) :
    Option.Rel R (entries.lookup key) (entries'.lookup key) := by
  induction h with
  | nil => exact .none
  | @cons e e' _ _ he _ ih =>
    obtain ⟨k, v⟩ := e
    obtain ⟨k', v'⟩ := e'
    obtain ⟨rfl, hv⟩ := he
    rw [lookup_cons, lookup_cons]
    split
    · exact .some hv
    · exact ih

end Entries

namespace Document

section Objects

variable {entries moved entries' : List (String × Document)} (hp : entries.Perm moved)
  (hm : Entries.Matched Reordered moved entries')

include hp hm

/-- An object has the same keys in another order. -/
theorem mem_keys_reordered (key : String) :
    key ∈ Entries.keys entries ↔ key ∈ Entries.keys entries' := by
  rw [← hm.keys_eq]
  exact (hp.map Prod.fst).mem_iff

/-- What is found under a key is reordered itself. -/
theorem lookup_reordered (hn : (Entries.keys entries).Nodup) (key : String) :
    Option.Rel Reordered (entries.lookup key) (entries'.lookup key) := by
  rw [Entries.lookup_perm hp hn]
  exact hm.lookup key

end Objects

/-- **Equality with a document does not go by the order of entries.** -/
theorem equal_reordered (o : Document) {d d' : Document} (hd : d.keysDistinct = true)
    (h : d.Reordered d') : o.equal d = o.equal d' := by
  induction o using Document.inductionOn generalizing d d' with
  | null | bool _ | number _ | string _ =>
    cases h <;> rfl
  | array items ih =>
    cases h with
    | @array elements elements' hall =>
      have hdistinct := keysDistinct_array.mp hd
      clear hd
      rw [equal, equal]
      induction hall generalizing items with
      | nil => rfl
      | @cons e e' _ _ he _ ihall =>
        cases items with
        | nil => rfl
        | cons o items =>
          obtain ⟨hed, hrest⟩ := List.forall_mem_cons.mp hdistinct
          obtain ⟨iho, ihitems⟩ := List.forall_mem_cons.mp ih
          rw [equalItems, equalItems, iho hed he, ihall items ihitems hrest]
    | _ => rfl
  | object members ih =>
    cases h with
    | @object entries moved entries' hp hkeys hall =>
      have hm := Entries.matched_of_keys hkeys hall
      obtain ⟨hn, hdistinct⟩ := keysDistinct_object.mp hd
      have hlength : entries.length = entries'.length := hp.length_eq.trans hall.length_eq
      rw [equal, equal, hlength]
      congr 1
      induction members with
      | nil => rfl
      | cons m rest ihrest =>
        obtain ⟨key, o⟩ := m
        obtain ⟨iho, ihmembers⟩ := List.forall_mem_cons.mp ih
        rw [coveredBy, coveredBy, ihrest ihmembers]
        congr 1
        have hfound := lookup_reordered hp hm hn key
        have hfounds : ∀ x, entries.lookup key = some x → x.keysDistinct = true :=
          fun x hx => hdistinct _ (Entries.mem_of_lookup hx)
        generalize entries.lookup key = found at hfound hfounds ⊢
        generalize entries'.lookup key = found' at hfound ⊢
        cases hfound with
        | none => rfl
        | some hx => exact iho (hfounds _ rfl) hx
    | _ => rfl

end Document

/-! ## Reports that differ in their order -/

/-- What a violation says, but for the message about a value that is not listed: that one shows the
value. -/
def Violation.gist (v : Violation) : Path × FaultKind × Option String :=
  (v.path, v.kind, if v.kind = .enumMismatch then none else some v.message)

/-- Two reports say the same, in the same order where this is asked for. -/
structure SameReport (ordered : Prop) (vs us : List Violation) : Prop where
  perm : (vs.map Violation.gist).Perm (us.map Violation.gist)
  eq : ordered → vs.map Violation.gist = us.map Violation.gist

namespace SameReport

variable {ordered : Prop} {vs us vs' us' : List Violation}

theorem of_eq (h : vs.map Violation.gist = us.map Violation.gist) : SameReport ordered vs us :=
  ⟨.of_eq h, fun _ => h⟩

theorem refl (vs : List Violation) : SameReport ordered vs vs := of_eq rfl

theorem imp {stricter : Prop} (h : SameReport ordered vs us) (hs : stricter → ordered) :
    SameReport stricter vs us := ⟨h.perm, fun hx => h.eq (hs hx)⟩

/-- Without an order asked for, the first of two steps may be any permutation. -/
theorem of_perm (hp : vs.Perm vs') (h : SameReport ordered vs' us) (hn : ¬ordered) :
    SameReport ordered vs us := ⟨(hp.map _).trans h.perm, fun hx => absurd hx hn⟩

theorem append (h : SameReport ordered vs us) (h' : SameReport ordered vs' us') :
    SameReport ordered (vs ++ vs') (us ++ us') := by
  refine ⟨?_, fun hx => ?_⟩
  · rw [List.map_append, List.map_append]
    exact h.perm.append h'.perm
  · rw [List.map_append, List.map_append, h.eq hx, h'.eq hx]

theorem under (p : Path) (h : SameReport ordered vs us) :
    SameReport ordered (vs.map (·.under p)) (us.map (·.under p)) := by
  have hmap : ∀ ws : List Violation, (ws.map (·.under p)).map Violation.gist =
      (ws.map Violation.gist).map fun g => (p ++ g.1, g.2) := fun ws => by
    rw [List.map_map, List.map_map]
    rfl
  refine ⟨?_, fun hx => ?_⟩
  · rw [hmap, hmap]
    exact h.perm.map _
  · rw [hmap, hmap, h.eq hx]

theorem flatMap {α β : Type} {R : α → β → Prop} {xs : List α} {ys : List β}
    {f : α → List Violation} {g : β → List Violation} (h : List.Forall₂ R xs ys)
    (hfg : ∀ x y, R x y → SameReport ordered (f x) (g y)) :
    SameReport ordered (xs.flatMap f) (ys.flatMap g) := by
  induction h with
  | nil => exact refl []
  | cons hxy _ ih =>
    rw [List.flatMap_cons, List.flatMap_cons]
    exact (hfg _ _ hxy).append ih

end SameReport

/-- Places in a list stay the same. -/
theorem forall₂_zipIdx {α β : Type} {R : α → β → Prop} {xs : List α} {ys : List β}
    (h : List.Forall₂ R xs ys) (start : Nat) :
    List.Forall₂ (fun x y => R x.1 y.1 ∧ x.2 = y.2) (xs.zipIdx start) (ys.zipIdx start) := by
  induction h generalizing start with
  | nil => exact .nil
  | cons hxy _ ih =>
    rw [List.zipIdx_cons, List.zipIdx_cons]
    exact .cons ⟨hxy, rfl⟩ (ih (start + 1))

/-! ## The report of a reordered document -/

namespace Checks

variable {c : Checks} {d d' : Document}

theorem selfReport_reordered (h : d.Reordered d') : c.selfReport d = c.selfReport d' := by
  cases h with
  | null | bool _ | number _ | string _ => rfl
  | array hall => rw [selfReport, selfReport, hall.length_eq]
  | object hp hkeys hall =>
    rw [selfReport, selfReport]
    simp only [Document.mem_keys_reordered hp (Entries.matched_of_keys hkeys hall)]

/-- Both documents are listed or neither is. -/
theorem unlisted?_reordered (hd : d.keysDistinct = true) (h : d.Reordered d') :
    c.unlisted? d = c.unlisted? d' := by
  unfold unlisted?
  simp only [fun o : Document => o.equal_reordered hd h]

end Checks

namespace Schema

/-- A schema that speaks of no values but those under declared keys and in lists, nowhere inside. -/
inductive DeclaredOnly : Schema → Prop
  | node {c : Checks} {properties : List (String × Schema)} {items : Option Schema} :
    (∀ p ∈ properties, DeclaredOnly p.2) → (∀ t ∈ items, DeclaredOnly t) →
    DeclaredOnly (.node c properties none items)

/-- A schema says the same of a document and of a reordered one, under the order that is asked
for. -/
def Indifferent (ordered : Prop) (s : Schema) : Prop :=
  ∀ d d', d.keysDistinct = true → d.Reordered d' → SameReport ordered (s.report d) (s.report d')

section Inside

variable {ordered : Prop} {entries moved entries' : List (String × Document)}
  (hn : (Entries.keys entries).Nodup) (hd : ∀ e ∈ entries, e.2.keysDistinct = true)
  (hp : entries.Perm moved) (hm : Entries.Matched Document.Reordered moved entries')

include hn hd hp hm

theorem reportDeclared_reordered {properties : List (String × Schema)}
    (h : ∀ p ∈ properties, p.2.Indifferent ordered) :
    SameReport ordered (reportDeclared properties entries)
      (reportDeclared properties entries') := by
  induction properties with
  | nil => exact .refl []
  | cons p rest ih =>
    obtain ⟨name, s⟩ := p
    obtain ⟨hs, hrest⟩ := List.forall_mem_cons.mp h
    rw [reportDeclared, reportDeclared]
    refine SameReport.append ?_ (ih hrest)
    have hfound := Document.lookup_reordered hp hm hn name
    have hfounds : ∀ x, entries.lookup name = some x → x.keysDistinct = true :=
      fun x hx => hd _ (Entries.mem_of_lookup hx)
    generalize entries.lookup name = found at hfound hfounds ⊢
    generalize entries'.lookup name = found' at hfound ⊢
    cases hfound with
    | none => exact .refl []
    | some hx => exact (hs _ _ (hfounds _ rfl) hx).under _

omit hn in
/-- Values under undeclared keys come in the order of the document, and so do their reports. -/
theorem reportOthers_reordered {s : Schema} (h : ∀ extra ∈ s.additional, extra.Indifferent ordered)
    (hordered : s.additional ≠ none → ¬ordered) :
    SameReport ordered (s.reportOthers entries) (s.reportOthers entries') := by
  unfold reportOthers
  cases hextra : s.additional with
  | none => exact .refl []
  | some extra =>
    have hperm := (hp.filter fun e => (s.property? e.1).isNone).flatMap_right fun e =>
      (extra.report e.2).map (·.under [.key e.1])
    refine .of_perm hperm (.flatMap (R := fun e e' => e.2.keysDistinct = true ∧ e.1 = e'.1 ∧
      e.2.Reordered e'.2) (List.rel_filter ?_ ?_) ?_) (hordered (by simp [hextra]))
    · intro e e' he
      show (s.property? e.1).isNone = true ↔ (s.property? e'.1).isNone = true
      rw [he.2.1]
    · exact (List.forall₂_and_left _ _).mpr ⟨fun e he => hd e (hp.mem_iff.mpr he), hm⟩
    · intro e e' he
      rw [he.2.1]
      exact (h extra hextra _ _ he.1 he.2.2).under _

end Inside

/-- The part about the values inside, where those are reported on alike. -/
theorem reportInside_reordered {ordered : Prop} {s : Schema} {d d' : Document}
    (hd : d.keysDistinct = true) (h : d.Reordered d')
    (hps : ∀ p ∈ s.properties, p.2.Indifferent ordered)
    (ha : ∀ extra ∈ s.additional, extra.Indifferent ordered)
    (hi : ∀ each ∈ s.items, each.Indifferent ordered)
    (hordered : s.additional ≠ none → ¬ordered) :
    SameReport ordered (s.reportInside d) (s.reportInside d') := by
  cases h with
  | null | bool _ | number _ | string _ => exact .refl []
  | array hall =>
    unfold reportInside
    cases hitems : s.items with
    | none => exact .refl []
    | some each =>
      have hboth := (List.forall₂_and_left _ _).mpr ⟨Document.keysDistinct_array.mp hd, hall⟩
      refine .flatMap (forall₂_zipIdx hboth 0) fun x y hxy => ?_
      obtain ⟨⟨hx, hr⟩, hplace⟩ := hxy
      rw [hplace]
      exact (hi each hitems _ _ hx hr).under _
  | object hp hkeys hall =>
    have hm := Entries.matched_of_keys hkeys hall
    obtain ⟨hn, hdistinct⟩ := Document.keysDistinct_object.mp hd
    exact (reportDeclared_reordered hn hdistinct hp hm hps).append
      (reportOthers_reordered hdistinct hp hm ha hordered)

/-- **What is reported does not go by the order of entries**, and neither does the order in which it
is reported, unless the schema speaks of values under undeclared keys. -/
theorem report_reordered (s : Schema) : s.Indifferent s.DeclaredOnly := by
  induction s using inductionOn with
  | node c properties additional items hps ha hi =>
    intro d d' hd h
    cases hkind : c.refused? d.kind with
    | some types =>
      have hkind' : c.refused? d'.kind = some types := h.kind ▸ hkind
      rw [report_of_refused (s := .node c properties additional items) hkind,
        report_of_refused (s := .node c properties additional items) hkind', h.kind]
      exact .refl _
    | none =>
      have hkind' : c.refused? d'.kind = none := h.kind ▸ hkind
      have hinside : SameReport (node c properties additional items).DeclaredOnly
          ((node c properties additional items).reportInside d)
          ((node c properties additional items).reportInside d') := reportInside_reordered hd h
        (fun p hp d d' hd h => (hps p hp d d' hd h).imp fun hs => by
          cases hs with
          | node hps _ => exact hps p hp)
        (fun t ht d d' hd h => (ha t ht d d' hd h).imp fun hs => by
          cases hs
          cases ht)
        (fun t ht d d' hd h => (hi t ht d d' hd h).imp fun hs => by
          cases hs with
          | node _ hi => exact hi t ht)
        (fun hne hs => by
          cases hs
          exact hne rfl)
      rw [report_of_admitted (s := .node c properties additional items) hkind,
        report_of_admitted (s := .node c properties additional items) hkind']
      refine ((SameReport.of_eq ?_).append hinside).append (.of_eq ?_)
      · rw [Checks.selfReport_reordered h]
      · rw [Checks.unlisted?_reordered hd h, List.map_map, List.map_map]
        rfl

end Schema

/-- **Validation does not go by the order of entries.**  A document that was loaded and one that
holds the same entries in another order, at any depth, are both accepted or neither is.  The same
kinds of fault are reported at the same paths, as many times, and with the same messages, except for
those that show the value; if the schema speaks of no values under undeclared keys they come in the
same order. -/
theorem violations_reordered {l : Loader} {bytes : List UInt8} {d d' : Document}
    (hd : l.load bytes = .ok d) (h : d.Reordered d') (s : Schema) :
    s.accepts d = s.accepts d' ∧
      ((s.violations d).map Violation.gist).Perm ((s.violations d').map Violation.gist) ∧
      (s.DeclaredOnly →
        (s.violations d).map Violation.gist = (s.violations d').map Violation.gist) := by
  have hsame := s.report_reordered d d' (Document.keysDistinct_of_load hd) h
  rw [Schema.accepts, Schema.accepts, Schema.violations_report, Schema.violations_report]
  refine ⟨?_, hsame.perm, hsame.eq⟩
  have hlength := hsame.perm.length_eq
  rw [List.length_map, List.length_map] at hlength
  rw [Bool.eq_iff_iff, List.isEmpty_iff_length_eq_zero, List.isEmpty_iff_length_eq_zero, hlength]

/-- A schema for objects whose values are texts, whatever their keys. -/
def labels : Schema :=
  .node {} [] (some (.node { types := some (.ofList [.string]) } [] none none)) none

/-- Two values that are no texts are reported in the order of the entries.  This is the one thing
that a swap of the entries changes. -/
theorem violations_reordered_labels : ∃ d d',
    ({} : Loader).load (Utf8.encode "\x7b\"x\":null,\"y\":true\x7d") = .ok d ∧
      ({} : Loader).load (Utf8.encode "\x7b\"y\":true,\"x\":null\x7d") = .ok d' ∧
        d.Reordered d' ∧ labels.accepts d = labels.accepts d' ∧
          ((labels.violations d).map Violation.gist).Perm
            ((labels.violations d').map Violation.gist) ∧
          (labels.violations d).map Violation.path = [[.key "x"], [.key "y"]] ∧
            (labels.violations d').map Violation.path = [[.key "y"], [.key "x"]] := by
  have hf : (Document.object [("x", .null), ("y", .bool true)]).Faithful :=
    .object (by decide) (by decide) (by simpa using ⟨.null, .bool true⟩)
  have hf' : (Document.object [("y", .bool true), ("x", .null)]).Faithful :=
    .object (by decide) (by decide) (by simpa using ⟨.bool true, .null⟩)
  have hd : ({} : Loader).load (Utf8.encode "\x7b\"x\":null,\"y\":true\x7d") = .ok _ :=
    hf.load_eq_ok (Document.writtenAs_render hf.numbersLiteral) (by decide) (by decide)
  have hd' : ({} : Loader).load (Utf8.encode "\x7b\"y\":true,\"x\":null\x7d") = .ok _ :=
    hf'.load_eq_ok (Document.writtenAs_render hf'.numbersLiteral) (by decide) (by decide)
  have hswap : (Document.object [("x", .null), ("y", .bool true)]).Reordered
      (.object [("y", .bool true), ("x", .null)]) :=
    .object (.swap _ _ _) rfl (.cons (.bool true) (.cons .null .nil))
  obtain ⟨haccepts, hperm, -⟩ := violations_reordered hd hswap labels
  exact ⟨_, _, hd, hd', hswap, haccepts, hperm, rfl, rfl⟩

end ManifestCheck
