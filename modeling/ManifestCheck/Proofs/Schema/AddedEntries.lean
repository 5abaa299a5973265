import Mathlib.Data.List.Forall2
import ManifestCheck.Proofs.Schema.EntryOrder
import ManifestCheck.Proofs.Schema.IgnoredKeys

/-!
# Documents with further entries

A document grows if its objects get further entries, anywhere inside and in any order
(`Document.Grown`).  Whatever a pointer finds in it is still found, and has grown itself
(`Grown.follow?`).  Putting the entries in another order is the case in which none is added
(`Reordered.grown`), and adding one entry to one object is another (`grown_replaceAt`).

In the second case it matters where other values stand.  A pointer goes along a path, which does not
change while the document grows (`Grown.route?`), and the value at the end of a path is the old one
unless the object with the new entry is inside it (`at?_replaceAt_cases`).
-/

namespace ManifestCheck

namespace Document

/-- The second document is the first with further entries in its objects, at any depth and in any
order. -/
inductive Grown : Document → Document → Prop
  | null : Grown null null
  | bool (b : Bool) : Grown (bool b) (bool b)
  | number (n : Number) : Grown (number n) (number n)
  | string (text : String) : Grown (string text) (string text)
  | array {items items' : List Document} :
    List.Forall₂ Grown items items' → Grown (array items) (array items')
  | object {entries old entries' : List (String × Document)} :
    Entries.keys entries = Entries.keys old →
    List.Forall₂ (fun e e' => Grown e.2 e'.2) entries old → old ⊆ entries' →
    Grown (object entries) (object entries')

namespace Grown

variable {d d' inner : Document}

theorem refl (d : Document) : d.Grown d := by
  induction d using Document.inductionOn with
  | null => exact .null
  | bool b => exact .bool b
  | number n => exact .number n
  | string text => exact .string text
  | array items ih => exact .array (List.forall₂_same.mpr ih)
  | object entries ih => exact .object rfl (List.forall₂_same.mpr ih) fun _ he => he

/-- A grown object has every entry that it had, grown. -/
theorem lookup {entries entries' : List (String × Document)} {key : String}
    (hn : (Entries.keys entries').Nodup) (h : Grown (.object entries) (.object entries'))
    (hl : entries.lookup key = some inner) :
    ∃ inner', entries'.lookup key = some inner' ∧ inner.Grown inner' := by
  cases h with
  | @object _ old _ hkeys hall hsub =>
    have hfound := (Entries.matched_of_keys hkeys hall).lookup key
    rw [hl] at hfound
    generalize hold : old.lookup key = found at hfound
    cases hfound with
    | some hgrown =>
      exact ⟨_, (Entries.lookup_eq_some_iff hn).mpr (hsub (Entries.mem_of_lookup hold)), hgrown⟩

theorem child? (hd' : d'.keysDistinct = true) (h : d.Grown d') {step : Segment}
    (hc : d.child? step = some inner) :
    ∃ inner', d'.child? step = some inner' ∧ inner.Grown inner' := by
  unfold Document.child? at hc
  split at hc
  · cases h with
    | object hkeys hall hsub =>
      exact lookup (keysDistinct_object.mp hd').1 (.object hkeys hall hsub) hc
  · cases h with
    | array hall => exact exists_getElem?_of_forall₂ hall hc
  · cases hc

end Grown

/-! ## Pointers and paths -/

/-- The step inside that a step of a pointer means. -/
def segment? (step : List Char) : Document → Option Segment
  | object _ => some (.key (String.ofList step))
  | array _ => (Pointer.index? step).map Segment.index
  | _ => none

theorem step?_eq (step : List Char) (d : Document) :
    d.step? step = (d.segment? step).bind fun segment => d.child? segment := by
  cases d with
  | array items =>
    rw [step?, segment?]
    cases Pointer.index? step <;> rfl
  | _ => rfl

/-- The path along which the steps of a pointer lead. -/
def route? : List (List Char) → Document → Option Path
  | [], _ => some []
  | step :: rest, d => (d.segment? step).bind fun segment =>
    (d.child? segment).bind fun inner => (route? rest inner).map (segment :: ·)

theorem route?_cons_eq_some {step : List Char} {rest : List (List Char)} {d : Document} {p : Path}
    (h : d.route? (step :: rest) = some p) : ∃ segment inner q, d.segment? step = some segment ∧
      d.child? segment = some inner ∧ inner.route? rest = some q ∧ p = segment :: q := by
  obtain ⟨segment, hsegment, h⟩ := Option.bind_eq_some_iff.mp h
  obtain ⟨inner, hinner, h⟩ := Option.bind_eq_some_iff.mp h
  obtain ⟨q, hq, rfl⟩ := Option.map_eq_some_iff.mp h
  exact ⟨segment, inner, q, hsegment, hinner, hq, rfl⟩

theorem follow?_of_route? {steps : List (List Char)} {d : Document} {p : Path}
    (h : d.route? steps = some p) : d.follow? steps = d.at? p := by
  induction steps generalizing d p with
  | nil =>
    cases h
    rfl
  | cons step rest ih =>
    obtain ⟨segment, inner, q, hsegment, hinner, hq, rfl⟩ := route?_cons_eq_some h
    rw [follow?, at?, step?_eq, hsegment, Option.bind_some, hinner, Option.bind_some,
      Option.bind_some, ih hq]

theorem exists_route? {steps : List (List Char)} {d inner : Document}
    (h : d.follow? steps = some inner) : ∃ p, d.route? steps = some p ∧ d.at? p = some inner := by
  induction steps generalizing d with
  | nil => exact ⟨[], rfl, h⟩
  | cons step rest ih =>
    obtain ⟨next, hnext, h⟩ := Option.bind_eq_some_iff.mp h
    rw [step?_eq] at hnext
    obtain ⟨segment, hsegment, hchild⟩ := Option.bind_eq_some_iff.mp hnext
    obtain ⟨p, hp, hat⟩ := ih h
    refine ⟨segment :: p, ?_, ?_⟩
    · rw [route?, hsegment, Option.bind_some, hchild, Option.bind_some, hp]
      rfl
    · rw [at?, hchild]
      exact hat

/-- What a pointer finds is related if one step keeps the relation. -/
theorem follow?_related {R : Document → Document → Prop}
    (hsegment : ∀ d d', R d d' → ∀ step, d.segment? step = d'.segment? step)
    (hchild : ∀ d d' segment inner, R d d' → d.child? segment = some inner →
      ∃ inner', d'.child? segment = some inner' ∧ R inner inner')
    {d d' inner : Document} (h : R d d') {steps : List (List Char)}
    (hf : d.follow? steps = some inner) : ∃ inner', d'.follow? steps = some inner' ∧ R inner inner' := by
  induction steps generalizing d d' with
  | nil =>
    cases hf
    exact ⟨d', rfl, h⟩
  | cons step rest ih =>
    obtain ⟨next, hnext, hf⟩ := Option.bind_eq_some_iff.mp hf
    rw [step?_eq] at hnext
    obtain ⟨segment, hs, hc⟩ := Option.bind_eq_some_iff.mp hnext
    obtain ⟨next', hnext', hrelated⟩ := hchild d d' segment next h hc
    rw [follow?, step?_eq, ← hsegment d d' h, hs, Option.bind_some, hnext', Option.bind_some]
    exact ih hrelated hf

namespace Grown

variable {d d' inner : Document}

theorem segment? (h : d.Grown d') (step : List Char) : d.segment? step = d'.segment? step := by
  cases h <;> rfl

/-- A pointer goes the same way in a grown document. -/
theorem route? (hd' : d'.keysDistinct = true) (h : d.Grown d') {steps : List (List Char)} {p : Path}
    (hp : d.route? steps = some p) : d'.route? steps = some p := by
  induction steps generalizing d d' p with
  | nil => exact hp
  | cons step rest ih =>
    obtain ⟨segment, next, q, hsegment, hnext, hq, rfl⟩ := route?_cons_eq_some hp
    obtain ⟨next', hnext', hgrown⟩ := h.child? hd' hnext
    rw [Document.route?, ← h.segment?, hsegment, Option.bind_some, hnext', Option.bind_some,
      ih (keysDistinct_child? hd' hnext') hgrown hq]
    rfl

/-- What a pointer finds is still found. -/
theorem follow? (hd' : d'.keysDistinct = true) (h : d.Grown d') {steps : List (List Char)}
    (hf : d.follow? steps = some inner) :
    ∃ inner', d'.follow? steps = some inner' ∧ inner.Grown inner' := by
  obtain ⟨inner', hf', -, hgrown⟩ := follow?_related
    (R := fun d d' => d'.keysDistinct = true ∧ d.Grown d')
    (fun d d' h step => h.2.segment? step) (fun d d' segment inner h hc =>
      (h.2.child? h.1 hc).imp fun _ h' => ⟨h'.1, keysDistinct_child? h.1 h'.1, h'.2⟩)
    ⟨hd', h⟩ hf
  exact ⟨inner', hf', hgrown⟩

end Grown

/-! ## Entries in another order -/

theorem Reordered.grown {d d' : Document} (h : d.Reordered d') : d.Grown d' := by
  induction d using Document.inductionOn generalizing d' with
  | array items ih =>
    cases h with
    | array hall => exact .array (((List.forall₂_and_left _ _).mpr ⟨ih, hall⟩).imp fun _ _ he =>
        he.1 he.2)
  | object entries ih =>
    cases h with
    | object hp hkeys hall =>
      obtain ⟨old, hm, hold⟩ := List.perm_comp_forall₂ hp (Entries.matched_of_keys hkeys hall)
      exact .object (Entries.Matched.keys_eq hm) (((List.forall₂_and_left _ _).mpr ⟨ih, hm⟩).imp
        fun _ _ he => he.1 he.2.2) hold.subset
  | _ =>
    cases h
    constructor

theorem Reordered.symm {d d' : Document} (h : d.Reordered d') : d'.Reordered d := by
  induction d using Document.inductionOn generalizing d' with
  | array items ih =>
    cases h with
    | array hall =>
      have hback := ((List.forall₂_and_left _ _).mpr ⟨ih, hall⟩).imp
        (S := fun d d' => d'.Reordered d) fun _ _ he => he.1 he.2
      exact .array hback.flip
  | object entries ih =>
    cases h with
    | object hp hkeys hall =>
      obtain ⟨old, hm, hold⟩ := List.perm_comp_forall₂ hp (Entries.matched_of_keys hkeys hall)
      have hback := ((List.forall₂_and_left _ _).mpr ⟨ih, hm⟩).imp
        (S := fun e e' => e'.2.Reordered e.2) fun _ _ he => he.1 he.2.2
      exact .object hold.symm (Entries.Matched.keys_eq hm).symm hback.flip
  | _ =>
    cases h
    constructor

theorem Reordered.lookup {entries entries' : List (String × Document)} {key : String}
    {inner : Document} (hd : (Document.object entries).keysDistinct = true)
    (h : (Document.object entries).Reordered (.object entries'))
    (hl : entries.lookup key = some inner) :
    ∃ inner', entries'.lookup key = some inner' ∧ inner.Reordered inner' := by
  cases h with
  | object hp hkeys hall =>
    have hrel := lookup_reordered hp (Entries.matched_of_keys hkeys hall)
      (keysDistinct_object.mp hd).1 key
    rw [hl] at hrel
    generalize entries'.lookup key = found at hrel ⊢
    cases hrel with
    | some hinner => exact ⟨_, rfl, hinner⟩

theorem Reordered.child? {d d' inner : Document} (hd : d.keysDistinct = true) (h : d.Reordered d')
    {segment : Segment} (hc : d.child? segment = some inner) :
    ∃ inner', d'.child? segment = some inner' ∧ inner.Reordered inner' := by
  unfold Document.child? at hc
  split at hc
  · cases h with
    | object hp hkeys hall => exact lookup hd (.object hp hkeys hall) hc
  · cases h with
    | array hall => exact exists_getElem?_of_forall₂ hall hc
  · cases hc

/-- A pointer finds the same, reordered. -/
theorem Reordered.follow? {d d' inner : Document} (hd : d.keysDistinct = true) (h : d.Reordered d')
    {steps : List (List Char)} (hf : d.follow? steps = some inner) :
    ∃ inner', d'.follow? steps = some inner' ∧ inner.Reordered inner' := by
  obtain ⟨inner', hf', -, hinner⟩ := follow?_related
    (R := fun d d' => d.keysDistinct = true ∧ d.Reordered d')
    (fun d d' h step => h.2.grown.segment? step) (fun d d' segment inner h hc =>
      (h.2.child? h.1 hc).imp fun _ h' => ⟨h'.1, keysDistinct_child? h.1 hc, h'.2⟩)
    ⟨hd, h⟩ hf
  exact ⟨inner', hf', hinner⟩

/-! ## One entry more -/

section Replaced

variable {d inner x : Document} {step other : Segment} {p q : Path}

theorem child?_setChild (h : d.child? step = some inner) (x : Document) :
    (d.setChild step x).child? step = some x := by
  unfold child? at h
  split at h
  · rw [setChild, child?, Entries.lookup_insert, if_pos rfl]
  · obtain ⟨hi, -⟩ := List.getElem?_eq_some_iff.mp h
    rw [setChild, child?, List.getElem?_set_self hi]
  · cases h

theorem child?_setChild_of_ne (h : other ≠ step) (d x : Document) :
    (d.setChild step x).child? other = d.child? other := by
  unfold setChild
  split
  · cases other with
    | index i => rfl
    | key name =>
      rw [child?, child?, Entries.lookup_insert, if_neg fun he => h (congrArg _ he)]
  · cases other with
    | key name => rfl
    | index i =>
      rw [child?, child?, List.getElem?_set_ne fun he => h (congrArg _ he.symm)]
  · rfl

theorem keysDistinct_setChild (hd : d.keysDistinct = true) (hx : x.keysDistinct = true) :
    (d.setChild step x).keysDistinct = true := by
  unfold setChild
  split
  · obtain ⟨hn, hall⟩ := keysDistinct_object.mp hd
    refine keysDistinct_object.mpr ⟨Entries.nodup_keys_insert _ _ hn, fun e he => ?_⟩
    rcases Entries.mem_insert he with rfl | he
    · exact hx
    · exact hall e he
  · refine keysDistinct_array.mpr fun item hitem => ?_
    rcases List.mem_or_eq_of_mem_set hitem with hitem | rfl
    · exact keysDistinct_array.mp hd item hitem
    · exact hx
  · exact hd

theorem keysDistinct_replaceAt (hd : d.keysDistinct = true) (hx : x.keysDistinct = true) :
    (d.replaceAt p x).keysDistinct = true := by
  induction p generalizing d with
  | nil => exact hx
  | cons step rest ih =>
    cases h : d.child? step with
    | none =>
      rw [replaceAt, h]
      exact hd
    | some inner =>
      rw [replaceAt_cons h]
      exact keysDistinct_setChild hd (ih (keysDistinct_child? hd h))

theorem Grown.setChild (h : d.child? step = some inner) (hx : inner.Grown x) :
    d.Grown (d.setChild step x) := by
  have same : ∀ entries : List (String × Document),
      List.Forall₂ (fun e e' => e.2.Grown e'.2) entries entries := fun _ =>
    List.forall₂_same.mpr fun e _ => .refl e.2
  unfold Document.child? at h
  split at h
  · obtain ⟨before, behind, rfl, hkey⟩ := Entries.exists_split h
    rw [Document.setChild, Entries.insert_append hkey]
    refine @Grown.object _ (before ++ (_, x) :: behind) _ ?_ ?_ fun _ he => he
    · simp [Entries.keys]
    · exact List.rel_append (same before) (.cons hx (same behind))
  · rename_i i items
    obtain ⟨hi, rfl⟩ := List.getElem?_eq_some_iff.mp h
    refine .array (List.forall₂_iff_get.mpr ⟨(List.length_set ..).symm, fun j hj hj' => ?_⟩)
    rw [List.get_eq_getElem, List.get_eq_getElem, List.getElem_set]
    split
    · have hij : i = j := ‹_›
      subst hij
      exact hx
    · exact .refl _
  · cases h

section Added

variable {key : String} {before behind : List (String × Document)}

/-- **One entry more in one object.** -/
theorem grown_replaceAt (hp : d.at? p = some (.object (before ++ behind))) (value : Document) :
    d.Grown (d.replaceAt p (.object (before ++ (key, value) :: behind))) := by
  induction p generalizing d with
  | nil =>
    cases hp
    refine @Grown.object _ (before ++ behind) _ rfl
      (List.forall₂_same.mpr fun e _ => .refl e.2) ?_
    exact List.append_subset.mpr ⟨List.subset_append_left _ _,
      List.subset_append_of_subset_right _ (List.subset_cons_self _ _)⟩
  | cons step rest ih =>
    obtain ⟨inner, hinner, hp⟩ := Option.bind_eq_some_iff.mp hp
    rw [replaceAt_cons hinner]
    exact .setChild hinner (ih hp)

theorem keysDistinct_append_cons {value : Document}
    (hd : (object (before ++ behind)).keysDistinct = true)
    (hkey : key ∉ Entries.keys (before ++ behind)) (hvalue : value.keysDistinct = true) :
    (object (before ++ (key, value) :: behind)).keysDistinct = true := by
  obtain ⟨hn, hall⟩ := keysDistinct_object.mp hd
  rw [Entries.keys, List.map_append] at hn hkey
  refine keysDistinct_object.mpr ⟨?_, fun e he => ?_⟩
  · rw [Entries.keys, List.map_append, List.map_cons, List.nodup_middle]
    exact List.nodup_cons.mpr ⟨hkey, hn⟩
  · rcases List.mem_append.mp he with he | he
    · exact hall e (List.mem_append_left _ he)
    · rcases List.mem_cons.mp he with rfl | he
      · exact hvalue
      · exact hall e (List.mem_append_right _ he)

/-- What stands at the end of a path is left alone by a new entry, or has it inside. -/
theorem at?_replaceAt_cases (hp : d.at? p = some (.object (before ++ behind)))
    (hkey : key ∉ Entries.keys (before ++ behind)) (hq : d.at? q = some inner) (value : Document) :
    (d.replaceAt p (.object (before ++ (key, value) :: behind))).at? q = some inner ∨
      ∃ r, p = q ++ r ∧ (d.replaceAt p (.object (before ++ (key, value) :: behind))).at? q =
        some (inner.replaceAt r (.object (before ++ (key, value) :: behind))) := by
  induction q generalizing d p with
  | nil =>
    cases hq
    exact .inr ⟨p, rfl, rfl⟩
  | cons step q ih =>
    obtain ⟨next, hnext, hinner⟩ := Option.bind_eq_some_iff.mp hq
    cases p with
    | nil =>
      cases hp
      refine .inl ?_
      cases step with
      | index i => cases hnext
      | key name =>
        have hne : name ≠ key := fun he =>
          hkey (he ▸ Entries.mem_keys_of_mem (Entries.mem_of_lookup hnext))
        rw [replaceAt, at?, child?, Entries.lookup_append_cons hne]
        exact Option.bind_eq_some_iff.mpr ⟨next, hnext, hinner⟩
    | cons step' p =>
      obtain ⟨next', hnext', hp⟩ := Option.bind_eq_some_iff.mp hp
      rw [replaceAt_cons hnext']
      by_cases hstep : step = step'
      · subst hstep
        cases hnext.symm.trans hnext'
        rw [at?, child?_setChild hnext', Option.bind_some]
        rcases ih hp hinner with hsame | ⟨r, hr, hat⟩
        · exact .inl hsame
        · exact .inr ⟨r, congrArg (step :: ·) hr, hat⟩
      · rw [at?, child?_setChild_of_ne hstep, hnext, Option.bind_some]
        exact .inl hinner

end Added

end Replaced

end Document

end ManifestCheck
