import ManifestCheck.Proofs.Schema.ReferenceChains
import ManifestCheck.Proofs.Schema.ReferenceUnfolding

/-!
# Where compilation fails

An error of compilation is traced back to the place it comes from (`expands_of_compile_error`): a
place that is compiled while some references are being expanded, where the value has a fault of its
own (`OwnFault`), or holds a reference that leads to nothing or back to the chain.  A place that is
compiled is reached from the root in the graph of references (`Expands.reaches`).

What each keyword asks for is said once, by `Document.fits`; the `_error` lemma of each reader says
that it complains about nothing else.
-/

namespace ManifestCheck

open Relation

/-! ## What keywords ask for -/

namespace Document

/-- The type names that a value gives, one by itself or several in a list. -/
def typeNames? : Document → Option (List String)
  | string name => some [name]
  | array (item :: items) => (item :: items).mapM text?
  | _ => none

def entries? : Document → Option (List (String × Document))
  | object entries => some entries
  | _ => none

/-- Whether a value has the shape that a keyword asks for.  Keywords that say nothing about validity
ask for nothing. -/
def fits (keyword : String) (d : Document) : Bool :=
  match keyword with
  | "$ref" => d.text?.isSome
  | "type" => d.typeNames?.isSome
  | "required" => d.texts?.isSome
  | "properties" => d.entries?.isSome
  | "additionalProperties" => d.truth? ≠ some false
  | "items" => !d.isArray
  | "pattern" => d.text?.isSome
  | "enum" => d.members?.isSome
  | "minimum" => d.number?.isSome
  | "maximum" => d.number?.isSome
  | "minLength" => d.count?.isSome
  | "maxLength" => d.count?.isSome
  | "minItems" => d.count?.isSome
  | "maxItems" => d.count?.isSome
  | _ => true

end Document

/-! ## Faults of one schema document -/

namespace Schema

/-- The faults that a value at a place can have by itself, apart from what its references lead to:
it is no schema at all, or the value behind one of its keywords is wrong. -/
inductive OwnFault (l : Location) : Document → SchemaError → Prop
  | noSchema {d : Document} (ht : d ≠ .bool true) (ho : ∀ entries, d ≠ .object entries) :
      OwnFault l d (.invalidKeyword l "schema" (.schema d.jsonKind))
  | misshapen {entries : List (String × Document)} {keyword : String} {value : Document}
      (expectation : Expectation) (hm : (keyword, value) ∈ entries)
      (hf : value.fits keyword = false) :
      OwnFault l (.object entries) (.invalidKeyword l keyword expectation)
  | unknownType {entries : List (String × Document)} {value : Document} {names : List String}
      {name : String} (hm : ("type", value) ∈ entries) (hn : value.typeNames? = some names)
      (hname : name ∈ names) (hu : Kind.ofName? name = none) :
      OwnFault l (.object entries) (.unknownType l name)
  | invalidPattern {entries : List (String × Document)} {source : String}
      {cause : Pattern.PatternError} (hm : ("pattern", .string source) ∈ entries)
      (hc : Pattern.compile source = .error cause) :
      OwnFault l (.object entries) (.invalidPattern l source cause)

theorem OwnFault.mono {l : Location} {entries more : List (String × Document)} {e : SchemaError}
    (hm : entries ⊆ more) (h : OwnFault l (.object entries) e) : OwnFault l (.object more) e := by
  cases h with
  | noSchema _ ho => exact absurd rfl (ho entries)
  | misshapen expectation hk hf => exact .misshapen expectation (hm hk) hf
  | unknownType hk hn hname hu => exact .unknownType (hm hk) hn hname hu
  | invalidPattern hk hc => exact .invalidPattern (hm hk) hc

section OwnFaults

variable {l : Location} {keyword : String} {d : Document} {e : SchemaError}

/-- A value from which nothing is read does not have the shape that is asked for. -/
theorem OwnFault.of_unread {α : Type} {v : Option α} (hk : d.fits keyword = v.isSome)
    (hv : v = none) (he : ∃ expectation, e = .invalidKeyword l keyword expectation) :
    OwnFault l (.object [(keyword, d)]) e := by
  obtain ⟨expectation, rfl⟩ := he
  rw [hv] at hk
  exact .misshapen expectation (List.mem_singleton_self _) hk

theorem allStrings_error {fault : SchemaError} {items : List Document}
    (h : allStrings fault items = .error e) : e = fault := by
  induction items with
  | nil => cases h
  | cons item rest ih =>
    cases item with
    | string s =>
      rw [allStrings] at h
      split at h
      · cases h
      · cases h
        exact ih ‹_›
    | _ =>
      cases h
      rfl

theorem readKinds_error {names : List String} (h : readKinds l names = .error e) :
    ∃ name ∈ names, Kind.ofName? name = none ∧ e = .unknownType l name := by
  induction names with
  | nil => cases h
  | cons name rest ih =>
    rw [readKinds] at h
    split at h
    · cases h
      exact ⟨name, List.mem_cons_self, ‹_›, rfl⟩
    · split at h
      · cases h
      · cases h
        obtain ⟨name', hm, hname⟩ := ih ‹_›
        exact ⟨name', List.mem_cons_of_mem _ hm, hname⟩

theorem readTypes_error (h : readTypes l d = .error e) : OwnFault l (.object [("type", d)]) e := by
  have named : ∀ {names : List String}, d.typeNames? = some names →
      (readKinds l names >>= fun kinds => .ok (TypeSet.ofList kinds)) = .error e →
        OwnFault l (.object [("type", d)]) e := by
    intro names hnames h
    rcases bind_error h with h | ⟨kinds, -, h⟩
    · obtain ⟨name, hm, hu, rfl⟩ := readKinds_error h
      exact .unknownType (List.mem_singleton_self _) hnames hm hu
    · cases h
  unfold readTypes at h
  split at h
  · exact named rfl h
  · rcases bind_error h with h | ⟨names, hnames, h⟩
    · exact .of_unread rfl (eq_none_of_error (fun _ => allStrings_ok) h) ⟨_, allStrings_error h⟩
    · exact named (allStrings_ok.mp hnames) h
  · rename_i hstring harray
    cases h
    refine .of_unread (v := d.typeNames?) rfl ?_ ⟨_, rfl⟩
    unfold Document.typeNames?
    split
    · exact absurd rfl (hstring _)
    · exact absurd rfl (harray _ _)
    · rfl

theorem readStrings_error (hk : d.fits keyword = d.texts?.isSome)
    (h : readStrings l keyword d = .error e) : OwnFault l (.object [(keyword, d)]) e := by
  refine .of_unread hk (eq_none_of_error (fun _ => readStrings_ok) h) ?_
  unfold readStrings at h
  split at h
  · exact ⟨_, allStrings_error h⟩
  · cases h
    exact ⟨_, rfl⟩

theorem readPattern_error (h : readPattern l d = .error e) :
    OwnFault l (.object [("pattern", d)]) e := by
  unfold readPattern at h
  split at h
  · split at h
    · cases h
    · cases h
      exact .invalidPattern (List.mem_singleton_self _) ‹_›
  · rename_i hstring
    cases h
    refine .of_unread (v := d.text?) rfl ?_ ⟨_, rfl⟩
    unfold Document.text?
    split
    · exact absurd rfl (hstring _)
    · rfl

theorem readMembers_error (h : readMembers l d = .error e) :
    OwnFault l (.object [("enum", d)]) e := by
  refine .of_unread Option.isSome_map.symm (eq_none_of_error (fun _ => readMembers_ok) h) ?_
  unfold readMembers at h
  split at h
  · cases h
  · cases h
    exact ⟨_, rfl⟩

theorem readNumber_error (hk : d.fits keyword = d.number?.isSome)
    (h : readNumber l keyword d = .error e) : OwnFault l (.object [(keyword, d)]) e := by
  refine .of_unread hk (eq_none_of_error (fun _ => readNumber_ok) h) ?_
  unfold readNumber at h
  split at h
  · cases h
  · cases h
    exact ⟨_, rfl⟩

theorem readCount_error (hk : d.fits keyword = d.count?.isSome)
    (h : readCount l keyword d = .error e) : OwnFault l (.object [(keyword, d)]) e := by
  refine .of_unread hk (eq_none_of_error (fun _ => readCount_ok) h) ?_
  unfold readCount at h
  simp only at h
  split at h
  · split at h
    · cases h
    · cases h
      exact ⟨_, rfl⟩
  · cases h
    exact ⟨_, rfl⟩

theorem readCheck_error {c : Checks} (h : readCheck l keyword d c = .error e) :
    OwnFault l (.object [(keyword, d)]) e := by
  unfold readCheck at h
  split at h
  case h_11 => cases h
  all_goals
    rcases bind_error h with h | ⟨_, -, h⟩
    case inr => cases h
  case h_1 => exact readTypes_error h
  case h_2 => exact readStrings_error rfl h
  case h_3 => exact readPattern_error h
  case h_4 => exact readMembers_error h
  case h_5 => exact readNumber_error rfl h
  case h_6 => exact readNumber_error rfl h
  all_goals exact readCount_error rfl h

end OwnFaults

section Inside

variable {follow : Follow} {l : Location} {e : SchemaError}

theorem compileProperties_error {entries : List (String × Document)}
    (h : compileProperties follow l entries = .error e) :
    ∃ key d, (key, d) ∈ entries ∧ compileNode follow (l.child key) d = .error e := by
  induction entries with
  | nil =>
    rw [compileProperties.eq_def] at h
    cases h
  | cons entry rest ih =>
    rw [compileProperties.eq_def] at h
    dsimp only at h
    split at h
    · cases h
      exact ⟨entry.1, entry.2, List.mem_cons_self, ‹_›⟩
    · split at h
      · cases h
      · cases h
        obtain ⟨key, d, hm, he⟩ := ih ‹_›
        exact ⟨key, d, List.mem_cons_of_mem _ hm, he⟩

/-- A keyword that fails does so because of its value or at a place inside. -/
theorem addKeyword_error {keyword : String} {d : Document} {s : Schema}
    (h : addKeyword l (fun _ => compileDeclarations follow l d)
      (fun inside => compileNode follow inside d) keyword d s = .error e) :
    OwnFault l (.object [(keyword, d)]) e ∨
      ∃ l' d', Inside l [(keyword, d)] l' d' ∧ compileNode follow l' d' = .error e := by
  unfold addKeyword at h
  split at h
  · rename_i hk
    subst hk
    have declared := map_error h
    rw [compileDeclarations.eq_def] at declared
    split at declared
    · obtain ⟨key, d', hm, he⟩ := compileProperties_error declared
      exact .inr ⟨_, d', .declared (List.mem_singleton_self _) hm, he⟩
    · rename_i hobject
      cases declared
      refine .inl (.of_unread (v := d.entries?) rfl ?_ ⟨_, rfl⟩)
      unfold Document.entries?
      split
      · exact absurd rfl (hobject _)
      · rfl
  split at h
  · rename_i hk
    subst hk
    split at h
    · cases h
    · rename_i ht
      cases h
      exact .inl (.misshapen _ (List.mem_singleton_self _) (decide_eq_false (not_not.mpr ht)))
    · rename_i ht
      exact .inr ⟨_, d, .additional (List.mem_singleton_self _) ht, map_error h⟩
  split at h
  · rename_i hk
    subst hk
    split at h
    · rename_i ha
      cases h
      exact .inl (.misshapen _ (List.mem_singleton_self _) ((Bool.not_eq_false' ..).mpr ha))
    · rename_i ha
      exact .inr ⟨_, d, .items (List.mem_singleton_self _) (Bool.eq_false_iff.mpr ha), map_error h⟩
  · exact .inl (readCheck_error (map_error h))

/-- The first keyword that fails says where. -/
theorem compileKeywords_error {entries : List (String × Document)} {s : Schema}
    (h : compileKeywords follow l entries s = .error e) :
    OwnFault l (.object entries) e ∨
      ∃ l' d, Inside l entries l' d ∧ compileNode follow l' d = .error e := by
  induction entries generalizing s with
  | nil =>
    rw [compileKeywords.eq_def] at h
    cases h
  | cons entry rest ih =>
    obtain ⟨keyword, d⟩ := entry
    have hrest : rest ⊆ (keyword, d) :: rest := List.subset_cons_self _ _
    have hfirst : [(keyword, d)] ⊆ (keyword, d) :: rest :=
      List.cons_subset_cons _ (List.nil_subset _)
    rw [compileKeywords.eq_def] at h
    dsimp only at h
    split at h
    · exact (ih h).imp (.mono hrest) fun ⟨l', d', hi, he⟩ => ⟨l', d', hi.mono hrest, he⟩
    · cases h
      exact (addKeyword_error ‹_›).imp (.mono hfirst) fun ⟨l', d', hi, he⟩ =>
        ⟨l', d', hi.mono hfirst, he⟩

/-- **Where an error comes from, one step**: the value itself, what a reference gives, or a place
inside. -/
theorem compileNode_error {d : Document} (h : compileNode follow l d = .error e) :
    OwnFault l d e ∨ ∃ entries, d = .object entries ∧
      ((∃ reference, entries.lookup "$ref" = some (.string reference) ∧
          follow l reference = .error e) ∨
        (entries.lookup "$ref" = none ∧
          ∃ l' d', Inside l entries l' d' ∧ compileNode follow l' d' = .error e)) := by
  rw [compileNode.eq_def] at h
  split at h
  · cases h
  · rename_i entries
    split at h
    · exact .inr ⟨entries, rfl, .inl ⟨_, ‹_›, h⟩⟩
    · rename_i value hstring hvalue
      cases h
      have hentry : [("$ref", value)] ⊆ entries :=
        List.cons_subset.mpr ⟨Entries.mem_of_lookup hvalue, List.nil_subset _⟩
      refine .inl (.mono hentry (.of_unread (v := value.text?) rfl ?_ ⟨_, rfl⟩))
      unfold Document.text?
      split
      · exact absurd rfl (hstring _)
      · rfl
    · rcases compileKeywords_error h with hown | hin
      · exact .inl hown
      · exact .inr ⟨entries, rfl, .inr ⟨‹_›, hin⟩⟩
  · rename_i htrue hobject
    cases h
    exact .inl (.noSchema htrue hobject)

end Inside

end Schema

namespace Library

variable {lib : Library} {name : String}

/-! ## Faults among several schema documents -/

/-- What can be wrong with a value at a place while the references to a chain of places are being
expanded. -/
inductive FailsAt (lib : Library) (chain : List Location) (l : Location) :
    Document → SchemaError → Prop
  | own {d : Document} {e : SchemaError} (h : Schema.OwnFault l d e) : FailsAt lib chain l d e
  | unresolved {entries : List (String × Document)} {reference : String}
      (hr : entries.lookup "$ref" = some (.string reference))
      (hf : lib.find? (l.target reference) = none) :
      FailsAt lib chain l (.object entries) (.unresolvedReference l reference)
  | cyclic {entries : List (String × Document)} {reference : String} {found : Document}
      (hr : entries.lookup "$ref" = some (.string reference))
      (hf : lib.find? (l.target reference) = some found)
      (hc : (l.target reference).render ∈ chain.map Location.render) :
      FailsAt lib chain l (.object entries) (.cyclicReference l reference)

/-- **Every error has a place**, where the places that are still open are those off the chain.  The
induction is on the open places, and on the value as long as none is entered. -/
theorem expands_of_compileAt_error {chain : List Location} {allowed : List String} {l : Location}
    {d : Document} {e : SchemaError} (hx : lib.Expands name chain l d)
    (ha : ∀ place ∈ lib.targets, place ∈ allowed ↔ place ∉ chain.map Location.render)
    (h : lib.compileAt allowed l d = .error e) :
    ∃ chain' l' d', lib.Expands name chain' l' d' ∧ lib.FailsAt chain' l' d' e := by
  induction hn : allowed.length using Nat.strongRecOn generalizing chain allowed l d with
  | ind n ihallowed =>
    subst hn
    induction hn : d.nesting using Nat.strongRecOn generalizing l d with
    | ind n ihnesting =>
      subst hn
      rw [compileAt_eq] at h
      rcases Schema.compileNode_error h with hown | ⟨entries, rfl, href | ⟨hr, l', d', hi, he⟩⟩
      · exact ⟨chain, l, d, hx, .own hown⟩
      · obtain ⟨reference, hr, hfollow⟩ := href
        obtain ⟨⟨root, hroot⟩, hrefs⟩ := hx.within
        have listed := target_mem_targets hroot
          (hrefs (Document.mem_referencesInEntries (Entries.mem_of_lookup hr)))
        rw [following] at hfollow
        split at hfollow
        · rename_i hf
          cases hfollow
          exact ⟨chain, l, _, hx, .unresolved hr hf⟩
        · rename_i found hf
          split at hfollow
          · rename_i hopen
            exact ihallowed _ (without_length_lt hopen)
              (hx.reference hr hf ((ha _ listed).mp hopen))
              (fun place hp => mem_without_iff (ha place hp) _) hfollow rfl
          · rename_i hclosed
            cases hfollow
            exact ⟨chain, l, _, hx, .cyclic hr hf (Decidable.not_not.mp fun hn =>
              hclosed ((ha _ listed).mpr hn))⟩
      · rw [← compileAt_eq] at he
        exact ihnesting _ hi.nesting_lt (hx.inside hr hi) he rfl

/-- An error that is not about the name alone comes from a place that is compiled. -/
theorem expands_of_compile_error {e : SchemaError} (h : lib.compile name = .error e) :
    e = .unknownDocument name ∨
      ∃ chain l d, lib.Expands name chain l d ∧ lib.FailsAt chain l d e := by
  unfold compile at h
  split at h
  · cases h
    exact .inl rfl
  · exact .inr (expands_of_compileAt_error (.root ‹_›)
      (fun place hp => iff_of_true hp List.not_mem_nil) h)

/-! ## Chains in the graph of references -/

/-- Where keys are distinct, a document with a place inside is one of the documents inside. -/
theorem mem_insides_of_inside {l l' : Location} {entries : List (String × Document)} {d : Document}
    (hn : (Document.object entries).keysDistinct = true) (h : Schema.Inside l entries l' d) :
    d ∈ Schema.insides entries := by
  unfold Schema.insides
  cases h with
  | declared hp hd =>
    refine List.mem_append_left _ (List.mem_append_left _ ?_)
    rw [Schema.declared?, Document.lookup_of_keysDistinct hn hp]
    exact List.mem_map.mpr ⟨_, hd, rfl⟩
  | additional ha ht =>
    refine List.mem_append_left _ (List.mem_append_right _ (Option.mem_toList.mpr ?_))
    rw [Schema.extra?, Document.lookup_of_keysDistinct hn ha, Option.filter_some,
      if_pos (by rw [ht]; rfl)]
  | items hi _ =>
    exact List.mem_append_right _ (Option.mem_toList.mpr (Document.lookup_of_keysDistinct hn hi))

/-- A value that is compiled has distinct keys and is reached from the root, and the value at each
place of the chain lies in between. -/
theorem Expands.reaches (hlib : lib.KeysDistinct) {root : Document}
    (hroot : lib.documents.lookup name = some root) {chain : List Location} {l : Location}
    {d : Document} (h : lib.Expands name chain l d) :
    d.keysDistinct = true ∧ ReflTransGen lib.Needs (name, root) (l.document, d) ∧
      ∀ k ∈ chain, ∃ found, lib.find? k = some found ∧
        ReflTransGen lib.Needs (name, root) (k.document, found) ∧
        ReflTransGen lib.Needs (k.document, found) (l.document, d) := by
  induction h with
  | root hr =>
    cases hroot.symm.trans hr
    exact ⟨hlib _ (Entries.mem_of_lookup hr), .refl, nofun⟩
  | @inside chain l l' entries d _ hr hi ih =>
    obtain ⟨hd, hreach, hchain⟩ := ih
    have hin := mem_insides_of_inside hd hi
    have step : lib.Needs (l.document, .object entries) (l'.document, d) :=
      hi.document ▸ .inside hr hin
    exact ⟨Schema.keysDistinct_of_mem_insides hd hin, hreach.tail step, fun k hk =>
      (hchain k hk).imp fun _ h => ⟨h.1, h.2.1, h.2.2.tail step⟩⟩
  | @reference chain l entries reference d _ hr hf _ ih =>
    obtain ⟨-, hreach, hchain⟩ := ih
    have step : lib.Needs (l.document, .object entries) ((l.target reference).document, d) :=
      .reference hr (leads_iff.mpr ⟨rfl, hf⟩)
    refine ⟨keysDistinct_find? hlib hf, hreach.tail step, fun k hk => ?_⟩
    rcases List.mem_cons.mp hk with rfl | hk
    · exact ⟨d, hf, hreach.tail step, .refl⟩
    · exact (hchain k hk).imp fun _ h => ⟨h.1, h.2.1, h.2.2.tail step⟩

end Library

end ManifestCheck
