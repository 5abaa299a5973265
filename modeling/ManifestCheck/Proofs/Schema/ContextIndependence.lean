import ManifestCheck.Proofs.Schema.KeywordFields

/-!
# Compilation away from its context

While a schema is compiled there is a location at hand, and a list of places that references may
still lead to.  Neither has a say in the schema that results: the pointer of the location is for
complaints only, and a list that leaves more places open gives the same schema
(`compileAt_moved`).  Only whether there is a schema at all can depend on the list.
-/

namespace ManifestCheck

namespace Document

theorem nesting_lt_of_mem {entries : List (String × Document)} {e : String × Document}
    (h : e ∈ entries) : e.2.nesting < (object entries).nesting := by
  have bound : e.2.nesting ≤ nestingEntries entries := by
    induction entries with
    | nil => cases h
    | cons f rest ih =>
      rw [nestingEntries]
      rcases List.mem_cons.mp h with rfl | h
      · exact Nat.le_max_left _ _
      · exact Nat.le_trans (ih h) (Nat.le_max_right _ _)
  rw [nesting]
  omega

end Document

namespace Schema

/-! ## One schema document -/

/-- One way to follow references gives, from any place of the document of a name, whatever another
way gives from any place there. -/
def Reproduces (name : String) (f g : Follow) : Prop :=
  ∀ l l' reference s, l.document = name → l'.document = name →
    f l reference = .ok s → g l' reference = .ok s

/-- Compiling a value gives the same schema at all places of the document of a name, whichever of
two ways to follow references is taken. -/
def Moves (name : String) (f g : Follow) (d : Document) : Prop :=
  ∀ l l' s, l.document = name → l'.document = name →
    compileNode f l d = .ok s → compileNode g l' d = .ok s

theorem readCheck_moved {l l' : Location} {keyword : String} {d : Document} {c c' : Checks}
    (h : readCheck l keyword d c = .ok c') : readCheck l' keyword d c = .ok c' := by
  unfold readCheck at h
  split at h
  case h_11 =>
    unfold readCheck
    split <;> simp_all
  all_goals
    obtain ⟨value, hv, hc⟩ := bind_ok h
    unfold readCheck
  case h_1 => rw [readTypes_ok.mpr (readTypes_ok.mp hv)]; exact hc
  case h_2 => rw [readStrings_ok.mpr (readStrings_ok.mp hv)]; exact hc
  case h_3 => rw [readPattern_ok.mpr (readPattern_ok.mp hv)]; exact hc
  case h_4 => rw [readMembers_ok.mpr (readMembers_ok.mp hv)]; exact hc
  case h_5 => rw [readNumber_ok.mpr (readNumber_ok.mp hv)]; exact hc
  case h_6 => rw [readNumber_ok.mpr (readNumber_ok.mp hv)]; exact hc
  all_goals rw [readCount_ok.mpr (readCount_ok.mp hv)]; exact hc

section Moves

variable {name : String} {f g : Follow} {l l' : Location}

theorem compileProperties_moved (hl : l.document = name) (hl' : l'.document = name)
    {entries : List (String × Document)} (he : ∀ e ∈ entries, Moves name f g e.2)
    {ps : List (String × Schema)} (h : compileProperties f l entries = .ok ps) :
    compileProperties g l' entries = .ok ps := by
  induction entries generalizing ps with
  | nil =>
    rw [compileProperties.eq_def] at h ⊢
    exact h
  | cons e rest ih =>
    obtain ⟨s, more, hd, hr, rfl⟩ := compileProperties_cons_ok.mp h
    have moved := he _ List.mem_cons_self (l.child e.1) (l'.child e.1) s hl hl' hd
    have rest := ih (fun e he' => he e (List.mem_cons_of_mem _ he')) hr
    exact compileProperties_cons_ok.mpr ⟨s, more, moved, rest, rfl⟩

theorem compileDeclarations_moved (hl : l.document = name) (hl' : l'.document = name)
    {d : Document} (hd : ∀ entries, d = .object entries → ∀ e ∈ entries, Moves name f g e.2)
    {ps : List (String × Schema)} (h : compileDeclarations f l d = .ok ps) :
    compileDeclarations g l' d = .ok ps := by
  rw [compileDeclarations.eq_def] at h ⊢
  cases d with
  | object entries =>
    dsimp only at h ⊢
    have hc : (l.child "properties").document = name := hl
    have hc' : (l'.child "properties").document = name := hl'
    exact compileProperties_moved hc hc' (hd entries rfl) h
  | _ => cases h

theorem AddsKeyword.moved (hl : l.document = name) (hl' : l'.document = name) {keyword : String}
    {d : Document} (hd : Moves name f g d)
    (hi : ∀ entries, d = .object entries → ∀ e ∈ entries, Moves name f g e.2) {s t : Schema}
    (h : AddsKeyword l (compileDeclarations f l d) (fun inside => compileNode f inside d) d s
      keyword t) :
    AddsKeyword l' (compileDeclarations g l' d) (fun inside => compileNode g inside d) d s
      keyword t := by
  cases h with
  | properties hp => exact .properties (compileDeclarations_moved hl hl' hi hp)
  | openObject ht => exact .openObject ht
  | additional ht hx =>
    exact .additional ht
      (hd (l.child "additionalProperties") (l'.child "additionalProperties") _ hl hl' hx)
  | items ha hx => exact .items ha (hd (l.child "items") (l'.child "items") _ hl hl' hx)
  | check hp ha hi hc => exact .check hp ha hi (readCheck_moved hc)

theorem compileKeywords_moved (hl : l.document = name) (hl' : l'.document = name)
    {entries : List (String × Document)} (he : ∀ e ∈ entries, Moves name f g e.2)
    (hi : ∀ e ∈ entries, ∀ inner, e.2 = .object inner → ∀ e' ∈ inner, Moves name f g e'.2)
    {s t : Schema} (h : compileKeywords f l entries s = .ok t) :
    compileKeywords g l' entries s = .ok t := by
  induction entries generalizing s with
  | nil =>
    rw [compileKeywords.eq_def] at h ⊢
    exact h
  | cons e rest ih =>
    obtain ⟨between, hs, hr⟩ := compileKeywords_cons_ok.mp h
    have moved := hs.moved hl hl' (he _ List.mem_cons_self) (hi _ List.mem_cons_self)
    have rest := ih (fun e h => he e (List.mem_cons_of_mem _ h))
      (fun e h => hi e (List.mem_cons_of_mem _ h)) hr
    exact compileKeywords_cons_ok.mpr ⟨between, moved, rest⟩

/-- What references give is all that the schema of a value takes from its surroundings. -/
theorem moves_of_reproduces (hfg : Reproduces name f g) (d : Document) : Moves name f g d := by
  induction hn : d.nesting using Nat.strongRecOn generalizing d with
  | ind n ih =>
    subst hn
    intro l l' s hl hl' h
    rw [compileNode.eq_def] at h ⊢
    cases d with
    | bool b =>
      cases b with
      | false => cases h
      | true => exact h
    | object entries =>
      dsimp only at h ⊢
      cases hr : entries.lookup "$ref" with
      | some value =>
        rw [hr] at h
        cases value with
        | string reference => exact hfg l l' reference s hl hl' h
        | _ => cases h
      | none =>
        rw [hr] at h
        refine compileKeywords_moved hl hl' (fun e he => ih _ (Document.nesting_lt_of_mem he) _ rfl)
          (fun e he inner hi e' he' => ?_) h
        have h₁ := Document.nesting_lt_of_mem he
        have h₂ := Document.nesting_lt_of_mem he'
        rw [hi] at h₁
        exact ih _ (Nat.lt_trans h₂ h₁) _ rfl
    | _ => cases h

end Moves

end Schema

/-! ## A library of schema documents -/

namespace Library

variable {lib : Library} {l l' : Location} {d : Document} {s : Schema}

/-- Following references to places that are still open. -/
def following (lib : Library) (allowed : List String) : Follow := fun here reference =>
  match lib.find? (here.target reference) with
  | none => .error (.unresolvedReference here reference)
  | some found =>
    if (here.target reference).render ∈ allowed then
      lib.compileAt (without (here.target reference).render allowed) (here.target reference) found
    else .error (.cyclicReference here reference)

theorem compileAt_eq (lib : Library) (allowed : List String) (l : Location) (d : Document) :
    lib.compileAt allowed l d = Schema.compileNode (lib.following allowed) l d := by
  rw [compileAt]
  rfl

theorem following_ok {allowed : List String} {reference : String}
    (h : lib.following allowed l reference = .ok s) :
    ∃ found, lib.find? (l.target reference) = some found ∧
      (l.target reference).render ∈ allowed ∧
      lib.compileAt (without (l.target reference).render allowed) (l.target reference) found =
        .ok s := by
  unfold following at h
  split at h
  · cases h
  · rename_i found hf
    split at h
    · exact ⟨found, hf, ‹_›, h⟩
    · cases h

theorem without_subset {place : String} {allowed allowed' : List String} (h : allowed ⊆ allowed') :
    without place allowed ⊆ without place allowed' := by
  intro x hx
  obtain ⟨hm, hp⟩ := List.mem_filter.mp hx
  exact List.mem_filter.mpr ⟨h hm, hp⟩

/-- **The schema of a value does not depend on what led to it.**  Leaving more places open, or
compiling the value at another place of the same document, gives the same schema. -/
theorem compileAt_moved {allowed allowed' : List String} (hs : allowed ⊆ allowed')
    (hl : l.document = l'.document) (h : lib.compileAt allowed l d = .ok s) :
    lib.compileAt allowed' l' d = .ok s := by
  induction hn : allowed.length using Nat.strongRecOn
    generalizing allowed allowed' l l' d s with
  | ind n ih =>
    subst hn
    rw [compileAt_eq] at h ⊢
    refine Schema.moves_of_reproduces ?_ d l l' s hl rfl h
    intro k k' reference t hk hk' ht
    have target : k'.target reference = k.target reference := by
      rw [Location.target, Location.target, hk, hk']
    obtain ⟨found, hf, hm, hc⟩ := following_ok ht
    rw [following, target, hf]
    dsimp only
    rw [if_pos (hs hm)]
    exact ih _ (without_length_lt hm) (without_subset hs) rfl hc rfl

end Library

end ManifestCheck
