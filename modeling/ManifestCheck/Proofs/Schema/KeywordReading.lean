import ManifestCheck.Proofs.Schema.ContextIndependence

/-!
# Schemas read from keywords

The keywords of an object that is no reference give a schema, and three of them hold documents whose
schemas go inside it.  `FromKeywords U` relates such an object to its schema, where `U` relates the
documents inside to theirs: what compiles them (`compileNode_fromKeywords`), or whatever follows from
that (`FromKeywords.imp`).  If `U` gives each document one schema, so does `FromKeywords U`.
-/

namespace ManifestCheck

namespace Schema

/-! ## The schema documents inside an object -/

/-- The documents for declared keys; an object without the keyword declares none. -/
def declared? (entries : List (String × Document)) : Option (List (String × Document)) :=
  match entries.lookup "properties" with
  | none => some []
  | some (.object declared) => some declared
  | some _ => none

/-- The document for other keys.  The truth value `true` asks nothing and counts as absent. -/
def extra? (entries : List (String × Document)) : Option Document :=
  (entries.lookup "additionalProperties").filter fun d => d.truth? ≠ some true

/-- The document for the elements of a list. -/
def each? (entries : List (String × Document)) : Option Document := entries.lookup "items"

/-- All schema documents one step inside an object that is no reference. -/
def insides (entries : List (String × Document)) : List Document :=
  ((declared? entries).getD []).map Prod.snd ++ (extra? entries).toList ++ (each? entries).toList

/-- What is one step inside an object is a value of it, or a value of one of its values. -/
theorem mem_insides {entries : List (String × Document)} {d : Document} (h : d ∈ insides entries) :
    ∃ e ∈ entries, e.2 = d ∨ ∃ inner, e.2 = .object inner ∧ ∃ e' ∈ inner, e'.2 = d := by
  rcases List.mem_append.mp h with h | h
  · rcases List.mem_append.mp h with h | h
    · obtain ⟨e', he', rfl⟩ := List.mem_map.mp h
      unfold declared? at he'
      split at he'
      · cases he'
      · rename_i declared hd
        exact ⟨_, Entries.mem_of_lookup hd, .inr ⟨declared, rfl, e', he', rfl⟩⟩
      · cases he'
    · have hx := Option.mem_toList.mp h
      exact ⟨_, Entries.mem_of_lookup (Option.filter_eq_some_iff.mp hx).1, .inl rfl⟩
  · exact ⟨_, Entries.mem_of_lookup (Option.mem_toList.mp h), .inl rfl⟩

theorem nesting_lt_of_mem_insides {entries : List (String × Document)} {d : Document}
    (h : d ∈ insides entries) : d.nesting < (Document.object entries).nesting := by
  obtain ⟨e, he, rfl | ⟨inner, hi, e', he', rfl⟩⟩ := mem_insides h
  · exact Document.nesting_lt_of_mem he
  · have hlt := Document.nesting_lt_of_mem he
    rw [hi] at hlt
    exact Nat.lt_trans (Document.nesting_lt_of_mem he') hlt

theorem keysDistinct_of_mem_insides {entries : List (String × Document)} {d : Document}
    (hd : (Document.object entries).keysDistinct = true) (h : d ∈ insides entries) :
    d.keysDistinct = true := by
  obtain ⟨e, he, rfl | ⟨inner, hi, e', he', rfl⟩⟩ := mem_insides h
  · exact (Document.keysDistinct_object.mp hd).2 e he
  · have hinner := (Document.keysDistinct_object.mp hd).2 e he
    rw [hi] at hinner
    exact (Document.keysDistinct_object.mp hinner).2 e' he'

/-! ## Schemas read from their keywords -/

/-- A schema whose fields are read from the keywords of an object.  For the schemas inside it,
`U` tells which schema belongs to which document. -/
structure FromKeywords (U : Document → Schema → Prop) (entries : List (String × Document))
    (s : Schema) : Prop where
  checks : Checks.ByKeyword (Filled entries) {} s.checks
  declared : ∃ declared, declared? entries = some declared ∧
    Entries.keys s.properties = Entries.keys declared ∧
    ∀ x ∈ s.properties.zip declared, U x.2.2 x.1.2
  additional : Option.Rel U (extra? entries) s.additional
  items : Option.Rel U (each? entries) s.items

theorem optionRel_imp {U V : Document → Schema → Prop} {d? : Option Document} {s? : Option Schema}
    (h : Option.Rel U d? s?) (huv : ∀ d, d? = some d → ∀ s, U d s → V d s) :
    Option.Rel V d? s? := by
  cases h with
  | none => exact .none
  | some hu => exact .some (huv _ rfl _ hu)

theorem exists_of_optionRel {U : Document → Schema → Prop} {d? : Option Document}
    {s? : Option Schema} (h : Option.Rel U d? s?) {d : Document} (hd : d? = some d) :
    ∃ s, U d s := by
  cases h with
  | none => cases hd
  | some hu =>
    cases hd
    exact ⟨_, hu⟩

theorem optionRel_unique {U V : Document → Schema → Prop} {d? : Option Document}
    {s? t? : Option Schema} (h : Option.Rel U d? s?) (h' : Option.Rel V d? t?)
    (huv : ∀ d s t, U d s → V d t → s = t) : s? = t? := by
  cases h with
  | none => cases h'; rfl
  | some hu =>
    cases h' with
    | some hv => rw [huv _ _ _ hu hv]

theorem declared_unique {U V : Document → Schema → Prop} {declared : List (String × Document)}
    {ps qs : List (String × Schema)} (hp : Entries.keys ps = Entries.keys declared)
    (hq : Entries.keys qs = Entries.keys declared) (hu : ∀ x ∈ ps.zip declared, U x.2.2 x.1.2)
    (hv : ∀ x ∈ qs.zip declared, V x.2.2 x.1.2) (huv : ∀ d s t, U d s → V d t → s = t) :
    ps = qs := by
  induction declared generalizing ps qs with
  | nil =>
    rw [List.map_eq_nil_iff.mp hp, List.map_eq_nil_iff.mp hq]
  | cons e rest ih =>
    obtain ⟨p, ps, rfl, hp₁, hp₂⟩ := List.map_eq_cons_iff.mp hp
    obtain ⟨q, qs, rfl, hq₁, hq₂⟩ := List.map_eq_cons_iff.mp hq
    have hs : p.2 = q.2 := huv _ _ _ (hu (p, e) List.mem_cons_self) (hv (q, e) List.mem_cons_self)
    rw [Prod.ext (hp₁.trans hq₁.symm) hs, ih hp₂ hq₂
      (fun x hx => hu x (List.mem_cons_of_mem _ hx)) fun x hx => hv x (List.mem_cons_of_mem _ hx)]

namespace FromKeywords

variable {U V : Document → Schema → Prop} {entries : List (String × Document)} {s t : Schema}

theorem imp (h : FromKeywords U entries s)
    (huv : ∀ d ∈ insides entries, ∀ t, U d t → V d t) : FromKeywords V entries s where
  checks := h.checks
  declared := by
    obtain ⟨declared, hd, hk, hu⟩ := h.declared
    refine ⟨declared, hd, hk, fun x hx => huv _ ?_ _ (hu x hx)⟩
    have hm : x.2.2 ∈ ((declared? entries).getD []).map Prod.snd := by
      rw [hd]
      exact List.mem_map.mpr ⟨x.2, (List.of_mem_zip hx).2, rfl⟩
    exact List.mem_append_left _ (List.mem_append_left _ hm)
  additional := optionRel_imp h.additional fun d hd => huv d
    (List.mem_append_left _ (List.mem_append_right _ (Option.mem_toList.mpr hd)))
  items := optionRel_imp h.items fun d hd => huv d
    (List.mem_append_right _ (Option.mem_toList.mpr hd))

/-- Every document inside has its schema. -/
theorem exists_of_mem (h : FromKeywords U entries s) {d : Document} (hd : d ∈ insides entries) :
    ∃ t, U d t := by
  rcases List.mem_append.mp hd with hd | hd
  · rcases List.mem_append.mp hd with hd | hd
    · obtain ⟨declared, hs, hk, hu⟩ := h.declared
      rw [hs] at hd
      obtain ⟨e, he, rfl⟩ := List.mem_map.mp hd
      have hl : declared.length ≤ s.properties.length := by
        rw [← List.length_map Prod.fst, ← List.length_map Prod.fst]
        exact Nat.le_of_eq (congrArg List.length hk).symm
      rw [Option.getD_some, ← List.map_snd_zip hl] at he
      obtain ⟨x, hx, rfl⟩ := List.mem_map.mp he
      exact ⟨x.1.2, hu x hx⟩
    · exact exists_of_optionRel h.additional (Option.mem_toList.mp hd)
  · exact exists_of_optionRel h.items (Option.mem_toList.mp hd)

/-- The keywords determine the schema if the documents inside determine theirs. -/
theorem unique (h : FromKeywords U entries s) (h' : FromKeywords V entries t)
    (huv : ∀ d s t, U d s → V d t → s = t) : s = t := by
  obtain ⟨declared, hd, hp, hu⟩ := h.declared
  obtain ⟨declared', hd', hq, hv⟩ := h'.declared
  cases hd.symm.trans hd'
  have checks := h.checks.unique h'.checks
  have properties := declared_unique hp hq hu hv huv
  have additional := optionRel_unique h.additional h'.additional huv
  have items := optionRel_unique h.items h'.items huv
  cases s
  cases t
  exact congr (congr (congr (congrArg Schema.node checks) properties) additional) items

end FromKeywords

/-! ## Compiling one object -/

/-- Compiling a document somewhere in the document of a name gives a schema. -/
def Yields (follow : Follow) (name : String) (d : Document) (s : Schema) : Prop :=
  ∃ l : Location, l.document = name ∧ compileNode follow l d = .ok s

variable {follow : Follow} {l : Location}

theorem compileProperties_yields {entries : List (String × Document)} {ps : List (String × Schema)}
    (h : compileProperties follow l entries = .ok ps) :
    Entries.keys ps = Entries.keys entries ∧
      ∀ x ∈ ps.zip entries, Yields follow l.document x.2.2 x.1.2 := by
  induction entries generalizing ps with
  | nil =>
    rw [compileProperties.eq_def] at h
    cases h
    exact ⟨rfl, fun _ h => absurd h List.not_mem_nil⟩
  | cons e rest ih =>
    obtain ⟨s, more, hd, hr, rfl⟩ := compileProperties_cons_ok.mp h
    obtain ⟨hk, hy⟩ := ih hr
    refine ⟨congrArg (e.1 :: ·) hk, fun x hx => ?_⟩
    rcases List.mem_cons.mp hx with rfl | hx
    · exact ⟨l.child e.1, rfl, hd⟩
    · exact hy x hx

section Fields

variable {entries : List (String × Document)} {s : Schema}
  (h : Schema.ByKeyword (Filled entries) follow l any s)

include h

theorem declared_yields : ∃ declared, declared? entries = some declared ∧
    Entries.keys s.properties = Entries.keys declared ∧
    ∀ x ∈ s.properties.zip declared, Yields follow l.document x.2.2 x.1.2 := by
  have filled := h.properties
  unfold Filled at filled
  unfold declared?
  split at filled
  case h_1 hd =>
    have none : s.properties = [] := filled
    rw [hd, none]
    exact ⟨[], rfl, rfl, fun _ h => absurd h List.not_mem_nil⟩
  case h_2 d hd =>
    have compiled := eq_ok_of_toOption filled
    rw [hd]
    rw [compileDeclarations.eq_def] at compiled
    cases d with
    | object declared =>
      exact ⟨declared, rfl, compileProperties_yields (l := l.child "properties") compiled⟩
    | _ => cases compiled

theorem additional_yields : Option.Rel (Yields follow l.document) (extra? entries) s.additional := by
  have filled := h.additional
  unfold Filled at filled
  unfold extra?
  split at filled
  case h_1 hd =>
    have none : s.additional = none := filled
    rw [hd, none]
    exact .none
  case h_2 d hd =>
    dsimp only at filled
    rw [hd]
    by_cases ht : d.truth? = some true
    · rw [if_pos ht] at filled
      rw [← Option.some.inj filled, Option.filter_some, if_neg (by simp [ht])]
      exact .none
    · rw [if_neg ht] at filled
      obtain ⟨t, ht', hs⟩ := Option.map_eq_some_iff.mp filled
      rw [← hs, Option.filter_some, if_pos (by simp [ht])]
      exact .some ⟨l.child "additionalProperties", rfl, eq_ok_of_toOption ht'⟩

theorem items_yields : Option.Rel (Yields follow l.document) (each? entries) s.items := by
  have filled := h.items
  unfold Filled at filled
  unfold each?
  split at filled
  case h_1 hd =>
    have none : s.items = none := filled
    rw [hd, none]
    exact .none
  case h_2 d hd =>
    obtain ⟨t, ht, hs⟩ := Option.map_eq_some_iff.mp filled
    rw [hd, ← hs]
    exact .some ⟨l.child "items", rfl, eq_ok_of_toOption ht⟩

end Fields

theorem compileNode_fromKeywords {entries : List (String × Document)} {s : Schema}
    (hn : (Entries.keys entries).Nodup) (hr : entries.lookup "$ref" = none)
    (h : compileNode follow l (.object entries) = .ok s) :
    FromKeywords (Yields follow l.document) entries s := by
  rw [compileNode.eq_def] at h
  dsimp only at h
  rw [hr] at h
  have filled := compileKeywords_filled hn h
  exact ⟨filled.checks, declared_yields filled, additional_yields filled, items_yields filled⟩

end Schema

end ManifestCheck
