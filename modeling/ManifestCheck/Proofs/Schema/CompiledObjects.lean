import ManifestCheck.Proofs.Schema.CompilationFaults

/-!
# Objects that compile

`compileNode_fromKeywords` reads a compiled schema off the keywords of its object.  Here is the way
back: where a schema can be read off the keywords, and the documents inside compile to what it has for
them, the object compiles to this schema, in whatever order its keywords come
(`Schema.compileNode_of_fromKeywords`).  A fault that ended compilation would be one of the object
itself or of a document inside, and there is none of either (`FromKeywords.not_ownFault`).
-/

namespace ManifestCheck

namespace Document

/-- Kinds are told by the names that are given for them. -/
theorem typeSet?_eq (d : Document) : d.typeSet? =
    d.typeNames?.bind fun names => (names.mapM Kind.ofName?).map TypeSet.ofList := by
  cases d with
  | string name =>
    rw [typeSet?, typeNames?, Option.bind_some, List.mapM_cons]
    cases Kind.ofName? name <;> rfl
  | array items => cases items <;> rfl
  | _ => rfl

theorem isSome_ofName? {names : List String} {kinds : List Kind}
    (h : names.mapM Kind.ofName? = some kinds) {name : String} (hn : name ∈ names) :
    (Kind.ofName? name).isSome = true := by
  induction names generalizing kinds with
  | nil => cases hn
  | cons first rest ih =>
    rw [List.mapM_cons] at h
    obtain ⟨k, hk, h⟩ := Option.bind_eq_some_iff.mp h
    obtain ⟨more, hmore, -⟩ := Option.bind_eq_some_iff.mp h
    rcases List.mem_cons.mp hn with rfl | hn
    · rw [hk]
      rfl
    · exact ih hmore hn

/-- Whatever gives a set of kinds gives names, and all of them are names of kinds. -/
theorem exists_of_typeSet? {d : Document} {types : TypeSet} (h : d.typeSet? = some types) :
    ∃ names, d.typeNames? = some names ∧ ∀ name ∈ names, (Kind.ofName? name).isSome = true := by
  rw [typeSet?_eq] at h
  obtain ⟨names, hnames, h⟩ := Option.bind_eq_some_iff.mp h
  obtain ⟨kinds, hkinds, -⟩ := Option.map_eq_some_iff.mp h
  exact ⟨names, hnames, fun name hn => isSome_ofName? hkinds hn⟩

theorem exists_of_pattern? {d : Document} {p : Pattern} (h : d.pattern? = some p) :
    ∃ source, d = .string source ∧ Pattern.compile source = .ok p := by
  cases d with
  | string source => exact ⟨source, rfl, eq_ok_of_toOption h⟩
  | _ => cases h

end Document

/-- What a keyword holds is read. -/
theorem Filled.read {α : Type} {entries : List (String × Document)} {own : String}
    {read : Document → Option α} {old new : α} (h : Filled entries α own read old new)
    {d : Document} (hd : entries.lookup own = some d) : read d = some new := by
  unfold Filled at h
  rw [hd] at h
  exact h

theorem Filled.isSome {α : Type} {entries : List (String × Document)} {own : String}
    {read : Document → Option α} {old new : Option α}
    (h : Filled entries (Option α) own (fun d => (read d).map some) old new)
    {d : Document} (hd : entries.lookup own = some d) : (read d).isSome = true := by
  have hread := h.read hd
  obtain ⟨value, hvalue, -⟩ := Option.map_eq_some_iff.mp hread
  rw [hvalue]
  rfl

namespace Schema

section Readable

variable {V : Document → Schema → Prop} {entries : List (String × Document)} {s : Schema}
  (h : FromKeywords V entries s) (hd : (Document.object entries).keysDistinct = true)
  (hr : entries.lookup "$ref" = none) (hV : ∀ d t, V d t → ∃ f l, compileNode f l d = .ok t)

include h

/-- Whatever stands for the elements of a list is one schema. -/
theorem FromKeywords.isArray_eq_false (hV : ∀ d t, V d t → ∃ f l, compileNode f l d = .ok t)
    {d : Document} (hl : entries.lookup "items" = some d) : d.isArray = false := by
  obtain ⟨t, ht⟩ := exists_of_optionRel h.items hl
  obtain ⟨f, l, hc⟩ := hV d t ht
  rw [compileNode.eq_def] at hc
  cases d with
  | array items => cases hc
  | _ => rfl

/-- Objects are not closed. -/
theorem FromKeywords.truth?_ne_false (hV : ∀ d t, V d t → ∃ f l, compileNode f l d = .ok t)
    {d : Document} (hl : entries.lookup "additionalProperties" = some d) :
    d.truth? ≠ some false := by
  intro hfalse
  have hextra : extra? entries = some d := by
    rw [extra?, hl, Option.filter_some, hfalse]
    rfl
  obtain ⟨t, ht⟩ := exists_of_optionRel h.additional hextra
  obtain ⟨f, l, hc⟩ := hV d t ht
  rw [compileNode.eq_def] at hc
  cases d with
  | bool b =>
    cases hfalse
    cases hc
  | _ => cases hfalse

theorem FromKeywords.entries?_isSome {d : Document} (hl : entries.lookup "properties" = some d) :
    d.entries?.isSome = true := by
  obtain ⟨declared, hdeclared, -⟩ := h.declared
  rw [declared?, hl] at hdeclared
  cases d with
  | object declared => rfl
  | _ => cases hdeclared

include hd hr hV

/-- Every keyword holds a value of the shape that it asks for. -/
theorem FromKeywords.fits {keyword : String} {value : Document} (hm : (keyword, value) ∈ entries) :
    value.fits keyword = true := by
  have hl := Document.lookup_of_keysDistinct hd hm
  unfold Document.fits
  split
  · cases hr.symm.trans hl
  · obtain ⟨types, htypes⟩ := Option.isSome_iff_exists.mp (h.checks.types.isSome hl)
    obtain ⟨names, hnames, -⟩ := Document.exists_of_typeSet? htypes
    rw [hnames]
    rfl
  · rw [h.checks.required.read hl]
    rfl
  · exact h.entries?_isSome hl
  · exact decide_eq_true (h.truth?_ne_false hV hl)
  · rw [h.isArray_eq_false hV hl]
    rfl
  · obtain ⟨p, hp⟩ := Option.isSome_iff_exists.mp (h.checks.pattern.isSome hl)
    obtain ⟨source, rfl, -⟩ := Document.exists_of_pattern? hp
    rfl
  · have hlisted := h.checks.enumeration.isSome hl
    rwa [Document.listed?, Option.isSome_map] at hlisted
  · exact h.checks.minimum.isSome hl
  · exact h.checks.maximum.isSome hl
  · exact h.checks.minLength.isSome hl
  · exact h.checks.maxLength.isSome hl
  · exact h.checks.minItems.isSome hl
  · exact h.checks.maxItems.isSome hl
  · rfl

/-- An object from which a schema is read has no fault of its own. -/
theorem FromKeywords.not_ownFault {l : Location} {e : SchemaError} :
    ¬OwnFault l (.object entries) e := by
  intro hfault
  cases hfault with
  | noSchema _ ho => exact ho entries rfl
  | misshapen _ hm hf => exact absurd (h.fits hd hr hV hm) (by simp [hf])
  | unknownType hm hn hname hu =>
    obtain ⟨types, htypes⟩ := Option.isSome_iff_exists.mp
      (h.checks.types.isSome (Document.lookup_of_keysDistinct hd hm))
    obtain ⟨names, hnames, hknown⟩ := Document.exists_of_typeSet? htypes
    cases hn.symm.trans hnames
    exact absurd (hknown _ hname) (by simp [hu])
  | invalidPattern hm hc =>
    obtain ⟨p, hp⟩ := Option.isSome_iff_exists.mp
      (h.checks.pattern.isSome (Document.lookup_of_keysDistinct hd hm))
    obtain ⟨source, hsource, hok⟩ := Document.exists_of_pattern? hp
    cases hsource
    cases hc.symm.trans hok

end Readable

/-- **An object compiles to the schema that is read from its keywords**, if the documents inside
compile to the schemas inside. -/
theorem compileNode_of_fromKeywords {V : Document → Schema → Prop} {follow : Follow} {l : Location}
    {entries : List (String × Document)} {s : Schema}
    (hd : (Document.object entries).keysDistinct = true) (hr : entries.lookup "$ref" = none)
    (h : FromKeywords V entries s)
    (hV : ∀ d t, V d t → ∀ k : Location, k.document = l.document →
      compileNode follow k d = .ok t) : compileNode follow l (.object entries) = .ok s := by
  cases hc : compileNode follow l (.object entries) with
  | ok t =>
    have hread := compileNode_fromKeywords (Document.keysDistinct_object.mp hd).1 hr hc
    refine congrArg Except.ok (hread.unique h fun d s t hs ht => ?_)
    obtain ⟨k, hk, hs⟩ := hs
    exact Except.ok.inj (hs.symm.trans (hV d t ht k hk))
  | error e =>
    rcases compileNode_error hc with hown | ⟨_, heq, ⟨_, hsome, -⟩ | ⟨-, l', d', hi, he⟩⟩
    · exact absurd hown (h.not_ownFault hd hr fun d t ht => ⟨follow, l, hV d t ht l rfl⟩)
    · cases heq
      cases hr.symm.trans hsome
    · cases heq
      obtain ⟨t, ht⟩ := h.exists_of_mem (Library.mem_insides_of_inside hd hi)
      cases he.symm.trans (hV d' t ht l' hi.document)

end Schema

end ManifestCheck
