import ManifestCheck.Proofs.Document.DistinctKeys
import ManifestCheck.Proofs.Outcome
import ManifestCheck.Schema.Compilation

/-!
# Keywords and the fields they fill

Compiling a schema goes through the keywords in the order of the text and changes one field of the
schema for each.  Where no keyword comes twice the result can be told from look-ups alone: a field
is what its keyword holds, or what it was before if the keyword is absent
(`compileKeywords_filled`).

`AddsKeyword` and `readCheck_sets` say everything that one keyword can do, and the `_cons_ok` lemmas
what a list of them does; nothing after them opens these definitions.
-/

namespace ManifestCheck

/-! ## What a value means under a keyword -/

namespace Document

/-- The text that a document is, if it is one. -/
def text? : Document → Option String
  | string s => some s
  | _ => none

/-- The texts of a list that holds nothing else. -/
def texts? : Document → Option (List String)
  | array items => items.mapM text?
  | _ => none

/-- The kinds that are named, one by itself or several in a list. -/
def typeSet? : Document → Option TypeSet
  | string name => (Kind.ofName? name).map fun k => TypeSet.ofList [k]
  | array (item :: items) =>
    ((item :: items).mapM text?).bind fun names => (names.mapM Kind.ofName?).map TypeSet.ofList
  | _ => none

/-- The pattern whose source a text is. -/
def pattern? : Document → Option Pattern
  | string source => (Pattern.compile source).toOption
  | _ => none

/-- The members of a list that is not empty. -/
def members? : Document → Option (List Document)
  | array (item :: items) => some (item :: items)
  | _ => none

/-- The values of a list that is not empty, each put together from what was read. -/
def listed? (d : Document) : Option (List Document) := d.members?.map assembleItems

def number? : Document → Option Number
  | number n => some n
  | _ => none

/-- The count that a number denotes, if its literal is a bare row of digits within 64 bits. -/
def count? (d : Document) : Option Nat := d.number?.bind Number.toUInt64?

end Document

namespace Schema

theorem allStrings_ok {fault : SchemaError} {items : List Document} {names : List String} :
    allStrings fault items = .ok names ↔ items.mapM Document.text? = some names := by
  induction items generalizing names with
  | nil => simp [allStrings]
  | cons d rest ih =>
    cases d with
    | string s =>
      rw [List.mapM_cons, allStrings]
      cases hr : allStrings fault rest with
      | ok more => simp [Document.text?, ih.mp hr]
      | error e => simp [Document.text?, eq_none_of_error (fun _ => ih) hr]
    | _ => simp [allStrings, Document.text?, List.mapM_cons]

theorem readKinds_ok {l : Location} {names : List String} {kinds : List Kind} :
    readKinds l names = .ok kinds ↔ names.mapM Kind.ofName? = some kinds := by
  induction names generalizing kinds with
  | nil => simp [readKinds]
  | cons name rest ih =>
    rw [List.mapM_cons, readKinds]
    cases Kind.ofName? name with
    | none => simp
    | some k =>
      cases hr : readKinds l rest with
      | ok more => simp [ih.mp hr]
      | error e => simp [eq_none_of_error (fun _ => ih) hr]

theorem readTypes_ok {l : Location} {d : Document} {types : TypeSet} :
    readTypes l d = .ok types ↔ d.typeSet? = some types := by
  have kinds : ∀ names : List String,
      ((readKinds l names).bind fun ks => .ok (TypeSet.ofList ks)) = .ok types ↔
        (names.mapM Kind.ofName?).map TypeSet.ofList = some types := by
    intro names
    cases hr : readKinds l names with
    | ok ks => simp [Except.bind, readKinds_ok.mp hr]
    | error e => simp [Except.bind, eq_none_of_error (fun _ => readKinds_ok) hr]
  cases d with
  | string name =>
    show ((readKinds l [name]).bind fun ks => .ok (TypeSet.ofList ks)) = .ok types ↔ _
    rw [kinds, Document.typeSet?]
    cases hk : Kind.ofName? name <;> simp [List.mapM_cons, hk]
  | array items =>
    cases items with
    | nil => constructor <;> (intro h; cases h)
    | cons item items =>
      show (allStrings _ (item :: items)).bind (fun names =>
        (readKinds l names).bind fun ks => .ok (TypeSet.ofList ks)) = .ok types ↔ _
      rw [Document.typeSet?]
      cases hr : allStrings (.invalidKeyword l "type" .onlyTypeNames) (item :: items) with
      | ok names => simp only [Except.bind, allStrings_ok.mp hr, Option.bind_some]; exact kinds names
      | error e => simp [Except.bind, eq_none_of_error (fun _ => allStrings_ok) hr]
  | _ => constructor <;> (intro h; cases h)

theorem readStrings_ok {l : Location} {keyword : String} {d : Document} {names : List String} :
    readStrings l keyword d = .ok names ↔ d.texts? = some names := by
  cases d with
  | array items => exact allStrings_ok
  | _ => constructor <;> (intro h; cases h)

theorem readPattern_ok {l : Location} {d : Document} {p : Pattern} :
    readPattern l d = .ok p ↔ d.pattern? = some p := by
  cases d with
  | string source =>
    rw [readPattern, Document.pattern?]
    cases Pattern.compile source with
    | ok q => simp [Except.toOption]
    | error e => simp [Except.toOption]
  | _ => constructor <;> (intro h; cases h)

theorem readMembers_ok {l : Location} {d : Document} {members : List Document} :
    readMembers l d = .ok members ↔ d.listed? = some members := by
  cases d with
  | array items => cases items <;> simp [readMembers, Document.listed?, Document.members?]
  | _ => constructor <;> (intro h; cases h)

theorem readNumber_ok {l : Location} {keyword : String} {d : Document} {n : Number} :
    readNumber l keyword d = .ok n ↔ d.number? = some n := by
  cases d with
  | number m => simp [readNumber, Document.number?]
  | _ => constructor <;> (intro h; cases h)

theorem readCount_ok {l : Location} {keyword : String} {d : Document} {k : Nat} :
    readCount l keyword d = .ok k ↔ d.count? = some k := by
  cases d with
  | number n =>
    simp only [readCount, Document.count?, Document.number?, Option.bind_some]
    cases n.toUInt64? <;> simp
  | _ => constructor <;> (intro h; cases h)

/-! ## What one keyword adds -/

/-- Everything that one keyword can add to a schema, where it is known what declarations and a
document inside compile to. -/
inductive AddsKeyword (l : Location) (declared : Except SchemaError (List (String × Schema)))
    (compiled : Location → Except SchemaError Schema) (d : Document) (s : Schema) :
    String → Schema → Prop where
  | properties {ps : List (String × Schema)} (hp : declared = .ok ps) :
    AddsKeyword l declared compiled d s "properties" (s.withProperties ps)
  | openObject (ht : d.truth? = some true) :
    AddsKeyword l declared compiled d s "additionalProperties" (s.withAdditional none)
  | additional {extra : Schema} (ht : d.truth? = none)
      (hx : compiled (l.child "additionalProperties") = .ok extra) :
    AddsKeyword l declared compiled d s "additionalProperties" (s.withAdditional (some extra))
  | items {each : Schema} (ha : d.isArray = false) (hx : compiled (l.child "items") = .ok each) :
    AddsKeyword l declared compiled d s "items" (s.withItems (some each))
  | check {keyword : String} {checks : Checks} (hp : keyword ≠ "properties")
      (ha : keyword ≠ "additionalProperties") (hi : keyword ≠ "items")
      (hc : readCheck l keyword d s.checks = .ok checks) :
    AddsKeyword l declared compiled d s keyword (s.withChecks fun _ => checks)

theorem addKeyword_ok_iff {l : Location} {declared : Unit → Except SchemaError (List (String × Schema))}
    {compiled : Location → Except SchemaError Schema} {keyword : String} {d : Document}
    {s t : Schema} :
    addKeyword l declared compiled keyword d s = .ok t ↔
      AddsKeyword l (declared ()) compiled d s keyword t := by
  constructor
  · intro h
    unfold addKeyword at h
    split at h
    case isTrue hk =>
      obtain ⟨ps, hp, rfl⟩ := map_ok h
      rw [hk]
      exact .properties hp
    case isFalse hp =>
      split at h
      case isTrue hk =>
        rw [hk] at h ⊢
        split at h
        · cases h
          exact .openObject ‹_›
        · cases h
        · obtain ⟨extra, hx, rfl⟩ := map_ok h
          exact .additional ‹_› hx
      case isFalse ha =>
        split at h
        case isTrue hk =>
          rw [hk] at h ⊢
          split at h
          · cases h
          · obtain ⟨each, hx, rfl⟩ := map_ok h
            exact .items (Bool.eq_false_iff.mpr ‹_›) hx
        case isFalse hi =>
          obtain ⟨checks, hc, rfl⟩ := map_ok h
          exact .check hp ha hi hc
  · intro h
    cases h with
    | properties hp => rw [addKeyword, if_pos rfl, hp]; rfl
    | openObject ht => rw [addKeyword, if_neg (by decide), if_pos rfl, ht]
    | additional ht hx => rw [addKeyword, if_neg (by decide), if_pos rfl, ht, hx]; rfl
    | items ha hx =>
      rw [addKeyword, if_neg (by decide), if_neg (by decide), if_pos rfl, ha,
        if_neg (by decide), hx]
      rfl
    | check hp ha hi hc => rw [addKeyword, if_neg hp, if_neg ha, if_neg hi, hc]; rfl

/-- The first of several keywords and the rest of them. -/
theorem compileKeywords_cons_ok {follow : Follow} {l : Location} {keyword : String} {d : Document}
    {rest : List (String × Document)} {s t : Schema} :
    compileKeywords follow l ((keyword, d) :: rest) s = .ok t ↔
      ∃ between, AddsKeyword l (compileDeclarations follow l d)
          (fun inside => compileNode follow inside d) d s keyword between ∧
        compileKeywords follow l rest between = .ok t := by
  rw [compileKeywords.eq_def]
  dsimp only
  cases hs : addKeyword l (fun _ => compileDeclarations follow l d)
      (fun inside => compileNode follow inside d) keyword d s with
  | error e =>
    constructor
    · intro h
      cases h
    · intro h
      obtain ⟨between, hb, -⟩ := h
      rw [addKeyword_ok_iff.mpr hb] at hs
      cases hs
  | ok between =>
    constructor
    · intro h
      exact ⟨between, addKeyword_ok_iff.mp hs, h⟩
    · intro h
      obtain ⟨other, hb, hr⟩ := h
      rw [addKeyword_ok_iff.mpr hb] at hs
      cases hs
      exact hr

/-- The first of several declared keys and the rest of them. -/
theorem compileProperties_cons_ok {follow : Follow} {l : Location} {key : String} {d : Document}
    {rest : List (String × Document)} {ps : List (String × Schema)} :
    compileProperties follow l ((key, d) :: rest) = .ok ps ↔
      ∃ s more, compileNode follow (l.child key) d = .ok s ∧
        compileProperties follow l rest = .ok more ∧ (key, s) :: more = ps := by
  rw [compileProperties.eq_def]
  dsimp only
  cases compileNode follow (l.child key) d with
  | error e => simp
  | ok s => cases compileProperties follow l rest <;> simp

end Schema

/-! ## The fields of a schema and their keywords -/

/-- How a field is related before and after some keywords, given the keyword it belongs to and how a
value under that keyword is read. -/
abbrev FieldRelation :=
  (α : Type) → (keyword : String) → (read : Document → Option α) → (old new : α) → Prop

/-- One keyword and its value: the field that belongs to it takes what is read from the value, and
every other one stays. -/
def Sets (keyword : String) (d : Document) : FieldRelation := fun _ own read old new =>
  if keyword = own then read d = some new else new = old

theorem Sets.own {α : Type} {keyword : String} {d : Document} {read : Document → Option α}
    {old new : α} (h : read d = some new) : Sets keyword d α keyword read old new := by
  rw [Sets, if_pos rfl]
  exact h

theorem Sets.other {α : Type} {keyword own : String} {d : Document} {read : Document → Option α}
    {value : α} (h : keyword ≠ own) : Sets keyword d α own read value value := by
  rw [Sets, if_neg h]

/-- Several keywords: a field takes what is read from the value under its keyword, and stays if that
keyword is absent. -/
def Filled (entries : List (String × Document)) : FieldRelation := fun _ own read old new =>
  match entries.lookup own with
  | none => new = old
  | some d => read d = some new

theorem Filled.cons {α : Type} {keyword own : String} {d : Document}
    {rest : List (String × Document)} {read : Document → Option α} {old between new : α}
    (hk : keyword ∉ Entries.keys rest) (h : Sets keyword d α own read old between)
    (hr : Filled rest α own read between new) :
    Filled ((keyword, d) :: rest) α own read old new := by
  unfold Sets at h
  unfold Filled at hr ⊢
  by_cases ho : keyword = own
  · -- nothing behind this keyword can change the field again
    subst ho
    rw [Entries.lookup_eq_none_iff_not_mem_keys.mpr hk] at hr
    rw [if_pos rfl] at h
    rw [List.lookup_cons_self, hr]
    exact h
  · have hb : (own == keyword) = false := beq_false_of_ne fun he => ho he.symm
    rw [if_neg ho] at h
    rw [List.lookup_cons, hb, ← h]
    exact hr

theorem Filled.unique {α : Type} {entries : List (String × Document)} {own : String}
    {read : Document → Option α} {old new new' : α} (h : Filled entries α own read old new)
    (h' : Filled entries α own read old new') : new = new' := by
  unfold Filled at h h'
  cases hd : entries.lookup own with
  | none =>
    rw [hd] at h h'
    exact Eq.trans h h'.symm
  | some d =>
    rw [hd] at h h'
    exact Option.some.inj (Eq.trans h.symm h')

/-- Checks before and after some keywords, field by field. -/
structure Checks.ByKeyword (R : FieldRelation) (old new : Checks) : Prop where
  types : R _ "type" (fun d => d.typeSet?.map some) old.types new.types
  required : R _ "required" Document.texts? old.required new.required
  pattern : R _ "pattern" (fun d => d.pattern?.map some) old.pattern new.pattern
  enumeration : R _ "enum" (fun d => d.listed?.map some) old.enumeration new.enumeration
  minimum : R _ "minimum" (fun d => d.number?.map some) old.minimum new.minimum
  maximum : R _ "maximum" (fun d => d.number?.map some) old.maximum new.maximum
  minLength : R _ "minLength" (fun d => d.count?.map some) old.minLength new.minLength
  maxLength : R _ "maxLength" (fun d => d.count?.map some) old.maxLength new.maxLength
  minItems : R _ "minItems" (fun d => d.count?.map some) old.minItems new.minItems
  maxItems : R _ "maxItems" (fun d => d.count?.map some) old.maxItems new.maxItems

theorem Checks.ByKeyword.unique {entries : List (String × Document)} {old new new' : Checks}
    (h : ByKeyword (Filled entries) old new) (h' : ByKeyword (Filled entries) old new') :
    new = new' := by
  obtain ⟨t, r, p, e, m₁, m₂, l₁, l₂, i₁, i₂⟩ := h
  obtain ⟨t', r', p', e', m₁', m₂', l₁', l₂', i₁', i₂'⟩ := h'
  cases new
  cases new'
  rw [Checks.mk.injEq]
  exact ⟨t.unique t', r.unique r', p.unique p', e.unique e', m₁.unique m₁', m₂.unique m₂',
    l₁.unique l₁', l₂.unique l₂', i₁.unique i₁', i₂.unique i₂'⟩

/-- A schema before and after some keywords at a place, field by field. -/
structure Schema.ByKeyword (R : FieldRelation) (follow : Follow) (l : Location)
    (old new : Schema) : Prop where
  checks : Checks.ByKeyword R old.checks new.checks
  properties : R _ "properties" (fun d => (compileDeclarations follow l d).toOption)
    old.properties new.properties
  additional : R _ "additionalProperties"
    (fun d => if d.truth? = some true then some none
      else (compileNode follow (l.child "additionalProperties") d).toOption.map some)
    old.additional new.additional
  items : R _ "items" (fun d => (compileNode follow (l.child "items") d).toOption.map some)
    old.items new.items

theorem Checks.ByKeyword.cons {keyword : String} {d : Document} {rest : List (String × Document)}
    {old between new : Checks} (hk : keyword ∉ Entries.keys rest)
    (h : ByKeyword (Sets keyword d) old between) (hr : ByKeyword (Filled rest) between new) :
    ByKeyword (Filled ((keyword, d) :: rest)) old new where
  types := .cons hk h.types hr.types
  required := .cons hk h.required hr.required
  pattern := .cons hk h.pattern hr.pattern
  enumeration := .cons hk h.enumeration hr.enumeration
  minimum := .cons hk h.minimum hr.minimum
  maximum := .cons hk h.maximum hr.maximum
  minLength := .cons hk h.minLength hr.minLength
  maxLength := .cons hk h.maxLength hr.maxLength
  minItems := .cons hk h.minItems hr.minItems
  maxItems := .cons hk h.maxItems hr.maxItems

namespace Schema

/-- **What one keyword does to the checks.** -/
theorem readCheck_sets {l : Location} {keyword : String} {d : Document} {c c' : Checks}
    (h : readCheck l keyword d c = .ok c') : Checks.ByKeyword (Sets keyword d) c c' := by
  unfold readCheck at h
  split at h
  case h_11 =>
    cases h
    constructor <;> simp_all [Sets]
  all_goals
    obtain ⟨value, hv, hc⟩ := bind_ok h
    cases hc
  case h_1 => rw [readTypes_ok] at hv; constructor <;> simp [Sets, hv]
  case h_2 => rw [readStrings_ok] at hv; constructor <;> simp [Sets, hv]
  case h_3 => rw [readPattern_ok] at hv; constructor <;> simp [Sets, hv]
  case h_4 => rw [readMembers_ok] at hv; constructor <;> simp [Sets, hv]
  case h_5 => rw [readNumber_ok] at hv; constructor <;> simp [Sets, hv]
  case h_6 => rw [readNumber_ok] at hv; constructor <;> simp [Sets, hv]
  all_goals rw [readCount_ok] at hv; constructor <;> simp [Sets, hv]

/-- A keyword that does not belong to the checks leaves them as they are. -/
theorem byKeyword_sets_self {keyword : String} {d : Document} (c : Checks)
    (h : keyword ∉ ["type", "required", "pattern", "enum", "minimum", "maximum", "minLength",
      "maxLength", "minItems", "maxItems"]) : Checks.ByKeyword (Sets keyword d) c c := by
  constructor <;> simp_all [Sets]

/-- **What one keyword does to a schema**, field by field. -/
theorem AddsKeyword.sets {follow : Follow} {l : Location} {keyword : String} {d : Document}
    {s t : Schema}
    (h : AddsKeyword l (compileDeclarations follow l d) (fun inside => compileNode follow inside d)
      d s keyword t) : Schema.ByKeyword (Sets keyword d) follow l s t := by
  cases s
  cases h with
  | properties hp =>
    exact ⟨byKeyword_sets_self _ (by decide), Sets.own (by rw [hp]; rfl), Sets.other (by decide),
      Sets.other (by decide)⟩
  | openObject ht =>
    exact ⟨byKeyword_sets_self _ (by decide), Sets.other (by decide),
      Sets.own (by rw [ht, if_pos rfl]; rfl), Sets.other (by decide)⟩
  | additional ht hx =>
    exact ⟨byKeyword_sets_self _ (by decide), Sets.other (by decide),
      Sets.own (by rw [ht, if_neg (by decide), hx]; rfl), Sets.other (by decide)⟩
  | items _ hx =>
    exact ⟨byKeyword_sets_self _ (by decide), Sets.other (by decide), Sets.other (by decide),
      Sets.own (by rw [hx]; rfl)⟩
  | check hp ha hi hc =>
    exact ⟨readCheck_sets hc, Sets.other hp, Sets.other ha, Sets.other hi⟩

theorem ByKeyword.cons {keyword : String} {d : Document} {rest : List (String × Document)}
    {follow : Follow} {l : Location} {old between new : Schema} (hk : keyword ∉ Entries.keys rest)
    (h : ByKeyword (Sets keyword d) follow l old between)
    (hr : ByKeyword (Filled rest) follow l between new) :
    ByKeyword (Filled ((keyword, d) :: rest)) follow l old new where
  checks := .cons hk h.checks hr.checks
  properties := .cons hk h.properties hr.properties
  additional := .cons hk h.additional hr.additional
  items := .cons hk h.items hr.items

/-- **What all keywords of an object do.**  Every field is told from the value under its own keyword
and is left alone where that is absent; the order of the keywords does not matter. -/
theorem compileKeywords_filled {follow : Follow} {l : Location}
    {entries : List (String × Document)} {s t : Schema} (hn : (Entries.keys entries).Nodup)
    (h : compileKeywords follow l entries s = .ok t) :
    ByKeyword (Filled entries) follow l s t := by
  induction entries generalizing s with
  | nil =>
    rw [compileKeywords.eq_def] at h
    cases h
    exact ⟨⟨rfl, rfl, rfl, rfl, rfl, rfl, rfl, rfl, rfl, rfl⟩, rfl, rfl, rfl⟩
  | cons e rest ih =>
    obtain ⟨keyword, d⟩ := e
    rw [Entries.keys_cons, List.nodup_cons] at hn
    obtain ⟨between, hb, hr⟩ := compileKeywords_cons_ok.mp h
    exact .cons hn.1 hb.sets (ih hn.2 hr)

end Schema

end ManifestCheck
