import ManifestCheck.Proofs.Number.ValueComparison
import ManifestCheck.Proofs.Schema.CompositionalReport
import ManifestCheck.Proofs.Schema.LiteralNumbers

/-!
# The nodes of compiled schemas

A compiled schema is a tree, and each of its nodes was made from one object of a schema document, with
what references lead to put in their places.  What the keywords of that object say is what the node
holds (`Schema.MadeFrom`): the kinds that are listed, in listing order and each once, the declared names
in their order, values of which none repeats a key, and bounds that compare with every number that can
be loaded.  Main result:

* `Library.compile_madeFrom`: this is so of every node of every schema that compiles, whatever place of
  which document the node belongs to.
-/

namespace ManifestCheck

open Relation

/-! ## Documents of schemas -/

namespace Document

/-- What every value of the format is, read from a text or put together otherwise: no object has two
entries under one key, and the literal of a number is a numeral. -/
structure IsJson (d : Document) : Prop where
  keysDistinct : d.keysDistinct = true
  isNumeral : ∀ p n, d.at? p = some (.number n) → Number.IsNumeral n.literal.toList

theorem isJson_of_numbersLiteral {d : Document} (hd : d.keysDistinct = true)
    (h : d.NumbersLiteral) : d.IsJson := by
  refine ⟨hd, fun p n hp => ?_⟩
  exact (numbersLiteral_number.mp (h.at? hp)).isNumeral

theorem isJson_of_read {bytes : List UInt8} {d : Document} (h : read bytes = .ok d) : d.IsJson :=
  isJson_of_numbersLiteral (keysDistinct_of_read h) (numbersLiteral_of_read h)

theorem isJson_of_load {l : Loader} {bytes : List UInt8} {d : Document} (h : l.load bytes = .ok d) :
    d.IsJson :=
  isJson_of_read (Loader.load_eq_ok_iff.mp h).1

namespace IsJson

variable {d inner : Document}

theorem child? {step : Segment} (h : d.IsJson) (hi : d.child? step = some inner) : inner.IsJson := by
  refine ⟨keysDistinct_child? h.keysDistinct hi, fun p n hp => ?_⟩
  refine h.isNumeral (step :: p) n ?_
  rw [Document.at?, hi]
  exact hp

theorem entry {entries : List (String × Document)} {e : String × Document}
    (h : (object entries).IsJson) (he : e ∈ entries) : e.2.IsJson :=
  h.child? (show (object entries).child? (.key e.1) = some e.2 from
    lookup_of_keysDistinct h.keysDistinct he)

theorem step? {step : List Char} (h : d.IsJson) (hi : d.step? step = some inner) :
    inner.IsJson := by
  cases d with
  | object entries => exact h.entry (Entries.mem_of_lookup hi)
  | array items =>
    obtain ⟨i, -, hi⟩ := Option.bind_eq_some_iff.mp hi
    exact h.child? (show (array items).child? (.index i) = some inner from hi)
  | _ => cases hi

theorem of_mem_insides {entries : List (String × Document)} (h : (object entries).IsJson)
    (hd : d ∈ Schema.insides entries) : d.IsJson := by
  obtain ⟨e, he, rfl | ⟨inner, hi, e', he', rfl⟩⟩ := Schema.mem_insides hd
  · exact h.entry he
  · exact (hi ▸ h.entry he : (object inner).IsJson).entry he'

end IsJson

end Document

namespace Library

variable {lib : Library}

/-- The documents of a library are values of the format. -/
def IsJson (lib : Library) : Prop := ∀ e ∈ lib.documents, e.2.IsJson

theorem IsJson.keysDistinct (h : lib.IsJson) : lib.KeysDistinct := fun e he => (h e he).keysDistinct

theorem IsJson.find? {l : Location} {d : Document} (h : lib.IsJson) (hf : lib.find? l = some d) :
    d.IsJson := by
  obtain ⟨root, hr, hp⟩ := Option.bind_eq_some_iff.mp hf
  exact Document.pointer?_invariant (fun _ _ _ hd hi => hd.step? hi)
    (h _ (Entries.mem_of_lookup hr)) hp

/-- All that was read from texts is. -/
theorem isJson_ofTexts {texts : List (String × String)} (h : ofTexts texts = .ok lib) :
    lib.IsJson :=
  ofTexts_invariant (fun _ _ => Document.isJson_of_read) h

end Library

/-! ## Sets of kinds -/

theorem map_eq_of_mapM {α β : Type} {f : α → Option β} {xs : List α} {ys : List β}
    (h : xs.mapM f = some ys) : xs.map f = ys.map some := by
  induction xs generalizing ys with
  | nil =>
    cases h
    rfl
  | cons x xs ih =>
    rw [List.mapM_cons] at h
    obtain ⟨y, hy, h⟩ := Option.bind_eq_some_iff.mp h
    obtain ⟨rest, hrest, h⟩ := Option.bind_eq_some_iff.mp h
    cases h
    rw [List.map_cons, List.map_cons, hy, ih hrest]

/-- What is found for the elements of a list, if something is found for each. -/
theorem mem_of_mapM {α β : Type} {f : α → Option β} {xs : List α} {ys : List β}
    (h : xs.mapM f = some ys) (y : β) : y ∈ ys ↔ ∃ x ∈ xs, f x = some y := by
  rw [← List.mem_map, map_eq_of_mapM h]
  simp

theorem ne_nil_of_mapM {α β : Type} {f : α → Option β} {xs : List α} {ys : List β}
    (h : xs.mapM f = some ys) (hne : xs ≠ []) : ys ≠ [] := by
  rintro rfl
  exact hne (List.map_eq_nil_iff.mp (map_eq_of_mapM h))

namespace Kind

theorem ofName?_eq_some_iff {text : String} {k : Kind} : ofName? text = some k ↔ text = k.name := by
  constructor
  · exact fun h => (name_of_ofName? h).symm
  · rintro rfl
    exact ofName?_name k

theorem name_injective {j k : Kind} (h : j.name = k.name) : j = k :=
  Option.some.inj ((ofName?_name j).symm.trans (ofName?_eq_some_iff.mpr h))

end Kind

namespace TypeSet

theorem mem_ofList {kinds : List Kind} {k : Kind} : k ∈ (ofList kinds).kinds ↔ k ∈ kinds := by
  simp [ofList, Kind.mem_all]

/-- A set lists its kinds in their order and each once. -/
theorem ofList_ascending (kinds : List Kind) :
    (ofList kinds).kinds.Pairwise fun j k => j.rank < k.rank := by
  have hall : Kind.all.Pairwise fun j k => j.rank < k.rank := by decide
  exact hall.filter _

theorem ofList_ne_nil {kinds : List Kind} (h : kinds ≠ []) : (ofList kinds).kinds ≠ [] := by
  obtain ⟨k, hk⟩ := List.exists_mem_of_ne_nil kinds h
  exact List.ne_nil_of_mem (mem_ofList.mpr hk)

theorem accepts_iff_mem {s : TypeSet} {k : Kind} :
    s.accepts k = true ↔ k ∈ s.kinds ∨ k = .integer ∧ .number ∈ s.kinds := by
  simp [accepts]

end TypeSet

namespace Document

/-- A value names a kind, by itself or in a list. -/
def NamesKind (d : Document) (k : Kind) : Prop :=
  d = .string k.name ∨ ∃ names, d = .array names ∧ .string k.name ∈ names

theorem namesKind_string {name : String} {k : Kind} : (string name).NamesKind k ↔ name = k.name := by
  simp [NamesKind]

theorem namesKind_array {names : List Document} {k : Kind} :
    (array names).NamesKind k ↔ .string k.name ∈ names := by
  simp [NamesKind]

theorem text?_eq_some_iff {d : Document} {text : String} :
    d.text? = some text ↔ d = .string text := by
  cases d <;> simp [text?]

/-- The set under a keyword holds just the kinds that are named, one at least. -/
theorem typeSet?_spec {d : Document} {types : TypeSet} (h : d.typeSet? = some types) :
    types.kinds ≠ [] ∧ (types.kinds.Pairwise fun j k => j.rank < k.rank) ∧
      ∀ k, k ∈ types.kinds ↔ d.NamesKind k := by
  have named : ∃ kinds, kinds ≠ [] ∧ types = TypeSet.ofList kinds ∧
      ∀ k, k ∈ kinds ↔ d.NamesKind k := by
    unfold typeSet? at h
    split at h
    · rename_i name
      obtain ⟨kind, hkind, rfl⟩ := Option.map_eq_some_iff.mp h
      refine ⟨[kind], List.cons_ne_nil _ _, rfl, fun k => ?_⟩
      rw [Kind.ofName?_eq_some_iff] at hkind
      rw [List.mem_singleton, namesKind_string, hkind]
      exact ⟨fun hk => congrArg _ hk.symm, fun hk => (Kind.name_injective hk).symm⟩
    · rename_i item items
      obtain ⟨names, hnames, h⟩ := Option.bind_eq_some_iff.mp h
      obtain ⟨kinds, hkinds, rfl⟩ := Option.map_eq_some_iff.mp h
      refine ⟨kinds, ne_nil_of_mapM hkinds (ne_nil_of_mapM hnames (List.cons_ne_nil _ _)), rfl,
        fun k => ?_⟩
      rw [mem_of_mapM hkinds, namesKind_array]
      simp only [mem_of_mapM hnames, Kind.ofName?_eq_some_iff, text?_eq_some_iff]
      constructor
      · rintro ⟨_, ⟨_, hd, rfl⟩, rfl⟩
        exact hd
      · exact fun hk => ⟨_, ⟨_, hk, rfl⟩, rfl⟩
    · cases h
  obtain ⟨kinds, hne, rfl, hkinds⟩ := named
  exact ⟨TypeSet.ofList_ne_nil hne, TypeSet.ofList_ascending kinds,
    fun k => TypeSet.mem_ofList.trans (hkinds k)⟩

/-- A schema document lists a kind under `type`. -/
def ListsKind (d : Document) (k : Kind) : Prop := ∃ v, d.get? "type" = some v ∧ v.NamesKind k

/-- The keys that a schema document declares, in their order. -/
def declaredNames (d : Document) : List String :=
  match d.get? "properties" with
  | some (.object declared) => Entries.keys declared
  | _ => []

end Document

/-! ## One node -/

/-- A bound is a numeral, and no number of a document that a loader lets in is beyond comparison with
it. -/
structure Number.IsBound (bound : Number) : Prop where
  isNumeral : Number.IsNumeral bound.literal.toList
  compares : ∀ (l : Loader) (bytes : List UInt8) (d : Document) (p : Path) (n : Number),
    l.load bytes = .ok d → d.at? p = some (.number n) → ∃ o, n.compare? bound = some o

theorem Number.isBound_of_isNumeral {bound : Number} (h : IsNumeral bound.literal.toList) :
    bound.IsBound := by
  refine ⟨h, fun l bytes d p n hd hn => ?_⟩
  obtain ⟨A, hA⟩ := isNumeral_iff.mp ((Document.isJson_of_load hd).isNumeral p n hn)
  obtain ⟨B, hB⟩ := isNumeral_iff.mp h
  obtain ⟨o, ho, -⟩ := exists_compare? hA hB
  exact ⟨o, ho⟩

/-- A field that may be absent holds what its keyword says, and is absent just if the keyword is. -/
theorem Filled.eq_bind {α : Type} {entries : List (String × Document)} {own : String}
    {read : Document → Option α} {value : Option α}
    (h : Filled entries (Option α) own (fun d => (read d).map some) none value) :
    value = (entries.lookup own).bind read ∧ value.isSome = (entries.lookup own).isSome := by
  unfold Filled at h
  split at h
  · rename_i hnone
    rw [hnone, h]
    exact ⟨rfl, rfl⟩
  · rename_i d hd
    obtain ⟨a, ha, rfl⟩ := Option.map_eq_some_iff.mp h
    rw [hd]
    exact ⟨ha.symm, rfl⟩

/-- The values that are listed: some, and none of them repeats a key. -/
theorem Document.keysDistinct_listed? {d : Document} {options : List Document}
    (hd : d.keysDistinct = true) (h : d.listed? = some options) :
    options ≠ [] ∧ ∀ o ∈ options, o.keysDistinct = true := by
  obtain ⟨members, hm, rfl⟩ := Option.map_eq_some_iff.mp h
  unfold Document.members? at hm
  split at hm
  · rename_i item items
    cases hm
    have hitems : assembleItems (item :: items) = item :: items := by
      rw [assembleItems_eq_map, List.map_congr_left fun o ho =>
        assemble_eq_self (keysDistinct_array.mp hd o ho), List.map_id']
    rw [hitems]
    exact ⟨List.cons_ne_nil _ _, keysDistinct_array.mp hd⟩
  · cases hm

namespace Schema

/-- A node was made from a schema document: it has the checks and the names of its keywords, and these
are in the form on which checking values rests. -/
structure MadeFrom (d : Document) (t : Schema) : Prop where
  types_isSome : t.checks.types.isSome = (d.get? "type").isSome
  types : ∀ types ∈ t.checks.types, types.kinds ≠ [] ∧
    (types.kinds.Pairwise fun j k => j.rank < k.rank) ∧
    ∀ k, types.accepts k = true ↔ d.ListsKind k ∨ k = .integer ∧ d.ListsKind .number
  names : Entries.keys t.properties = d.declaredNames
  names_nodup : (Entries.keys t.properties).Nodup
  enumeration_isSome : t.checks.enumeration.isSome = (d.get? "enum").isSome
  enumeration : ∀ options ∈ t.checks.enumeration, options ≠ [] ∧
    ∀ o ∈ options, o.keysDistinct = true
  minimum_isSome : t.checks.minimum.isSome = (d.get? "minimum").isSome
  minimum : ∀ bound ∈ t.checks.minimum, bound.IsBound
  maximum_isSome : t.checks.maximum.isSome = (d.get? "maximum").isSome
  maximum : ∀ bound ∈ t.checks.maximum, bound.IsBound

/-- The truth value `true` has no keywords, and its schema asks nothing. -/
theorem madeFrom_any : any.MadeFrom (.bool true) where
  types_isSome := rfl
  types := nofun
  names := rfl
  names_nodup := List.nodup_nil
  enumeration_isSome := rfl
  enumeration := nofun
  minimum_isSome := rfl
  minimum := nofun
  maximum_isSome := rfl
  maximum := nofun

theorem isBound_of_filled {entries : List (String × Document)} {keyword : String}
    {value : Option Number} {bound : Number} (hd : (Document.object entries).IsJson)
    (hf : Filled entries (Option Number) keyword (fun d => d.number?.map some) none value)
    (hb : bound ∈ value) : bound.IsBound := by
  obtain ⟨v, hv, hread⟩ := Option.bind_eq_some_iff.mp (hf.eq_bind.1 ▸ hb)
  have hjson : v.IsJson := hd.entry (Entries.mem_of_lookup hv)
  unfold Document.number? at hread
  split at hread
  · cases hread
    exact Number.isBound_of_isNumeral (hjson.isNumeral [] _ rfl)
  · cases hread

section Fields

variable {U : Document → Schema → Prop} {entries : List (String × Document)} {s : Schema}
  (hd : (Document.object entries).IsJson) (h : FromKeywords U entries s)

include h

theorem types_of_fromKeywords {types : TypeSet} (ht : types ∈ s.checks.types) :
    types.kinds ≠ [] ∧ (types.kinds.Pairwise fun j k => j.rank < k.rank) ∧
      ∀ k, types.accepts k = true ↔ (Document.object entries).ListsKind k ∨
        k = .integer ∧ (Document.object entries).ListsKind .number := by
  obtain ⟨v, hv, hread⟩ := Option.bind_eq_some_iff.mp (h.checks.types.eq_bind.1 ▸ ht)
  obtain ⟨hne, hascending, hkinds⟩ := Document.typeSet?_spec hread
  have hlists : ∀ k, k ∈ types.kinds ↔ (Document.object entries).ListsKind k := by
    intro k
    rw [hkinds]
    constructor
    · exact fun hk => ⟨v, hv, hk⟩
    · rintro ⟨v', hv', hk⟩
      cases hv.symm.trans hv'
      exact hk
  refine ⟨hne, hascending, fun k => ?_⟩
  rw [TypeSet.accepts_iff_mem, hlists, hlists]

theorem names_of_fromKeywords :
    Entries.keys s.properties = (Document.object entries).declaredNames := by
  obtain ⟨declared, hdeclared, hkeys, -⟩ := h.declared
  rw [hkeys]
  unfold declared? at hdeclared
  split at hdeclared
  · rename_i hnone
    cases hdeclared
    simp only [Document.declaredNames, Document.get?, hnone]
    rfl
  · rename_i found hfound
    cases hdeclared
    simp only [Document.declaredNames, Document.get?, hfound]
  · cases hdeclared

include hd

theorem names_nodup_of_fromKeywords : (Entries.keys s.properties).Nodup := by
  rw [names_of_fromKeywords h]
  unfold Document.declaredNames
  split
  · rename_i declared hfound
    have hdeclared : (Document.object declared).IsJson := hd.entry (Entries.mem_of_lookup hfound)
    exact (Document.keysDistinct_object.mp hdeclared.keysDistinct).1
  · exact List.nodup_nil

/-- **One node**: an object that is no reference gives a schema with just its keywords. -/
theorem madeFrom_of_fromKeywords : s.MadeFrom (.object entries) where
  types_isSome := h.checks.types.eq_bind.2
  types _ ht := types_of_fromKeywords h ht
  names := names_of_fromKeywords h
  names_nodup := names_nodup_of_fromKeywords hd h
  enumeration_isSome := h.checks.enumeration.eq_bind.2
  enumeration options ho := by
    obtain ⟨v, hv, hread⟩ := Option.bind_eq_some_iff.mp (h.checks.enumeration.eq_bind.1 ▸ ho)
    exact Document.keysDistinct_listed? (hd.entry (Entries.mem_of_lookup hv)).keysDistinct hread
  minimum_isSome := h.checks.minimum.eq_bind.2
  minimum _ hb := isBound_of_filled hd h.checks.minimum hb
  maximum_isSome := h.checks.maximum.eq_bind.2
  maximum _ hb := isBound_of_filled hd h.checks.maximum hb

end Fields

/-! ## All nodes -/

/-- The nodes of a tree: the whole of it, and the nodes of its parts. -/
def HasNode : Schema → Schema → Prop := ReflTransGen fun s t => t ∈ s.parts

end Schema

namespace Library

variable {lib : Library} {name : String} {d : Document} {s t : Schema}

/-- The node that stands somewhere in a compiled schema is what some place compiles to, a place that
is needed and is no reference itself, and was made from what stands there. -/
theorem Unfolds.exists_place (hlib : lib.IsJson) (h : lib.Unfolds name d s) (hd : d.IsJson)
    (ht : s.HasNode t) : ∃ x, ReflTransGen lib.Needs (name, d) x ∧ lib.Unfolds x.1 x.2 t ∧
      x.2.get? "$ref" = none ∧ t.MadeFrom x.2 := by
  induction h with
  | always =>
    rcases ReflTransGen.cases_head ht with rfl | ⟨part, hpart, -⟩
    · exact ⟨_, .refl, .always, rfl, Schema.madeFrom_any⟩
    · cases hpart
  | reference hr hl _ _ ih =>
    obtain ⟨-, hf⟩ := (leads_iff (l := ⟨_, ""⟩)).mp hl
    obtain ⟨x, hx, hplace⟩ := ih (hlib.find? hf) ht
    exact ⟨x, .head (.reference hr hl) hx, hplace⟩
  | keywords hr hk hu ih =>
    rcases ReflTransGen.cases_head ht with rfl | ⟨part, hpart, hnode⟩
    · exact ⟨_, .refl, .keywords hr hk hu, hr, Schema.madeFrom_of_fromKeywords hd hk⟩
    · obtain ⟨inner, hin, hinner⟩ := hk.exists_of_mem_parts hpart
      obtain ⟨x, hx, hplace⟩ := ih inner part hinner (hd.of_mem_insides hin) hnode
      exact ⟨x, .head (.inside hr hin) hx, hplace⟩

/-- **Every node of a compiled schema** is what one place compiles to, a place that is needed for the
document of the name and is no reference itself; and the node has just the checks and the names of the
keywords there.  A set of kinds is not empty, lists its kinds in their order and each once, and accepts
what is listed and integers where numbers are; no name is declared twice, and names have the order of
their declarations; some value is listed under `enum`, and none repeats a key; and every number that
can be loaded compares with the bounds. -/
theorem compile_madeFrom (hlib : lib.IsJson) (h : lib.compile name = .ok s) :
    ∃ root, lib.documents.lookup name = some root ∧ ∀ t, s.HasNode t →
      ∃ x, ReflTransGen lib.Needs (name, root) x ∧ lib.Unfolds x.1 x.2 t ∧
        x.2.get? "$ref" = none ∧ t.MadeFrom x.2 := by
  obtain ⟨root, hr, -, hu⟩ := unfolds_of_compile hlib.keysDistinct h
  have hroot : root.IsJson := hlib _ (Entries.mem_of_lookup hr)
  exact ⟨root, hr, fun t ht => hu.exists_place hlib hroot ht⟩

/-- A schema whose second name leads to another document. -/
def namedTexts : List (String × String) := [
  ("a", "\x7b\"type\":[\"string\",\"number\",\"string\"],\"properties\":\x7b" ++
    "\"size\":\x7b\"minimum\":1,\"maximum\":1E2\x7d,\"kind\":\x7b\"$ref\":\"b\"\x7d\x7d\x7d"),
  ("b", "\x7b\"enum\":[\"x\",\x7b\"y\":1,\"y\":2\x7d]\x7d")]

theorem compile_madeFrom_named : ∃ lib s, ofTexts namedTexts = .ok lib ∧ lib.compile "a" = .ok s ∧
    s.checks.types.map TypeSet.kinds = some [.number, .string] ∧
    Entries.keys s.properties = ["size", "kind"] ∧
    ∃ root, lib.documents.lookup "a" = some root ∧ ∀ t, s.HasNode t →
      ∃ x, ReflTransGen lib.Needs ("a", root) x ∧ lib.Unfolds x.1 x.2 t ∧
        x.2.get? "$ref" = none ∧ t.MadeFrom x.2 := by
  obtain ⟨s, hs, hfields⟩ := exists_ok_of_map (e := (ofTexts namedTexts).bind (·.compile "a"))
    (f := fun s => (s.checks.types.map TypeSet.kinds, Entries.keys s.properties))
    (b := (some [.number, .string], ["size", "kind"])) (by decide +kernel)
  obtain ⟨lib, hlib, hs⟩ := bind_ok hs
  obtain ⟨hkinds, hnames⟩ := Prod.mk.inj hfields
  exact ⟨lib, s, hlib, hs, hkinds, hnames, compile_madeFrom (isJson_ofTexts hlib) hs⟩

end Library

end ManifestCheck
