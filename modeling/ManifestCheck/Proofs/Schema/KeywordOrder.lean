import ManifestCheck.Proofs.Schema.AddedEntries
import ManifestCheck.Proofs.Schema.MirroredLibraries

/-!
# The order of keywords

Keywords are taken one after the other while a schema is compiled, with the schemas inside compiled
in between and the first fault ending all of it.  Even so nothing depends on their order.  Libraries
whose documents differ only in the order of entries compile to the same schemas (`Rearranged.compile`),
and so does a library in which an object has got an entry that is not looked at
(`compile_add_ignored`).  Two things are looked at in their order, or as a whole: the declared keys,
and the values of a list.

Both are libraries in which documents have grown and the objects that are read have kept their keywords
(`Library.Enlarges`), and such a library mirrors the one that it comes from.
-/

namespace ManifestCheck

/-! ## Objects that keep their keywords -/

theorem Document.Grown.outlines {d d' : Document} (h : d.Grown d') : d.Outlines d' := by
  induction d using Document.inductionOn generalizing d' with
  | array items ih =>
    cases h with
    | array hall => exact .array (((List.forall₂_and_left _ _).mpr ⟨ih, hall⟩).imp fun _ _ he =>
        he.1 he.2)
  | object entries _ =>
    cases h
    exact .object _ _
  | _ =>
    cases h
    constructor

namespace Schema

/-- Two objects list the same values and declare the same keys in the same order. -/
structure KeepsOrder (entries entries' : List (String × Document)) : Prop where
  listed : entries.lookup "enum" = entries'.lookup "enum"
  declared : ∀ declared declared', entries.lookup "properties" = some (.object declared) →
    entries'.lookup "properties" = some (.object declared') →
      Entries.keys declared = Entries.keys declared'

/-- The second object has no keywords but those of the first. -/
structure KeepsKeywords (entries entries' : List (String × Document)) : Prop
    extends KeepsOrder entries entries' where
  absent : ∀ keyword ∈ keywords, keyword ∉ Entries.keys entries → keyword ∉ Entries.keys entries'

variable {entries entries' : List (String × Document)}

theorem KeepsOrder.symm (h : KeepsOrder entries entries') : KeepsOrder entries' entries :=
  ⟨h.listed.symm, fun _ _ hd hd' => (h.declared _ _ hd' hd).symm⟩

theorem KeepsKeywords.refl (entries : List (String × Document)) : KeepsKeywords entries entries where
  listed := rfl
  declared _ _ hd hd' := by
    cases hd.symm.trans hd'
    rfl
  absent _ _ h := h

/-- An object that has grown without new keywords has the same keywords. -/
theorem KeepsKeywords.sameKeywords (h : KeepsKeywords entries entries')
    (hn : (Entries.keys entries').Nodup)
    (hgrown : (Document.object entries).Grown (.object entries')) : SameKeywords entries entries' where
  outline keyword hk := by
    cases hl : entries.lookup keyword with
    | none =>
      have hnone := h.absent keyword hk (Entries.lookup_eq_none_iff_not_mem_keys.mp hl)
      rw [Entries.lookup_eq_none_iff_not_mem_keys.mpr hnone]
      exact .none
    | some d =>
      obtain ⟨d', hl', hd⟩ := hgrown.lookup hn hl
      rw [hl']
      exact .some hd.outlines
  listed := h.listed
  declared := h.declared

end Schema

namespace Library

variable {lib lib' : Library} {name : String}

/-! ## Libraries whose documents have grown -/

/-- Whatever the documents of a library have at a place that compiling the document of a name comes by,
has grown in another library, and the objects that are read have kept their keywords.  Nothing is asked
of an object with a reference. -/
structure Enlarges (lib lib' : Library) (name : String) : Prop where
  grown : ∀ chain l d, lib.Expands name chain l d → ∃ d', lib'.find? l = some d' ∧ d.Grown d'
  kept : ∀ chain l entries entries', lib.Expands name chain l (.object entries) →
    entries.lookup "$ref" = none → lib'.find? l = some (.object entries') →
      Schema.KeepsKeywords entries entries'

/-- Places hold what is related if pointers find what is related in the documents of each name. -/
theorem find?_related {R : Document → Document → Prop}
    (h : ∀ n root, lib.documents.lookup n = some root → ∃ root', lib'.documents.lookup n = some root' ∧
      ∀ {steps d}, root.follow? steps = some d → ∃ d', root'.follow? steps = some d' ∧ R d d')
    {l : Location} {d : Document} (hf : lib.find? l = some d) :
    ∃ d', lib'.find? l = some d' ∧ R d d' := by
  obtain ⟨root, hroot, hpointer⟩ := Option.bind_eq_some_iff.mp hf
  obtain ⟨steps, hsteps, hfollow⟩ := Option.bind_eq_some_iff.mp hpointer
  obtain ⟨root', hroot', hrelated⟩ := h _ _ hroot
  obtain ⟨d', hd', hd⟩ := hrelated hfollow
  refine ⟨d', ?_, hd⟩
  rw [find?, hroot', Option.bind_some, Document.pointer?, hsteps]
  exact hd'

/-- Growing is the same as mirroring as far as compilation goes. -/
theorem Enlarges.mirroredBy (h : lib.Enlarges lib' name) (hlib' : lib'.KeysDistinct) :
    lib.MirroredBy lib' name := by
  intro chain l d hx hcompiles
  obtain ⟨allowed, s, hs⟩ := hcompiles
  obtain ⟨d', hd', hgrown⟩ := h.grown chain l d hx
  refine ⟨d', hd', ?_⟩
  have hkeys := keysDistinct_find? hlib' hd'
  rw [compileAt_eq, Schema.compileNode.eq_def] at hs
  cases hgrown with
  | bool b =>
    cases b with
    | true => exact .always
    | false => cases hs
  | @object entries old entries' hkept hall hsub =>
    have hgrown : (Document.object entries).Grown (.object entries') := .object hkept hall hsub
    have hn := (Document.keysDistinct_object.mp hkeys).1
    dsimp only at hs
    cases hr : entries.lookup "$ref" with
    | none =>
      have hsame := (h.kept chain l entries entries' hx hr hd').sameKeywords hn hgrown
      have hr' := hsame.outline "$ref" (by decide)
      rw [hr] at hr'
      generalize hl : entries'.lookup "$ref" = found at hr'
      cases hr'
      exact .keywords hr hl hsame
    | some value =>
      rw [hr] at hs
      obtain ⟨value', hr', hvalue⟩ := hgrown.lookup hn hr
      cases hvalue with
      | string reference => exact .reference hr hr'
      | _ => cases hs
  | _ => cases hs

/-- **A library whose documents have grown gives the same schema**, if what is read has kept its
keywords. -/
theorem Enlarges.compile (h : lib.Enlarges lib' name) (hlib : lib.KeysDistinct)
    (hlib' : lib'.KeysDistinct) {s : Schema} (hs : lib.compile name = .ok s) :
    lib'.compile name = .ok s :=
  compile_mirrored hlib hlib' (h.mirroredBy hlib') hs

/-- The same schema results where every place that compilation comes by holds the same. -/
theorem compile_of_found (hlib : lib.KeysDistinct) (hlib' : lib'.KeysDistinct)
    (h : ∀ chain l d, lib.Expands name chain l d → lib'.find? l = some d) {s : Schema}
    (hs : lib.compile name = .ok s) : lib'.compile name = .ok s := by
  have henlarges : lib.Enlarges lib' name := by
    refine ⟨fun chain l d hx => ⟨d, h chain l d hx, .refl d⟩, ?_⟩
    intro chain l entries entries' hx _ hf
    cases hf.symm.trans (h chain l _ hx)
    exact .refl entries
  exact henlarges.compile hlib hlib' hs

/-! ## Keywords in another order -/

/-- What is inside an object is inside the reordered object, at the same place. -/
theorem inside_reordered {l l' : Location} {entries entries' : List (String × Document)}
    {d : Document} (hd : (Document.object entries).keysDistinct = true)
    (h : (Document.object entries).Reordered (.object entries'))
    (hi : Schema.Inside l entries l' d) :
    ∃ d', Schema.Inside l entries' l' d' ∧ d.Reordered d' := by
  cases hi with
  | declared hp hm =>
    obtain ⟨_, hp', hdeclared⟩ := h.lookup hd (Document.lookup_of_keysDistinct hd hp)
    have hinner := (Document.keysDistinct_object.mp hd).2 _ hp
    cases hdeclared with
    | object hperm hkeys hall =>
      obtain ⟨d', hd', hreordered⟩ := Document.Reordered.lookup hinner (.object hperm hkeys hall)
        (Document.lookup_of_keysDistinct hinner hm)
      exact ⟨d', .declared (Entries.mem_of_lookup hp') (Entries.mem_of_lookup hd'), hreordered⟩
  | additional ha ht =>
    obtain ⟨d', ha', hreordered⟩ := h.lookup hd (Document.lookup_of_keysDistinct hd ha)
    exact ⟨d', .additional (Entries.mem_of_lookup ha') (hreordered.grown.outlines.truth? ▸ ht),
      hreordered⟩
  | items hm ha =>
    obtain ⟨d', hm', hreordered⟩ := h.lookup hd (Document.lookup_of_keysDistinct hd hm)
    exact ⟨d', .items (Entries.mem_of_lookup hm') (hreordered.grown.outlines.isArray ▸ ha),
      hreordered⟩

theorem lookup_none_reordered {entries entries' : List (String × Document)} {key : String}
    (hd : (Document.object entries).keysDistinct = true)
    (h : (Document.object entries).Reordered (.object entries'))
    (hl : entries.lookup key = none) : entries'.lookup key = none := by
  cases h with
  | object hp hkeys hall =>
    have hrel := Document.lookup_reordered hp (Entries.matched_of_keys hkeys hall)
      (Document.keysDistinct_object.mp hd).1 key
    rw [hl] at hrel
    generalize entries'.lookup key = found at hrel
    cases hrel
    rfl

/-- Two libraries hold the same documents but for the order of entries in their objects.  Where an
object is read while the document of a name is compiled, the values that it lists and the order of the
keys that it declares are the same in both. -/
structure Rearranged (lib lib' : Library) (name : String) : Prop where
  documents : ∀ n, Option.Rel Document.Reordered (lib.documents.lookup n) (lib'.documents.lookup n)
  kept : ∀ chain l entries entries', lib.Expands name chain l (.object entries) →
    entries.lookup "$ref" = none → lib'.find? l = some (.object entries') →
      Schema.KeepsOrder entries entries'

section Rearranged

variable (hlib : lib.KeysDistinct)
  (h : ∀ n, Option.Rel Document.Reordered (lib.documents.lookup n) (lib'.documents.lookup n))

include h

theorem exists_reordered {n : String} {d : Document} (hd : lib.documents.lookup n = some d) :
    ∃ d', lib'.documents.lookup n = some d' ∧ d.Reordered d' := by
  have hrel := h n
  rw [hd] at hrel
  generalize hfound : lib'.documents.lookup n = found at hrel
  cases hrel with
  | some hd' => exact ⟨_, rfl, hd'⟩

/-- Being reordered is mutual. -/
theorem documents_symm (n : String) :
    Option.Rel Document.Reordered (lib'.documents.lookup n) (lib.documents.lookup n) := by
  have hrel := h n
  generalize lib.documents.lookup n = d at hrel ⊢
  generalize lib'.documents.lookup n = d' at hrel ⊢
  cases hrel with
  | none => exact .none
  | some hd => exact .some hd.symm

include hlib

/-- A place holds the same in both libraries, reordered. -/
theorem find?_reordered {l : Location} {d : Document} (hf : lib.find? l = some d) :
    ∃ d', lib'.find? l = some d' ∧ d.Reordered d' := by
  refine find?_related (fun n root hroot => ?_) hf
  obtain ⟨root', hroot', hreordered⟩ := exists_reordered h hroot
  exact ⟨root', hroot', fun hfollow =>
    hreordered.follow? (hlib _ (Entries.mem_of_lookup hroot)) hfollow⟩

/-- **Compilation comes by the same places**, one reference or one keyword after the other. -/
theorem Expands.reordered {chain : List Location} {l : Location} {d : Document}
    (hx : lib.Expands name chain l d) :
    ∃ d', lib'.Expands name chain l d' ∧ d.Reordered d' := by
  induction hx with
  | root hroot =>
    obtain ⟨d', hd', hreordered⟩ := exists_reordered h hroot
    exact ⟨d', .root hd', hreordered⟩
  | @inside chain l l' entries d hx hr hi ih =>
    have hd := keysDistinct_find? hlib (hx.find?_eq_some hlib)
    obtain ⟨_, hx', hreordered⟩ := ih
    cases hreordered with
    | @object _ moved entries' hp hkeys hall =>
      have hreordered : (Document.object entries).Reordered (.object entries') :=
        .object hp hkeys hall
      obtain ⟨d', hi', hd'⟩ := inside_reordered hd hreordered hi
      exact ⟨d', hx'.inside (lookup_none_reordered hd hreordered hr) hi', hd'⟩
  | @reference chain l entries reference d hx hr hf hn ih =>
    have hd := keysDistinct_find? hlib (hx.find?_eq_some hlib)
    obtain ⟨_, hx', hreordered⟩ := ih
    obtain ⟨d', hf', hd'⟩ := find?_reordered hlib h hf
    cases hreordered with
    | object hp hkeys hall =>
      obtain ⟨_, hr', hreference⟩ := Document.Reordered.lookup hd (.object hp hkeys hall) hr
      cases hreference
      exact ⟨d', hx'.reference hr' hf' hn, hd'⟩

end Rearranged

namespace Rearranged

variable (h : lib.Rearranged lib' name) (hlib : lib.KeysDistinct) (hlib' : lib'.KeysDistinct)

include h hlib

theorem enlarges : lib.Enlarges lib' name where
  grown chain l d hx := (find?_reordered hlib h.documents (hx.find?_eq_some hlib)).imp
    fun _ h' => ⟨h'.1, h'.2.grown⟩
  kept chain l entries entries' hx hr hf := by
    obtain ⟨_, hf', hreordered⟩ := find?_reordered hlib h.documents (hx.find?_eq_some hlib)
    cases hf.symm.trans hf'
    exact {
      toKeepsOrder := h.kept chain l entries entries' hx hr hf
      absent := fun keyword _ hk => by
        cases hreordered with
        | object hp hkeys hall =>
          rwa [← Document.mem_keys_reordered hp (Entries.matched_of_keys hkeys hall)] }

include hlib'

theorem symm : lib'.Rearranged lib name where
  documents := documents_symm h.documents
  kept chain l entries' entries hx hr hf := by
    obtain ⟨_, hx', hreordered⟩ := hx.reordered hlib' (documents_symm h.documents)
    cases (hx'.find?_eq_some hlib).symm.trans hf
    have hf' := hx.find?_eq_some hlib'
    exact (h.kept chain l entries entries' hx'
      (lookup_none_reordered (keysDistinct_find? hlib' hf') hreordered hr) hf').symm

/-- **The order of keywords makes no difference.** -/
theorem compile_iff (s : Schema) : lib.compile name = .ok s ↔ lib'.compile name = .ok s :=
  ⟨(h.enlarges hlib).compile hlib hlib',
    ((h.symm hlib hlib').enlarges hlib').compile hlib' hlib⟩

end Rearranged

/-! ## Entries that are not looked at -/

/-- The path of a place in its document. -/
def path? (lib : Library) (l : Location) : Option Path :=
  (lib.documents.lookup l.document).bind fun root =>
    (Pointer.steps? l.pointer.toList).bind fun steps => root.route? steps

/-- While the document of a name is compiled, an object is read for its keywords that stands at the end
of a path in the document of another name. -/
def ReadsAt (lib : Library) (name other : String) (q : Path) : Prop :=
  ∃ chain l entries, lib.Expands name chain l (.object entries) ∧
    entries.lookup "$ref" = none ∧ l.document = other ∧ lib.path? l = some q

/-- A path leads neither to what the keyword `properties` of an object that is read holds, nor into
what its keyword `enum` holds. -/
def Free (lib : Library) (name other : String) (p : Path) : Prop :=
  ∀ q, lib.ReadsAt name other q →
    p ≠ q ++ [.key "properties"] ∧ ¬q ++ [.key "enum"] <+: p

end Library

namespace Schema

section Deeper

variable {entries entries' : List (String × Document)} {step : Segment} {r : Path} {x : Document}

theorem exists_of_replaceAt_cons
    (h : Document.object entries' = (Document.object entries).replaceAt (step :: r) x) :
    entries' = entries ∨ ∃ name inner, step = .key name ∧ entries.lookup name = some inner ∧
      entries' = Entries.insert name (inner.replaceAt r x) entries := by
  cases hc : (Document.object entries).child? step with
  | none =>
    rw [Document.replaceAt, hc] at h
    cases h
    exact .inl rfl
  | some inner =>
    cases step with
    | index i => cases hc
    | key name =>
      rw [Document.replaceAt_cons hc] at h
      cases h
      exact .inr ⟨name, inner, rfl, hc, rfl⟩

/-- A change inside an object leaves its keys as they are. -/
theorem keys_replaceAt_cons
    (h : Document.object entries' = (Document.object entries).replaceAt (step :: r) x) :
    Entries.keys entries' = Entries.keys entries := by
  rcases exists_of_replaceAt_cons h with rfl | ⟨name, inner, -, hl, rfl⟩
  · rfl
  · rw [Entries.keys_insert, if_pos (Entries.mem_keys_of_mem (Entries.mem_of_lookup hl))]

/-- A change inside an object leaves its keywords as they are, if it is not about the declared keys
and not inside the list. -/
theorem keepsKeywords_replaceAt_cons
    (h : Document.object entries' = (Document.object entries).replaceAt (step :: r) x)
    (hproperties : step :: r ≠ [.key "properties"]) (hlist : step ≠ .key "enum") :
    KeepsKeywords entries entries' where
  absent keyword _ hk := keys_replaceAt_cons h ▸ hk
  listed := by
    rcases exists_of_replaceAt_cons h with rfl | ⟨name, inner, rfl, -, rfl⟩
    · rfl
    · rw [Entries.lookup_insert, if_neg fun he => hlist (congrArg Segment.key he.symm)]
  declared declared declared' hd hd' := by
    rcases exists_of_replaceAt_cons h with rfl | ⟨name, inner, rfl, hl, rfl⟩
    · cases hd.symm.trans hd'
      rfl
    · rw [Entries.lookup_insert] at hd'
      split at hd'
      · rename_i hname
        subst hname
        cases hl.symm.trans hd
        cases r with
        | nil => exact absurd rfl hproperties
        | cons step r => exact (keys_replaceAt_cons (Option.some.inj hd').symm).symm
      · cases hd.symm.trans hd'
        rfl

end Deeper

/-- An entry under a key that is no keyword leaves the keywords of its object as they are. -/
theorem keepsKeywords_append_cons {before behind : List (String × Document)} {key : String}
    (h : key ∉ keywords) (value : Document) :
    KeepsKeywords (before ++ behind) (before ++ (key, value) :: behind) := by
  have hne : ∀ keyword ∈ keywords, keyword ≠ key := fun _ hk he => h (he ▸ hk)
  refine ⟨⟨?_, fun declared declared' hd hd' => ?_⟩, fun keyword hk hnot => ?_⟩
  · rw [Entries.lookup_append_cons (hne "enum" (by decide))]
  · rw [Entries.lookup_append_cons (hne "properties" (by decide))] at hd'
    cases hd.symm.trans hd'
    rfl
  · rwa [Entries.mem_keys_append_cons (hne keyword hk)]

end Schema

namespace Library

variable {lib : Library} {name other : String} {root : Document}

theorem find?_add {d : Document} {l : Location} (hl : l.document ≠ other) :
    (lib.add other d).find? l = lib.find? l := by
  rw [find?, find?, add, Entries.lookup_insert, if_neg hl]

/-- A place holds what stands at the end of its path. -/
theorem exists_path? {l : Location} {d : Document}
    (hroot : lib.documents.lookup l.document = some root) (h : lib.find? l = some d) :
    ∃ steps q, Pointer.steps? l.pointer.toList = some steps ∧ root.route? steps = some q ∧
      root.at? q = some d ∧ lib.path? l = some q := by
  rw [find?, hroot, Option.bind_some] at h
  obtain ⟨steps, hsteps, hfollow⟩ := Option.bind_eq_some_iff.mp h
  obtain ⟨q, hq, hat⟩ := Document.exists_route? hfollow
  refine ⟨steps, q, hsteps, hq, hat, ?_⟩
  rw [path?, hroot, Option.bind_some, hsteps]
  exact hq

/-- **A library with one entry more.**  An entry that is no keyword, or stands beside a reference,
leaves the keywords of all objects that are read as they are. -/
theorem enlarges_add {root' : Document} {p : Path} {before behind : List (String × Document)}
    {key : String} {value : Document} (hlib : lib.KeysDistinct)
    (hroot : lib.documents.lookup other = some root)
    (hp : root.at? p = some (.object (before ++ behind))) (hfree : lib.Free name other p)
    (hkey : key ∉ Entries.keys (before ++ behind))
    (hignored : key ∉ Schema.keywords ∨ "$ref" ∈ Entries.keys (before ++ behind))
    (hroot' : root' = root.replaceAt p (.object (before ++ (key, value) :: behind)))
    (hdistinct : root'.keysDistinct = true) : lib.Enlarges (lib.add other root') name where
  grown chain l d hx := by
    refine find?_related (fun n start hstart => ?_) (hx.find?_eq_some hlib)
    rw [add, Entries.lookup_insert]
    by_cases hn : n = other
    · subst hn
      cases hroot.symm.trans hstart
      have hgrown : root.Grown root' := hroot' ▸ Document.grown_replaceAt hp value
      exact ⟨root', if_pos rfl, hgrown.follow? hdistinct⟩
    · exact ⟨start, (if_neg hn).trans hstart, fun hfollow => ⟨_, hfollow, .refl _⟩⟩
  kept chain l entries entries' hx hr hf := by
    have hfound := hx.find?_eq_some hlib
    by_cases hl : l.document = other
    · subst hl
      obtain ⟨steps, q, hsteps, hroute, hat, hpath⟩ := exists_path? hroot hfound
      have hgrown : root.Grown root' := hroot' ▸ Document.grown_replaceAt hp value
      rw [find?, add, Entries.lookup_insert, if_pos rfl, Option.bind_some, Document.pointer?,
        hsteps, Option.bind_some, Document.follow?_of_route? (hgrown.route? hdistinct hroute),
        hroot'] at hf
      rcases Document.at?_replaceAt_cases hp hkey hat value with hsame | ⟨r, rfl, hinside⟩
      · cases hf.symm.trans hsame
        exact .refl _
      · -- the new entry is one of the object that is read, or further inside
        have hreplaced := Option.some.inj (hf.symm.trans hinside)
        obtain ⟨hproperties, henum⟩ := hfree q ⟨chain, l, entries, hx, hr, rfl, hpath⟩
        cases r with
        | nil =>
          rw [List.append_nil, hat] at hp
          cases hp
          cases hreplaced
          refine Schema.keepsKeywords_append_cons (hignored.resolve_right fun hmem => ?_) value
          exact Entries.lookup_eq_none_iff_not_mem_keys.mp hr hmem
        | cons step r =>
          refine Schema.keepsKeywords_replaceAt_cons hreplaced (fun heq => hproperties ?_)
            fun heq => henum ?_
          · rw [heq]
          · rw [heq]
            exact (List.prefix_append_right_inj q).mpr
              (List.cons_prefix_cons.mpr ⟨rfl, List.nil_prefix⟩)
    · rw [find?_add hl, hfound] at hf
      cases hf
      exact .refl _

/-- **Compilation does not depend on the order of keywords, nor on what it ignores.**  If libraries
hold the same documents but for the order of entries, where the order of declared keys and what is
listed are the same, then under each name one has a schema if the other has, and it is the same one.
If a document compiles, it compiles to the same schema when an object somewhere in a document has got
an entry under a new key, at any place among the others.  The key is no keyword, or the object has a
reference and the key is any; the object is not what `properties` of an object that is read holds, and
not inside what `enum` of such an object holds. -/
theorem compile_keyword_order (hlib : lib.KeysDistinct) (name : String) :
    (∀ lib' : Library, lib'.KeysDistinct → lib.Rearranged lib' name →
      ∀ s, lib.compile name = .ok s ↔ lib'.compile name = .ok s) ∧
    ∀ (s : Schema) (other : String) (root : Document) (p : Path)
      (before behind : List (String × Document)) (key : String) (value : Document),
      lib.compile name = .ok s → lib.documents.lookup other = some root →
      root.at? p = some (.object (before ++ behind)) → lib.Free name other p →
      key ∉ Entries.keys (before ++ behind) →
      (key ∉ Schema.keywords ∨ "$ref" ∈ Entries.keys (before ++ behind)) →
      value.keysDistinct = true →
      (lib.add other (root.replaceAt p (.object (before ++ (key, value) :: behind)))).compile name =
        .ok s := by
  refine ⟨fun lib' hlib' h s => h.compile_iff hlib hlib' s, ?_⟩
  intro s other root p before behind key value hs hroot hp hfree hkey hignored hvalue
  have hd := hlib _ (Entries.mem_of_lookup hroot)
  have hobject := Document.keysDistinct_append_cons (Document.keysDistinct_at? hd hp) hkey hvalue
  have hroot' := Document.keysDistinct_replaceAt (p := p) hd hobject
  exact (enlarges_add hlib hroot hp hfree hkey hignored rfl hroot').compile hlib
    (keysDistinct_add hlib hroot') hs

/-- A document that refers to a part of another one. -/
def pointing : Library := ⟨[
  ("a", .object [("$ref", .string "b#/definitions/z")]),
  ("b", .object [("definitions", .object [("z", .object [
    ("required", .array [.string "k"]), ("properties", .object [("k", .bool true)])])])])]⟩

/-- The same documents, where the part has its keywords in another order. -/
def pointingAnew : Library := ⟨[
  ("a", .object [("$ref", .string "b#/definitions/z")]),
  ("b", .object [("definitions", .object [("z", .object [
    ("properties", .object [("k", .bool true)]), ("required", .array [.string "k"])])])])]⟩

/-- The places that compilation comes by, with the one object that is read for its keywords. -/
theorem expands_pointing {chain : List Location} {l : Location} {entries : List (String × Document)}
    (hx : pointing.Expands "a" chain l (.object entries)) (hr : entries.lookup "$ref" = none) :
    l = ⟨"b", "/definitions/z"⟩ ∧ entries =
      [("required", .array [.string "k"]), ("properties", .object [("k", .bool true)])] := by
  have places : ∀ {chain l d}, pointing.Expands "a" chain l d →
      d = .object [("$ref", .string "b#/definitions/z")] ∨
      (l = ⟨"b", "/definitions/z"⟩ ∧ d = .object
        [("required", .array [.string "k"]), ("properties", .object [("k", .bool true)])]) ∨
      d = .bool true := by
    intro chain l d hx
    induction hx with
    | root hroot =>
      cases hroot
      exact .inl rfl
    | inside _ hr hi ih =>
      rcases ih with hd | ⟨rfl, hd⟩ | hd
      · cases hd
        cases hr
      · cases hd
        refine .inr (.inr ?_)
        cases hi with
        | declared hp hm =>
          have hdeclared := Document.lookup_of_keysDistinct (by decide) hp
          cases hdeclared
          exact (Prod.ext_iff.mp (List.mem_singleton.mp hm)).2
        | additional ha => simp at ha
        | items hm => simp at hm
      · cases hd
    | reference _ hr hf _ ih =>
      rcases ih with hd | ⟨rfl, hd⟩ | hd
      · cases hd
        cases hr
        have target : ∀ l : Location, l.target "b#/definitions/z" = ⟨"b", "/definitions/z"⟩ :=
          fun _ => @target_of_split _ _ ['b'] _ (by decide) (.inl rfl)
        rw [target] at hf
        refine .inr (.inl ⟨target _, ?_⟩)
        cases hf
        rfl
      · cases hd
        cases hr
      · cases hd
  rcases places hx with hd | ⟨hl, hd⟩ | hd
  · cases hd
    cases hr
  · cases hd
    exact ⟨hl, rfl⟩
  · cases hd

/-- The part of the second document may have its keywords in another order, or a further key between
them.  In the first, a key beside the reference may even be a keyword that holds what it must not. -/
theorem compile_keyword_order_pointing : ∃ s, pointing.compile "a" = .ok s ∧
    pointingAnew.compile "a" = .ok s ∧
    (pointing.add "b" (.object [("definitions", .object [("z", .object [
      ("required", .array [.string "k"]), ("title", .null),
      ("properties", .object [("k", .bool true)])])])])).compile "a" = .ok s ∧
    (pointing.add "a" (.object [("type", .null),
      ("$ref", .string "b#/definitions/z")])).compile "a" = .ok s := by
  have hlib : pointing.KeysDistinct := by
    unfold KeysDistinct
    decide +kernel
  have hanew : pointingAnew.KeysDistinct := by
    unfold KeysDistinct
    decide +kernel
  have hok : (pointing.compile "a").toOption.isSome = true := by decide +kernel
  obtain ⟨s, hs⟩ := Option.isSome_iff_exists.mp hok
  have hs := eq_ok_of_toOption hs
  have hrearranged : pointing.Rearranged pointingAnew "a" := by
    have hpart : (Document.object [("required", .array [.string "k"]),
        ("properties", .object [("k", .bool true)])]).Reordered (.object
          [("properties", .object [("k", .bool true)]), ("required", .array [.string "k"])]) :=
      .object (.swap _ _ _) rfl (.cons (.object (.refl _) rfl (.cons (.bool true) .nil))
        (.cons (.array (.cons (.string "k") .nil)) .nil))
    have hdocuments : Entries.Matched Document.Reordered pointing.documents
        pointingAnew.documents :=
      .cons ⟨rfl, .object (.refl _) rfl (.cons (.string _) .nil)⟩ (.cons ⟨rfl, .object (.refl _) rfl
        (.cons (.object (.refl _) rfl (.cons hpart .nil)) .nil)⟩ .nil)
    refine ⟨hdocuments.lookup, fun chain l entries entries' hx hr hf => ?_⟩
    · obtain ⟨rfl, rfl⟩ := expands_pointing hx hr
      cases hf
      refine ⟨rfl, fun _ _ hd hd' => ?_⟩
      cases hd
      cases hd'
      rfl
  obtain ⟨horder, hadded⟩ := compile_keyword_order hlib "a"
  refine ⟨s, hs, (horder pointingAnew hanew hrearranged s).mp hs, ?_, ?_⟩
  · refine hadded s "b" _ [.key "definitions", .key "z"] [("required", .array [.string "k"])]
      [("properties", .object [("k", .bool true)])] "title" .null hs rfl rfl (fun q hq => ?_)
      (by decide) (.inl (by decide)) rfl
    obtain ⟨chain, l, entries, hx, hr, -, hpath⟩ := hq
    obtain ⟨rfl, rfl⟩ := expands_pointing hx hr
    cases hpath
    exact ⟨by decide, by decide⟩
  · refine hadded s "a" _ [] [] [("$ref", .string "b#/definitions/z")] "type" .null hs rfl rfl
      (fun q _ => ?_) (by decide) (.inr (by decide)) rfl
    simp

end Library

end ManifestCheck
