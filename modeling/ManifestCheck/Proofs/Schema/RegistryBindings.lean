import Mathlib.Data.List.Nodup
import ManifestCheck.Proofs.Document.DistinctKeys
import ManifestCheck.Proofs.Outcome
import ManifestCheck.Schema.Registry

/-!
# Registries and their bindings

A registry is made from a library by one binding after the other, and the last one of a media type
wins (`foldlM_last`).  Its schemas are kept in ascending order, so that it is told from what the bound
names compile to (`Registry.ofLibrary_eq_ok_iff`).  It validates a document by accepting it under the
schema of the media type (`validate_eq_ok_iff`).
-/

namespace ManifestCheck

/-! ## The last one wins -/

section Last

variable {ε σ β : Type} {step : σ → String × String → Except ε σ} {items : List (String × String)}

/-- Where each step puts the value of an item under its key, the last item under a key counts. -/
theorem foldlM_last (value : String → Option β) (look : σ → String → Option β)
    (hstep : ∀ s t s', step s t = .ok s' → ∃ v, value t.2 = some v ∧
      ∀ key, look s' key = if key = t.1 then some v else look s key) {old new : σ}
    (h : items.foldlM step old = .ok new) :
    (∀ t ∈ items, (value t.2).isSome = true) ∧
      ∀ key, look new key = ((items.reverse.lookup key).bind value).or (look old key) := by
  induction items generalizing old with
  | nil =>
    cases h
    exact ⟨nofun, fun _ => rfl⟩
  | cons t rest ih =>
    rw [List.foldlM_cons] at h
    obtain ⟨next, hnext, h⟩ := bind_ok h
    obtain ⟨v, hv, hlook⟩ := hstep old t next hnext
    obtain ⟨hvalues, hrest⟩ := ih h
    refine ⟨List.forall_mem_cons.mpr ⟨by rw [hv]; rfl, hvalues⟩, fun key => ?_⟩
    rw [hrest, hlook, List.reverse_cons, List.lookup_append, Entries.lookup_cons]
    cases hl : rest.reverse.lookup key with
    | none =>
      by_cases hk : key = t.1
      · rw [if_pos hk, if_pos hk, Option.none_or, Option.bind_some, hv]
        rfl
      · rw [if_neg hk, if_neg hk]
        rfl
    | some name =>
      have hmem := List.mem_reverse.mp (Entries.mem_of_lookup hl)
      obtain ⟨w, hw⟩ := Option.isSome_iff_exists.mp (hvalues _ hmem)
      rw [Option.some_or, Option.bind_some, hw, Option.some_or, Option.some_or]

end Last

/-! ## Ascending entries -/

/-- Inserting under one key changes nothing under the others, in whatever order the keys come. -/
theorem lookup_insertSorted {α : Type} (key key' : String) (value : α)
    (entries : List (String × α)) :
    (insertSorted key value entries).lookup key' =
      if key' = key then some value else entries.lookup key' := by
  induction entries with
  | nil => exact Entries.lookup_cons key' key value []
  | cons e rest ih =>
    obtain ⟨k, v⟩ := e
    rw [insertSorted]
    split
    · exact Entries.lookup_cons key' key value _
    · split
      · rename_i hk
        subst hk
        rw [Entries.lookup_cons, Entries.lookup_cons]
        split <;> rfl
      · rename_i hk
        rw [Entries.lookup_cons, ih, Entries.lookup_cons]
        by_cases h : key' = key
        · subst h
          rw [if_pos rfl, if_pos rfl]
          exact if_neg hk
        · rw [if_neg h, if_neg h]

section Ascending

variable {α : Type} {entries entries' : List (String × α)}

theorem keys_insertSorted {key k : String} {value : α}
    (h : k ∈ Entries.keys (insertSorted key value entries)) : k = key ∨ k ∈ Entries.keys entries := by
  induction entries with
  | nil => exact .inl (List.mem_singleton.mp h)
  | cons e rest ih =>
    rw [insertSorted] at h
    split at h
    · exact List.mem_cons.mp h
    · split at h
      · exact (List.mem_cons.mp h).imp_right (List.mem_cons_of_mem _)
      · rcases List.mem_cons.mp h with rfl | h
        · exact .inr List.mem_cons_self
        · exact (ih h).imp_right (List.mem_cons_of_mem _)

theorem ascending_insertSorted (h : (Entries.keys entries).Pairwise (· < ·)) (key : String)
    (value : α) : (Entries.keys (insertSorted key value entries)).Pairwise (· < ·) := by
  induction entries with
  | nil => exact List.pairwise_singleton _ _
  | cons e rest ih =>
    obtain ⟨k, v⟩ := e
    obtain ⟨hfirst, hrest⟩ := List.pairwise_cons.mp h
    rw [insertSorted]
    split
    · rename_i hlt
      refine List.pairwise_cons.mpr ⟨fun k' hk' => ?_, h⟩
      rcases List.mem_cons.mp hk' with rfl | hk'
      · exact hlt
      · exact String.lt_trans hlt (hfirst k' hk')
    · split
      · rename_i heq
        subst heq
        exact h
      · rename_i hlt hne
        have hgt : k < key := Decidable.byContradiction fun hnot =>
          hne (String.le_antisymm (String.not_lt.mp hnot) (String.not_lt.mp hlt))
        refine List.pairwise_cons.mpr ⟨fun k' hk' => ?_, ih hrest⟩
        rcases keys_insertSorted hk' with rfl | hk'
        · exact hgt
        · exact hfirst k' hk'

theorem nodup_of_ascending {keys : List String} (h : keys.Pairwise (· < ·)) : keys.Nodup :=
  h.imp fun hlt heq => by
    subst heq
    exact String.lt_irrefl _ hlt

/-- Ascending entries are told by what stands under each key. -/
theorem eq_of_ascending (h : (Entries.keys entries).Pairwise (· < ·))
    (h' : (Entries.keys entries').Pairwise (· < ·))
    (hlookup : ∀ key, entries.lookup key = entries'.lookup key) : entries = entries' := by
  have hn := nodup_of_ascending h
  have hn' := nodup_of_ascending h'
  have hperm : entries.Perm entries' := by
    refine (List.perm_ext_iff_of_nodup (.of_map _ hn) (.of_map _ hn')).mpr fun e => ?_
    rw [← Entries.lookup_eq_some_iff hn, hlookup, Entries.lookup_eq_some_iff hn']
  rw [Entries.keys, List.pairwise_map] at h h'
  exact hperm.eq_of_pairwise (fun a b _ _ hab hba => absurd hba (String.lt_asymm hab)) h h'

end Ascending

/-! ## Registries -/

namespace Registry

variable {lib lib' : Library} {bindings : List (String × String)} {r r' : Registry}

/-- A registry holds, for each media type and in ascending order, what the last name that is bound to
it compiles to. -/
structure Binds (r : Registry) (lib : Library) (bindings : List (String × String)) : Prop where
  loader : r.loader = {}
  ascending : r.mediaTypes.Pairwise (· < ·)
  lookup : ∀ m, r.schemas.lookup m =
    (bindings.reverse.lookup m).bind fun name => (lib.compile name).toOption

theorem Binds.unique (h : r.Binds lib bindings) (h' : r'.Binds lib bindings) : r = r' := by
  have hschemas : r.schemas = r'.schemas := eq_of_ascending h.ascending h'.ascending fun m => by
    rw [h.lookup, h'.lookup]
  cases r
  cases r'
  rw [mk.injEq]
  exact ⟨hschemas, h.loader.trans h'.loader.symm⟩

/-- One binding. -/
theorem bind_ok_iff {b : String × String} :
    (lib.compile b.2).map (r.insert b.1) = .ok r' ↔
      ∃ s, (lib.compile b.2).toOption = some s ∧ r' = r.insert b.1 s := by
  cases lib.compile b.2 with
  | error e => exact iff_of_false nofun nofun
  | ok s =>
    constructor
    · intro h
      cases h
      exact ⟨s, rfl, rfl⟩
    · rintro ⟨t, ht, rfl⟩
      cases ht
      rfl

theorem ofLibrary_ok (h : ofLibrary lib bindings = .ok r) :
    (∀ b ∈ bindings, (lib.compile b.2).toOption.isSome = true) ∧ r.Binds lib bindings := by
  obtain ⟨hall, hlookup⟩ := foldlM_last (fun name => (lib.compile name).toOption)
    (fun r m => r.schemas.lookup m) (fun r b r' h => by
      obtain ⟨s, hs, rfl⟩ := bind_ok_iff.mp h
      exact ⟨s, hs, fun m => lookup_insertSorted b.1 m s _⟩) h
  obtain ⟨hloader, hascending⟩ := foldlM_invariant
    (P := fun r : Registry => r.loader = {} ∧ r.mediaTypes.Pairwise (· < ·)) (fun r b r' hr h => by
      obtain ⟨s, -, rfl⟩ := bind_ok_iff.mp h
      exact ⟨hr.1, ascending_insertSorted hr.2 b.1 s⟩) ⟨rfl, .nil⟩ h
  exact ⟨hall, hloader, hascending, fun m => (hlookup m).trans Option.or_none⟩

theorem exists_ofLibrary (h : ∀ b ∈ bindings, (lib.compile b.2).toOption.isSome = true) :
    ∃ r, ofLibrary lib bindings = .ok r :=
  foldlM_exists (fun b hb r => by
    obtain ⟨s, hs⟩ := Option.isSome_iff_exists.mp (h b hb)
    exact ⟨r.insert b.1 s, bind_ok_iff.mpr ⟨s, hs, rfl⟩⟩) ({} : Registry)

/-- **A registry is told from what the names compile to.** -/
theorem ofLibrary_eq_ok_iff : ofLibrary lib bindings = .ok r ↔
    (∀ b ∈ bindings, (lib.compile b.2).toOption.isSome = true) ∧ r.Binds lib bindings := by
  refine ⟨ofLibrary_ok, fun h => ?_⟩
  obtain ⟨r', hr'⟩ := exists_ofLibrary h.1
  rw [hr', (ofLibrary_ok hr').2.unique h.2]

theorem Binds.congr (h : ∀ b ∈ bindings, (lib.compile b.2).toOption = (lib'.compile b.2).toOption)
    (hr : r.Binds lib bindings) : r.Binds lib' bindings where
  loader := hr.loader
  ascending := hr.ascending
  lookup m := by
    rw [hr.lookup]
    cases hl : bindings.reverse.lookup m with
    | none => rfl
    | some name => exact h _ (List.mem_reverse.mp (Entries.mem_of_lookup hl))

/-- Bindings go by what the bound names compile to. -/
theorem ofLibrary_congr
    (h : ∀ b ∈ bindings, (lib.compile b.2).toOption = (lib'.compile b.2).toOption) :
    (ofLibrary lib bindings).toOption = (ofLibrary lib' bindings).toOption := by
  refine toOption_congr fun r => ?_
  rw [ofLibrary_eq_ok_iff, ofLibrary_eq_ok_iff]
  exact and_congr (forall₂_congr fun b hb => by rw [h b hb])
    ⟨.congr h, .congr fun b hb => (h b hb).symm⟩

/-- The media types of a registry are those that are bound. -/
theorem Binds.mem_mediaTypes (h : r.Binds lib bindings)
    (hall : ∀ b ∈ bindings, (lib.compile b.2).toOption.isSome = true) (m : String) :
    m ∈ r.mediaTypes ↔ m ∈ Entries.keys bindings := by
  have hbound : m ∈ Entries.keys bindings ↔ bindings.reverse.lookup m ≠ none := by
    rw [ne_eq, Entries.lookup_eq_none_iff_not_mem_keys, Decidable.not_not, Entries.keys,
      Entries.keys, List.map_reverse, List.mem_reverse]
  have hheld : m ∈ r.mediaTypes ↔ r.schemas.lookup m ≠ none := by
    rw [ne_eq, Entries.lookup_eq_none_iff_not_mem_keys, Decidable.not_not]
    rfl
  rw [hbound, hheld, h.lookup]
  cases hl : bindings.reverse.lookup m with
  | none => exact iff_of_false (fun h => h rfl) fun h => h rfl
  | some name =>
    have hname := hall _ (List.mem_reverse.mp (Entries.mem_of_lookup hl))
    exact iff_of_true (Option.isSome_iff_ne_none.mp hname) (Option.some_ne_none name)

/-- The schema of a media type is what the last name bound to it compiles to. -/
theorem Binds.schema_eq (h : r.Binds lib bindings)
    (hall : ∀ b ∈ bindings, (lib.compile b.2).toOption.isSome = true) {m name : String}
    (hl : bindings.reverse.lookup m = some name) : r.schema m = lib.compile name := by
  have hname := hall _ (List.mem_reverse.mp (Entries.mem_of_lookup hl))
  obtain ⟨s, hs⟩ := isSome_toOption_iff.mp hname
  have hlookup := h.lookup m
  rw [hl, Option.bind_some, hs] at hlookup
  rw [schema, hlookup, hs]
  rfl

/-- Where no media type is bound twice, each has the schema of its document. -/
theorem lookup_of_ofLibrary (hn : (Entries.keys bindings).Nodup) (h : ofLibrary lib bindings = .ok r)
    {b : String × String} (hb : b ∈ bindings) :
    ∃ s, lib.compile b.2 = .ok s ∧ r.schemas.lookup b.1 = some s := by
  obtain ⟨hall, hbinds⟩ := ofLibrary_ok h
  obtain ⟨s, hs⟩ := isSome_toOption_iff.mp (hall b hb)
  have hlast : bindings.reverse.lookup b.1 = some b.2 := by
    refine (Entries.lookup_eq_some_iff ?_).mpr (List.mem_reverse.mpr hb)
    rw [Entries.keys, List.map_reverse]
    exact List.nodup_reverse.mpr hn
  refine ⟨s, hs, ?_⟩
  rw [hbinds.lookup, hlast, Option.bind_some, hs]
  rfl

/-- A document is valid if the schema for its media type accepts it. -/
theorem validate_eq_ok_iff {r : Registry} {mediaType : String} {s : Schema} {d : Document}
    (h : r.schemas.lookup mediaType = some s) :
    r.validate mediaType d = .ok () ↔ s.accepts d = true := by
  have hs : r.schema mediaType = .ok s := by rw [schema, h]
  rw [validate, violations, hs, Schema.accepts]
  simp only [Except.map]
  cases s.violations d with
  | nil => exact ⟨fun _ => rfl, fun _ => rfl⟩
  | cons v vs => exact ⟨nofun, nofun⟩

end Registry

end ManifestCheck
