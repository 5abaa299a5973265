import ManifestCheck.Document.Pointer
import ManifestCheck.Path

/-!
# Distinct keys

Inserting entries one after the other never repeats a key: a known key takes the new value where it
stands, and a new key goes to the end.  A document in which this holds of every object is one for
which looking up a key finds the only entry under it, so that a path leads to one value.
-/

namespace ManifestCheck

namespace Entries

variable {α : Type}

theorem keys_cons (e : String × α) (entries : List (String × α)) :
    keys (e :: entries) = e.1 :: keys entries := rfl

theorem lookup_cons (key k : String) (value : α) (entries : List (String × α)) :
    ((k, value) :: entries).lookup key = if key = k then some value else entries.lookup key := by
  by_cases h : key = k
  · rw [if_pos h, h, List.lookup_cons_self]
  · have hb : (key == k) = false := beq_false_of_ne h
    rw [if_neg h, List.lookup_cons, hb]

theorem lookup_insert (key k : String) (value : α) (entries : List (String × α)) :
    (insert k value entries).lookup key = if key = k then some value else entries.lookup key := by
  induction entries with
  | nil => exact lookup_cons key k value []
  | cons e rest ih =>
    obtain ⟨k', v⟩ := e
    rw [insert]
    by_cases hk : k' = k
    · rw [if_pos hk, lookup_cons, lookup_cons, hk]
      split <;> rfl
    · rw [if_neg hk, lookup_cons, ih, lookup_cons]
      by_cases hkey : key = k'
      · rw [if_pos hkey, if_pos hkey, if_neg fun h => hk (hkey.symm.trans h)]
      · rw [if_neg hkey, if_neg hkey]

theorem mem_keys_of_mem {key : String} {value : α} {entries : List (String × α)}
    (h : (key, value) ∈ entries) : key ∈ keys entries :=
  List.mem_map.mpr ⟨(key, value), h, rfl⟩

theorem keys_insert (key : String) (value : α) (entries : List (String × α)) :
    keys (insert key value entries) =
      if key ∈ keys entries then keys entries else keys entries ++ [key] := by
  induction entries with
  | nil => simp [insert, keys]
  | cons e rest ih =>
    obtain ⟨k, v⟩ := e
    by_cases h : k = key
    · simp [insert, h, keys_cons]
    · have h' : key ≠ k := fun hk => h hk.symm
      by_cases hr : key ∈ keys rest <;> simp [insert, h, h', keys_cons, ih, hr]

theorem nodup_keys_insert (key : String) (value : α) {entries : List (String × α)}
    (h : (keys entries).Nodup) : (keys (insert key value entries)).Nodup := by
  rw [keys_insert]
  split
  · exact h
  · rename_i hk
    exact List.nodup_append.mpr ⟨h, by simp, fun a ha b hb => by
      rw [List.mem_singleton.mp hb]
      exact fun hab => hk (hab ▸ ha)⟩

theorem mem_insert {key : String} {value : α} {entries : List (String × α)} {e : String × α}
    (h : e ∈ insert key value entries) : e = (key, value) ∨ e ∈ entries := by
  induction entries with
  | nil => exact .inl (List.mem_singleton.mp h)
  | cons f rest ih =>
    obtain ⟨k, v⟩ := f
    by_cases hk : k = key
    · rw [insert, if_pos hk] at h
      rcases List.mem_cons.mp h with rfl | h
      · exact .inl (by rw [hk])
      · exact .inr (List.mem_cons_of_mem _ h)
    · rw [insert, if_neg hk] at h
      rcases List.mem_cons.mp h with rfl | h
      · exact .inr List.mem_cons_self
      · exact (ih h).imp id (List.mem_cons_of_mem _)

/-- Members inserted behind others: the keys stay distinct, and every entry is a member or was
there before. -/
theorem foldl_insert (members entries : List (String × α)) (h : (keys entries).Nodup) :
    (keys (members.foldl (fun es m => insert m.1 m.2 es) entries)).Nodup ∧
      ∀ e ∈ members.foldl (fun es m => insert m.1 m.2 es) entries, e ∈ members ∨ e ∈ entries := by
  induction members generalizing entries with
  | nil => exact ⟨h, fun _ he => .inr he⟩
  | cons m rest ih =>
    obtain ⟨hn, hm⟩ := ih (insert m.1 m.2 entries) (nodup_keys_insert m.1 m.2 h)
    refine ⟨hn, fun e he => ?_⟩
    rcases hm e he with he | he
    · exact .inl (List.mem_cons_of_mem _ he)
    · rcases mem_insert he with rfl | he
      · exact .inl List.mem_cons_self
      · exact .inr he

theorem nodup_keys_ofMembers (members : List (String × α)) : (keys (ofMembers members)).Nodup :=
  (foldl_insert members [] List.nodup_nil).1

theorem mem_of_mem_ofMembers {members : List (String × α)} {e : String × α}
    (h : e ∈ ofMembers members) : e ∈ members :=
  ((foldl_insert members [] List.nodup_nil).2 e h).resolve_right List.not_mem_nil

/-- Where keys are distinct, looking one up finds exactly the entry under it. -/
theorem lookup_eq_some_iff {entries : List (String × α)} (h : (keys entries).Nodup) {key : String}
    {value : α} : entries.lookup key = some value ↔ (key, value) ∈ entries := by
  induction entries with
  | nil => simp
  | cons e rest ih =>
    obtain ⟨k, v⟩ := e
    rw [keys_cons, List.nodup_cons] at h
    by_cases hk : key = k
    · subst hk
      rw [List.lookup_cons_self, List.mem_cons]
      constructor
      · intro hv
        exact .inl (by rw [Option.some.inj hv])
      · intro hx
        rcases hx with he | he
        · exact congrArg some (congrArg Prod.snd he).symm
        · exact absurd (mem_keys_of_mem he) h.1
    · have hb : (key == k) = false := beq_false_of_ne hk
      rw [List.lookup_cons, hb, List.mem_cons, ← ih h.2]
      exact ⟨.inr, fun hv => hv.resolve_left fun he => hk (congrArg Prod.fst he)⟩

theorem mem_of_lookup {entries : List (String × α)} {key : String} {value : α}
    (h : entries.lookup key = some value) : (key, value) ∈ entries := by
  obtain ⟨before, behind, rfl, -⟩ := List.lookup_eq_some_iff.mp h
  exact List.mem_append_right _ List.mem_cons_self

theorem lookup_eq_none_iff_not_mem_keys {entries : List (String × α)} {key : String} :
    entries.lookup key = none ↔ key ∉ keys entries := by
  rw [List.lookup_eq_none_iff]
  constructor
  · intro h hk
    obtain ⟨e, he, rfl⟩ := List.mem_map.mp hk
    simpa using h e he
  · intro h e he
    exact bne_iff_ne.mpr fun hk => h (List.mem_map.mpr ⟨e, he, hk.symm⟩)

theorem contains_eq_decide_mem_keys (key : String) (entries : List (String × α)) :
    contains key entries = decide (key ∈ keys entries) := by
  unfold contains
  cases h : entries.lookup key with
  | none => exact (decide_eq_false (lookup_eq_none_iff_not_mem_keys.mp h)).symm
  | some value => exact (decide_eq_true (mem_keys_of_mem (mem_of_lookup h))).symm

end Entries

namespace Document

mutual

/-- Whether no object in a document has two entries under one key. -/
def keysDistinct : Document → Bool
  | array items => keysDistinctItems items
  | object entries => decide (Entries.keys entries).Nodup && keysDistinctEntries entries
  | _ => true

def keysDistinctItems : List Document → Bool
  | [] => true
  | d :: ds => keysDistinct d && keysDistinctItems ds

def keysDistinctEntries : List (String × Document) → Bool
  | [] => true
  | (_, d) :: rest => keysDistinct d && keysDistinctEntries rest

end

theorem keysDistinct_array {items : List Document} :
    (array items).keysDistinct = true ↔ ∀ d ∈ items, d.keysDistinct = true := by
  rw [keysDistinct]
  induction items with
  | nil => simp [keysDistinctItems]
  | cons d ds ih => simp [keysDistinctItems, ih]

theorem keysDistinct_object {entries : List (String × Document)} :
    (object entries).keysDistinct = true ↔
      (Entries.keys entries).Nodup ∧ ∀ e ∈ entries, e.2.keysDistinct = true := by
  have h : keysDistinctEntries entries = true ↔ ∀ e ∈ entries, e.2.keysDistinct = true := by
    induction entries with
    | nil => simp [keysDistinctEntries]
    | cons e rest ih => simp [keysDistinctEntries, ih]
  rw [keysDistinct, Bool.and_eq_true, decide_eq_true_iff, h]

theorem lookup_of_keysDistinct {entries : List (String × Document)} {key : String}
    {value : Document} (hd : (object entries).keysDistinct = true) (hm : (key, value) ∈ entries) :
    entries.lookup key = some value :=
  (Entries.lookup_eq_some_iff (keysDistinct_object.mp hd).1).mpr hm

theorem keysDistinct_step? {step : List Char} {d inner : Document} (hd : d.keysDistinct = true)
    (h : d.step? step = some inner) : inner.keysDistinct = true := by
  cases d with
  | object entries => exact (keysDistinct_object.mp hd).2 _ (Entries.mem_of_lookup h)
  | array items =>
    obtain ⟨i, -, hi⟩ := Option.bind_eq_some_iff.mp h
    exact keysDistinct_array.mp hd _ (List.mem_of_getElem? hi)
  | _ => cases h

/-- What every step inside keeps is kept along a pointer. -/
theorem pointer?_invariant {P : Document → Prop}
    (hstep : ∀ step d inner, P d → d.step? step = some inner → P inner) {pointer : String}
    {d inner : Document} (hd : P d) (h : d.pointer? pointer = some inner) : P inner := by
  obtain ⟨steps, -, hs⟩ := Option.bind_eq_some_iff.mp h
  clear h
  induction steps generalizing d with
  | nil =>
    cases hs
    exact hd
  | cons step rest ih =>
    obtain ⟨next, hn, hr⟩ := Option.bind_eq_some_iff.mp hs
    exact ih (hstep step d next hd hn) hr

/-- Whatever a pointer leads to has distinct keys if the whole document has. -/
theorem keysDistinct_pointer? {pointer : String} {d inner : Document} (hd : d.keysDistinct = true)
    (h : d.pointer? pointer = some inner) : inner.keysDistinct = true :=
  pointer?_invariant (P := fun d => d.keysDistinct = true)
    (fun _ _ _ hd h => keysDistinct_step? hd h) hd h

/-- The value one step inside. -/
def child? : Segment → Document → Option Document
  | .key name, object entries => entries.lookup name
  | .index i, array elements => elements[i]?
  | _, _ => none

/-- The value that a path leads to. -/
def at? : Path → Document → Option Document
  | [], d => some d
  | step :: rest, d => (d.child? step).bind (at? rest)

theorem keysDistinct_child? {step : Segment} {d inner : Document} (hd : d.keysDistinct = true)
    (h : d.child? step = some inner) : inner.keysDistinct = true := by
  unfold child? at h
  split at h
  · exact (keysDistinct_object.mp hd).2 _ (Entries.mem_of_lookup h)
  · exact keysDistinct_array.mp hd _ (List.mem_of_getElem? h)
  · cases h

/-- What every step inside keeps is kept along a path. -/
theorem at?_invariant {P : Document → Prop}
    (hstep : ∀ step d inner, P d → d.child? step = some inner → P inner) {p : Path}
    {d inner : Document} (hd : P d) (h : d.at? p = some inner) : P inner := by
  induction p generalizing d with
  | nil =>
    cases h
    exact hd
  | cons step rest ih =>
    obtain ⟨next, hnext, hrest⟩ := Option.bind_eq_some_iff.mp h
    exact ih (hstep step d next hd hnext) hrest

theorem keysDistinct_at? {p : Path} {d inner : Document} (hd : d.keysDistinct = true)
    (h : d.at? p = some inner) : inner.keysDistinct = true :=
  at?_invariant (P := fun d => d.keysDistinct = true)
    (fun _ _ _ hd h => keysDistinct_child? hd h) hd h

end Document

end ManifestCheck
