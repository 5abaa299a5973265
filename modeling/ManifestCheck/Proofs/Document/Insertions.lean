import ManifestCheck.Proofs.Document.ComposedTexts

/-!
# Insertions one after the other

The entries of an object are a list, and an insertion looks through it: a known key takes the new
value where it stands and gives up the old one, a new key goes to the end.  One insertion answers
with what was found under the key (`getThenInsert?_eq`) and leaves every entry under another key
where it was (`getElem?_insert_of_ne`).

So a row of insertions into no entries leaves a map in order of arrival: each key once, where it was
inserted first, with the value that was inserted last (`insertAll_empty`).
-/

namespace ManifestCheck

namespace Entries

variable {α : Type} {key : String} {value : α} {entries : List (String × α)}

/-! ## One insertion -/

/-- The value that an insertion answers with is the one that the key had. -/
theorem getThenInsert?_eq (key : String) (value : α) (entries : List (String × α)) :
    getThenInsert? key value entries = (entries.lookup key, insert key value entries) := by
  induction entries with
  | nil => rfl
  | cons e rest ih =>
    obtain ⟨k, v⟩ := e
    rw [getThenInsert?, insert, lookup_cons]
    by_cases h : k = key
    · rw [if_pos h, if_pos h, if_pos h.symm, h]
    · rw [if_neg h, if_neg h, if_neg (Ne.symm h), ih]

/-- An entry under another key stays in its place, and no such entry is added. -/
theorem getElem?_insert_of_ne {k : String} {v : α} {i : Nat} (h : k ≠ key) :
    (insert key value entries)[i]? = some (k, v) ↔ entries[i]? = some (k, v) := by
  have hnew : ∀ w : α, (key, w) ≠ (k, v) := fun w he => h (congrArg Prod.fst he).symm
  induction entries generalizing i with
  | nil =>
    cases i with
    | zero => simpa [insert] using hnew value
    | succ i => simp [insert]
  | cons e rest ih =>
    obtain ⟨k', v'⟩ := e
    rw [insert]
    by_cases hk : k' = key
    · subst hk
      rw [if_pos rfl]
      cases i with
      | zero => simp [hnew]
      | succ i => simp
    · rw [if_neg hk]
      cases i with
      | zero => simp
      | succ i => simpa using ih

/-! ## A row of insertions -/

/-- Insertions one after the other, each with its answer. -/
def insertAll (calls : List (String × α)) : StateM (List (String × α)) (List (Option α)) :=
  calls.mapM fun call => modifyGet (getThenInsert? call.1 call.2)

theorem run_insertAll_cons (call : String × α) (calls entries : List (String × α)) :
    (insertAll (call :: calls)).run entries =
      (entries.lookup call.1 :: ((insertAll calls).run (insert call.1 call.2 entries)).1,
        ((insertAll calls).run (insert call.1 call.2 entries)).2) := by
  rw [insertAll, List.mapM_cons]
  show ((getThenInsert? call.1 call.2 entries).1 ::
      ((insertAll calls).run (getThenInsert? call.1 call.2 entries).2).1,
    ((insertAll calls).run (getThenInsert? call.1 call.2 entries).2).2) = _
  rw [getThenInsert?_eq]

/-- What is left is what the insertions make of the entries. -/
theorem run_insertAll_snd (calls entries : List (String × α)) :
    ((insertAll calls).run entries).2 =
      calls.foldl (fun es call => insert call.1 call.2 es) entries := by
  induction calls generalizing entries with
  | nil => rfl
  | cons call calls ih => rw [run_insertAll_cons, ih, List.foldl_cons]

/-- Each insertion answers with the value that its key had just before. -/
theorem run_insertAll_fst (calls entries : List (String × α)) (i : Nat) :
    ((insertAll calls).run entries).1[i]? = calls[i]?.map fun call =>
      ((calls.take i).foldl (fun es call => insert call.1 call.2 es) entries).lookup call.1 := by
  induction calls generalizing entries i with
  | nil => rfl
  | cons call calls ih =>
    rw [run_insertAll_cons]
    cases i with
    | zero => rfl
    | succ i =>
      rw [List.getElem?_cons_succ, ih]
      rfl

/-- The value under a key is the one that was inserted last. -/
theorem lookup_ofMembers_eq_some_iff {calls : List (String × α)} :
    (ofMembers calls).lookup key = some value ↔
      ∃ earlier later, calls = earlier ++ (key, value) :: later ∧ key ∉ keys later := by
  rw [lookup_ofMembers, List.lookup_eq_some_iff]
  constructor
  · rintro ⟨behind, before, hcalls, hnone⟩
    refine ⟨before.reverse, behind.reverse, ?_, ?_⟩
    · rw [← List.reverse_reverse calls, hcalls]
      simp
    · intro hmem
      obtain ⟨e, he, rfl⟩ := List.mem_map.mp hmem
      simpa using hnone e (List.mem_reverse.mp he)
  · rintro ⟨earlier, later, rfl, hlater⟩
    refine ⟨later.reverse, earlier.reverse, by simp, fun e he => bne_iff_ne.mpr fun hk => hlater ?_⟩
    exact List.mem_map.mpr ⟨e, List.mem_reverse.mp he, hk.symm⟩

/-- **Insertions make a map in order of arrival.**  Into no entries, they leave what the members one
after the other result in: each key that was ever inserted once, in the order of first insertions,
and under it the value that was inserted last; no other key is found.  Each insertion answers with
the value that was found under its key just before, and no entry under another key changes its value
or its place or is added by it. -/
theorem insertAll_empty (calls : List (String × α)) :
    ((insertAll calls).run []).2 = ofMembers calls ∧
    (keys (ofMembers calls)).Nodup ∧ keys (ofMembers calls) = (keys calls).eraseDups ∧
    (ofMembers calls).length = (keys calls).eraseDups.length ∧
    (∀ key, (∀ value, (ofMembers calls).lookup key = some value ↔
        ∃ earlier later, calls = earlier ++ (key, value) :: later ∧ key ∉ keys later) ∧
      ((ofMembers calls).lookup key = none ↔ key ∉ keys calls) ∧
      contains key (ofMembers calls) = decide (key ∈ keys calls)) ∧
    ∀ (i : Nat) (key : String) (value : α), calls[i]? = some (key, value) →
      ((insertAll calls).run []).1[i]? = some ((ofMembers (calls.take i)).lookup key) ∧
        ∀ (k : String) (v : α) (j : Nat), k ≠ key →
          ((ofMembers (calls.take (i + 1)))[j]? = some (k, v) ↔
          (ofMembers (calls.take i))[j]? = some (k, v)) := by
  have hkeys := keys_ofMembers calls
  refine ⟨run_insertAll_snd calls [], nodup_keys_ofMembers calls, hkeys, ?_, fun key => ?_,
    fun i key value hcall => ⟨?_, fun k v j hk => ?_⟩⟩
  · rw [← hkeys, keys, List.length_map]
  · refine ⟨fun value => lookup_ofMembers_eq_some_iff, ?_, ?_⟩
    · rw [lookup_eq_none_iff_not_mem_keys, mem_keys_ofMembers]
    · rw [contains_eq_decide_mem_keys, decide_eq_decide, mem_keys_ofMembers]
  · rw [run_insertAll_fst, hcall]
    rfl
  · rw [List.take_add_one, hcall, Option.toList_some, ofMembers_append_singleton]
    exact getElem?_insert_of_ne hk

/-- A known key takes the new value and gives up the old one; the key behind it is left alone. -/
theorem insertAll_empty_repeated :
    ((insertAll [("a", Document.bool true), ("b", .null), ("a", .bool false)]).run []).1[2]? =
        some ((ofMembers [("a", Document.bool true), ("b", .null)]).lookup "a") ∧
      (ofMembers [("a", Document.bool true), ("b", .null)]).lookup "a" = some (.bool true) ∧
      (ofMembers [("a", Document.bool true), ("b", .null), ("a", .bool false)])[1]? =
        some ("b", .null) := by
  obtain ⟨-, -, -, -, -, hstep⟩ :=
    insertAll_empty [("a", Document.bool true), ("b", .null), ("a", .bool false)]
  obtain ⟨hanswer, hothers⟩ := hstep 2 "a" (.bool false) rfl
  exact ⟨hanswer, rfl, (hothers "b" .null 1 (by decide)).mpr rfl⟩

end Entries

end ManifestCheck
