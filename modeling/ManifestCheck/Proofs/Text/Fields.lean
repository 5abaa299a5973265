import ManifestCheck.Text.Fields

/-!
# What a text is cut into

A separator between two texts cuts them apart (`Text.fields_append`), and no field holds a
separator.  Steps of a pointer are fields between slashes, lines of a report are fields between line
breaks.
-/

namespace ManifestCheck.Text

variable {separator : Char}

/-- The first separator of a text is at one place. -/
theorem append_separator_inj {a b p q : List Char} (ha : separator ∉ a) (hb : separator ∉ b)
    (h : a ++ separator :: p = b ++ separator :: q) : a = b ∧ p = q := by
  have inside : ∀ {x : List Char}, separator ∉ x → ∀ c ∈ x, decide (c ≠ separator) = true :=
    fun hx c hc => decide_eq_true fun he => hx (he ▸ hc)
  have before := congrArg (List.takeWhile (· ≠ separator)) h
  have behind := congrArg (List.dropWhile (· ≠ separator)) h
  rw [List.takeWhile_append_of_pos (inside ha), List.takeWhile_append_of_pos (inside hb)]
    at before
  rw [List.dropWhile_append_of_pos (inside ha), List.dropWhile_append_of_pos (inside hb)]
    at behind
  simpa using And.intro before behind

theorem fields_ne_nil (separator : Char) (cs : List Char) : fields separator cs ≠ [] := by
  cases cs with
  | nil => exact List.cons_ne_nil _ _
  | cons c cs =>
    rw [fields]
    split
    · exact List.cons_ne_nil _ _
    · split <;> exact List.cons_ne_nil _ _

/-- Without a separator there is one field. -/
theorem fields_of_not_mem {cs : List Char} (h : separator ∉ cs) : fields separator cs = [cs] := by
  induction cs with
  | nil => rfl
  | cons c cs ih =>
    have hc : c ≠ separator := fun he => h (he ▸ List.mem_cons_self)
    rw [fields, if_neg hc, ih fun hm => h (List.mem_cons_of_mem c hm)]

/-- **A separator parts the fields in front of it from those behind it.** -/
theorem fields_append (cs rest : List Char) :
    fields separator (cs ++ separator :: rest) =
      fields separator cs ++ fields separator rest := by
  induction cs with
  | nil => exact if_pos rfl
  | cons c cs ih =>
    rw [List.cons_append, fields, fields, ih]
    split
    · rfl
    · obtain ⟨f, fs, hfs⟩ := List.exists_cons_of_ne_nil (fields_ne_nil separator cs)
      rw [hfs]
      rfl

theorem not_mem_of_mem_fields {cs field : List Char} (h : field ∈ fields separator cs) :
    separator ∉ field := by
  induction cs generalizing field with
  | nil =>
    rw [List.mem_singleton.mp h]
    exact List.not_mem_nil
  | cons c cs ih =>
    rw [fields] at h
    split at h
    · rcases List.mem_cons.mp h with rfl | h
      · exact List.not_mem_nil
      · exact ih h
    · rename_i hc
      have hc' : separator ≠ c := fun he => hc he.symm
      split at h
      · rw [List.mem_singleton.mp h]
        exact List.not_mem_cons_of_ne_of_not_mem hc' List.not_mem_nil
      · rename_i f fs hfs
        rw [hfs] at ih
        rcases List.mem_cons.mp h with rfl | h
        · exact List.not_mem_cons_of_ne_of_not_mem hc' (ih List.mem_cons_self)
        · exact ih (List.mem_cons_of_mem f h)

end ManifestCheck.Text
