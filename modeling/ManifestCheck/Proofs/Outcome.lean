import Mathlib.Data.List.Forall2

/-!
# Computations that may fail

What the outcome of a computation in steps says about the outcomes of its steps.
-/

namespace ManifestCheck

theorem bind_ok {ε α β : Type} {reading : Except ε α} {f : α → Except ε β} {b : β}
    (h : reading >>= f = .ok b) : ∃ a, reading = .ok a ∧ f a = .ok b := by
  cases reading with
  | ok a => exact ⟨a, rfl, h⟩
  | error e => cases h

theorem map_ok {ε α β : Type} {reading : Except ε α} {f : α → β} {b : β}
    (h : reading.map f = .ok b) : ∃ a, reading = .ok a ∧ f a = b := by
  cases reading with
  | ok a => exact ⟨a, rfl, Except.ok.inj h⟩
  | error e => cases h

/-- Where a reading and an option agree on every value, an error means that there is none. -/
theorem eq_none_of_error {ε α : Type} {reading : Except ε α} {value : Option α}
    (h : ∀ a, reading = .ok a ↔ value = some a) {e : ε} (he : reading = .error e) :
    value = none := by
  cases value with
  | none => rfl
  | some a => rw [(h a).mpr rfl] at he; cases he

theorem bind_error {ε α β : Type} {reading : Except ε α} {f : α → Except ε β} {e : ε}
    (h : reading >>= f = .error e) :
    reading = .error e ∨ ∃ a, reading = .ok a ∧ f a = .error e := by
  cases reading with
  | ok a => exact .inr ⟨a, rfl, h⟩
  | error e' =>
    cases h
    exact .inl rfl

theorem map_error {ε α β : Type} {reading : Except ε α} {f : α → β} {e : ε}
    (h : reading.map f = .error e) : reading = .error e := by
  cases reading with
  | ok a => cases h
  | error e' =>
    cases h
    rfl

theorem eq_ok_of_toOption {ε α : Type} {reading : Except ε α} {a : α}
    (h : reading.toOption = some a) : reading = .ok a := by
  cases reading with
  | ok b => rw [Option.some.inj h]
  | error e => cases h

theorem toOption_eq_some_iff {ε α : Type} {reading : Except ε α} {a : α} :
    reading.toOption = some a ↔ reading = .ok a := by
  refine ⟨eq_ok_of_toOption, fun h => ?_⟩
  rw [h]
  rfl

theorem isSome_toOption_iff {ε α : Type} {reading : Except ε α} :
    reading.toOption.isSome = true ↔ ∃ a, reading = .ok a := by
  rw [Option.isSome_iff_exists]
  exact exists_congr fun _ => toOption_eq_some_iff

theorem toOption_congr {ε α : Type} {reading reading' : Except ε α}
    (h : ∀ a, reading = .ok a ↔ reading' = .ok a) : reading.toOption = reading'.toOption := by
  cases reading' with
  | ok a => rw [(h a).mpr rfl]
  | error e =>
    cases reading with
    | ok a => exact absurd ((h a).mp rfl) nofun
    | error e' => rfl

theorem exists_ok_of_map {ε α β : Type} {e : Except ε α} {f : α → β} {b : β}
    (h : e.toOption.map f = some b) : ∃ a, e = .ok a ∧ f a = b := by
  cases e with
  | error => cases h
  | ok a => exact ⟨a, rfl, Option.some.inj h⟩

/-! ## One step after the other -/

section Steps

variable {ε σ τ : Type} {step : σ → τ → Except ε σ} {items : List τ}

/-- What every step keeps is kept by all of them. -/
theorem foldlM_invariant {P : σ → Prop} (hstep : ∀ s t s', P s → step s t = .ok s' → P s')
    {old new : σ} (ho : P old) (h : items.foldlM step old = .ok new) : P new := by
  induction items generalizing old with
  | nil =>
    cases h
    exact ho
  | cons t rest ih =>
    rw [List.foldlM_cons] at h
    obtain ⟨next, hnext, h⟩ := bind_ok h
    exact ih (hstep old t next ho hnext) h

/-- Steps that cannot fail do not fail one after the other. -/
theorem foldlM_exists (h : ∀ t ∈ items, ∀ s, ∃ s', step s t = .ok s') (old : σ) :
    ∃ new, items.foldlM step old = .ok new := by
  induction items generalizing old with
  | nil => exact ⟨old, rfl⟩
  | cons t rest ih =>
    obtain ⟨ht, hrest⟩ := List.forall_mem_cons.mp h
    obtain ⟨next, hnext⟩ := ht old
    obtain ⟨new, hnew⟩ := ih hrest next
    refine ⟨new, ?_⟩
    rw [List.foldlM_cons, hnext]
    exact hnew

end Steps

/-! ## Element by element -/

/-- A computation that gives something for each element gives the list of it. -/
theorem mapM_of_forall₂ {m : Type → Type} [Monad m] [LawfulMonad m] {α β : Type} {f : α → m β}
    {xs : List α} {ys : List β} (h : List.Forall₂ (fun x y => f x = pure y) xs ys) :
    xs.mapM f = pure ys := by
  induction h with
  | nil => rfl
  | cons hy _ ih => rw [List.mapM_cons, hy, pure_bind, ih, pure_bind]

/-- If there is something for each element, there is a list of it. -/
theorem exists_forall₂_of_forall {α β : Type} {R : α → β → Prop} {xs : List α}
    (h : ∀ x ∈ xs, ∃ y, R x y) : ∃ ys, List.Forall₂ R xs ys := by
  induction xs with
  | nil => exact ⟨[], .nil⟩
  | cons x xs ih =>
    obtain ⟨⟨y, hy⟩, hxs⟩ := List.forall_mem_cons.mp h
    obtain ⟨ys, hys⟩ := ih hxs
    exact ⟨y :: ys, .cons hy hys⟩

/-- Elements that belong together stand at the same place. -/
theorem exists_getElem?_of_forall₂ {α β : Type} {R : α → β → Prop} {xs : List α} {ys : List β}
    (h : List.Forall₂ R xs ys) {i : Nat} {x : α} (hx : xs[i]? = some x) :
    ∃ y, ys[i]? = some y ∧ R x y := by
  obtain ⟨hi, rfl⟩ := List.getElem?_eq_some_iff.mp hx
  have hi' : i < ys.length := h.length_eq ▸ hi
  exact ⟨_, List.getElem?_eq_getElem hi', h.get hi hi'⟩

end ManifestCheck
