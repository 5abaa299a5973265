import ManifestCheck.Proofs.Pattern.SetMatching

/-!
# Matches of whole texts

A pattern is read between the anchors of the text (`Expr.whole`), so that it occurs in a text exactly
if what stands between them leads from the start of the text to its end
(`Expr.whole_occursIn_iff`).
-/

namespace ManifestCheck

namespace Pattern.Expr

/-- An expression between the anchors of the text. -/
def whole (e : Expr) : Expr :=
  seq (assertion .textStart) (seq e (seq (assertion .textEnd) empty))

variable {text : List Char} {e : Expr} {i j : Nat}

theorem textStart_spans_iff (hi : i ≤ text.length) :
    (assertion .textStart).Spans text i j ↔ i = 0 ∧ j = 0 := by
  have hbefore : (before text i).isNone = true ↔ i = 0 := by
    unfold before
    by_cases h0 : i = 0
    · simp [h0]
    · have hlt : i - 1 < text.length := by omega
      simp [h0, hlt]
  rw [Spans, Assertion.holds, hbefore]
  omega

theorem textEnd_spans_iff (hi : i ≤ text.length) :
    (seq (assertion .textEnd) empty).Spans text i j ↔ i = text.length ∧ j = text.length := by
  have hafter : text[i]?.isNone = true ↔ i = text.length := by
    rw [Option.isNone_iff_eq_none, List.getElem?_eq_none_iff]
    omega
  simp only [Spans, Assertion.holds, hafter]
  constructor
  · intro h
    obtain ⟨k, ⟨rfl, hk⟩, rfl⟩ := h
    exact ⟨hk, hk⟩
  · intro h
    obtain ⟨rfl, rfl⟩ := h
    exact ⟨_, ⟨rfl, rfl⟩, rfl⟩

theorem whole_spans_iff (hi : i ≤ text.length) :
    e.whole.Spans text i j ↔ i = 0 ∧ j = text.length ∧ e.Spans text 0 text.length := by
  have hwhole : e.whole.Spans text i j ↔ ∃ k, (assertion .textStart).Spans text i k ∧
      ∃ l, e.Spans text k l ∧ (seq (assertion .textEnd) empty).Spans text l j := Iff.rfl
  rw [hwhole]
  simp only [textStart_spans_iff hi]
  constructor
  · intro h
    obtain ⟨_, ⟨rfl, rfl⟩, l, hl, hj⟩ := h
    obtain ⟨rfl, rfl⟩ := (textEnd_spans_iff (hl.within hi)).mp hj
    exact ⟨rfl, rfl, hl⟩
  · intro h
    obtain ⟨rfl, rfl, he⟩ := h
    exact ⟨0, ⟨rfl, rfl⟩, _, he, (textEnd_spans_iff (Nat.le_refl _)).mpr ⟨rfl, rfl⟩⟩

/-- **Between its anchors an expression occurs in a text as a whole or not at all.** -/
theorem whole_occursIn_iff (he : e.boundsAscend = true) :
    e.whole.occursIn text = true ↔ e.Spans text 0 text.length := by
  have hbounds : e.whole.boundsAscend = true := by simp [whole, boundsAscend, he]
  rw [occursIn_iff hbounds]
  constructor
  · intro hx
    obtain ⟨i, j, hi, h⟩ := hx
    exact ((whole_spans_iff hi).mp h).2.2
  · intro h
    exact ⟨0, text.length, Nat.zero_le _, (whole_spans_iff (Nat.zero_le _)).mpr ⟨rfl, rfl, h⟩⟩

end Pattern.Expr

end ManifestCheck
