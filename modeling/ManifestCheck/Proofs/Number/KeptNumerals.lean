import ManifestCheck.Proofs.Document.RenderingRoundTrip
import ManifestCheck.Proofs.Number.NumeralValue

/-!
# Numerals as they are kept

Of a numeral that is read only the exponent may change its spelling: the mark becomes `e`, and a sign
that is left out becomes `+` (`Number.Respelled`).  So a numeral is kept as it is written just if its
exponent already has this form (`Number.kept_eq_self_iff`).  Whether there is a fraction or an
exponent does not change (`Number.isInteger_kept`), and neither does the number that is written
(`Number.denotes_kept_iff`).
-/

namespace ManifestCheck

namespace Number

variable {n : Number} {cs : List Char} {q : ℚ} {e : Int}

theorem keptChars_cons {c : Char} (h : c ≠ 'e' ∧ c ≠ 'E') (cs : List Char) :
    keptChars (c :: cs) = c :: keptChars cs := by
  have hfront : ∀ d ∈ [c], d ≠ 'e' ∧ d ≠ 'E' := by simpa using h
  exact keptChars_append hfront cs

/-! ## The kind -/

/-- Written with no point and with no mark of an exponent. -/
def IsPlain (n : Number) : Prop :=
  '.' ∉ n.literal.toList ∧ 'e' ∉ n.literal.toList ∧ 'E' ∉ n.literal.toList

instance (n : Number) : Decidable n.IsPlain := inferInstanceAs (Decidable (_ ∧ _ ∧ _))

theorem isInteger_iff_isPlain : n.isInteger = true ↔ n.IsPlain := by
  rw [isInteger_iff]
  constructor
  · intro h
    refine ⟨fun hc => ?_, fun hc => ?_, fun hc => ?_⟩ <;> exact absurd (h _ hc) (by decide)
  · intro h c hc
    obtain ⟨hpoint, he, hE⟩ := h
    have hne : c ≠ '.' ∧ c ≠ 'e' ∧ c ≠ 'E' :=
      ⟨ne_of_mem_of_not_mem hc hpoint, ne_of_mem_of_not_mem hc he, ne_of_mem_of_not_mem hc hE⟩
    simp [marksFraction, hne]

/-- Up to the first mark nothing is changed, and the mark is replaced by a mark. -/
theorem any_marksFraction_keptChars (cs : List Char) :
    (keptChars cs).any marksFraction = cs.any marksFraction := by
  induction cs with
  | nil => rfl
  | cons c cs ih =>
    by_cases h : c = 'e' ∨ c = 'E'
    · have hmark : marksFraction c = true := by rcases h with rfl | rfl <;> decide
      have he : marksFraction 'e' = true := by decide
      rw [keptChars_mark h, List.any_cons, List.any_cons, hmark, he, Bool.true_or, Bool.true_or]
    · rw [keptChars_cons (not_or.mp h), List.any_cons, List.any_cons, ih]

theorem isInteger_kept (n : Number) : n.kept.isInteger = n.isInteger := by
  rw [isInteger, isInteger, kind, kind, kept, String.toList_ofList, any_marksFraction_keptChars]

/-! ## The value -/

theorem WritesExponent.keptChars (h : WritesExponent cs e) : WritesExponent (keptChars cs) e := by
  cases h with
  | nothing => exact .nothing
  | unsigned hmark hrow =>
    rw [keptChars_mark hmark, signed_row hrow]
    exact .plus (.inl rfl) hrow
  | plus hmark hrow =>
    rw [keptChars_mark hmark]
    exact .plus (.inl rfl) hrow
  | minus hmark hrow =>
    rw [keptChars_mark hmark]
    exact .minus (.inl rfl) hrow

theorem WritesMagnitude.keptChars (h : WritesMagnitude cs q) :
    WritesMagnitude (keptChars cs) q := by
  obtain @⟨whole, fraction, exponent, _, _, hwhole, hf, he⟩ := h
  have hfront : ∀ c ∈ whole ++ fraction, c ≠ 'e' ∧ c ≠ 'E' :=
    not_mark_of_mem (.inl rfl) hwhole (isFraction_iff.mpr ⟨_, hf⟩)
  rw [keptChars_append hfront]
  exact .parts hwhole hf he.keptChars

/-- **What is kept of a numeral writes the same number.** -/
theorem Writes.keptChars (h : Writes cs q) : Writes (keptChars cs) q := by
  cases h with
  | plain h => exact .plain h.keptChars
  | minus h =>
    rw [keptChars_cons (by decide)]
    exact .minus h.keptChars

theorem denotes_kept_iff (h : IsNumeral n.literal.toList) : n.kept.Denotes q ↔ n.Denotes q := by
  obtain ⟨r, hr⟩ := isNumeral_iff.mp h
  have hkept : n.kept.Denotes r := by
    rw [Denotes, kept, String.toList_ofList]
    exact hr.keptChars
  constructor
  · intro hq
    rw [hq.unique hkept]
    exact hr
  · intro hq
    rw [Writes.unique hq hr]
    exact hkept

/-! ## The spelling -/

/-- Two spellings of a numeral, the second of which has `e` for the mark of its exponent and a sign
behind it. -/
inductive Respelled : List Char → List Char → Prop
  | same {cs : List Char} : (∀ c ∈ cs, c ≠ 'e' ∧ c ≠ 'E') → Respelled cs cs
  | signed {front row : List Char} {mark sign : Char} : (∀ c ∈ front, c ≠ 'e' ∧ c ≠ 'E') →
    mark = 'e' ∨ mark = 'E' → sign = '+' ∨ sign = '-' → IsRow row →
    Respelled (front ++ mark :: sign :: row) (front ++ 'e' :: sign :: row)
  | unsigned {front row : List Char} {mark : Char} : (∀ c ∈ front, c ≠ 'e' ∧ c ≠ 'E') →
    mark = 'e' ∨ mark = 'E' → IsRow row →
    Respelled (front ++ mark :: row) (front ++ 'e' :: '+' :: row)

theorem respelled_keptChars (h : IsNumeral cs) : Respelled cs (keptChars cs) := by
  obtain ⟨minus, whole, fraction, exponent, hminus, hwhole, hfraction, hexponent, rfl⟩ := h
  have hfront := not_mark_of_mem hminus hwhole hfraction
  rw [keptChars_append hfront]
  rcases hexponent with rfl | ⟨mark, sign, row, hmark, hsign, hrow, rfl⟩
  · rw [keptChars, List.append_nil]
    exact .same hfront
  · rw [keptChars_mark hmark]
    rcases hsign with rfl | rfl | rfl
    · rw [List.nil_append, signed_row hrow]
      exact .unsigned hfront hmark hrow
    · exact .signed hfront hmark (.inl rfl) hrow
    · exact .signed hfront hmark (.inr rfl) hrow

/-- **A numeral is kept as it is written just if it is a literal already**: it has no exponent, or one
with the mark `e` and a sign. -/
theorem kept_eq_self_iff (h : IsNumeral n.literal.toList) : n.kept = n ↔ n.IsLiteral := by
  refine ⟨fun hn => ?_, fun hn => hn.kept_eq⟩
  rw [← hn]
  exact isLiteral_kept h

end Number

end ManifestCheck
