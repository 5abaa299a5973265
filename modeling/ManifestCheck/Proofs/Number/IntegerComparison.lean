import ManifestCheck.Proofs.Number.NearestPosition

/-!
# Comparing integers with a bound

Integers within 128 bits compare by value.  One beyond them compares by its double, and doubles far
from each other are in the order of the integers they stand for.  A bound of at most `2 ^ 126` is
far from everything beyond 128 bits, so that an integer literal of any length compares with it by
value (`compare?_eq_compare`).
-/

namespace ManifestCheck

/-! ## Integers and their doubles -/

namespace Digits

/-- A whole number reads as a fraction without a power of ten. -/
theorem readFraction?_of_readSigned? {cs : List Char} {v : Int} (h : readSigned? cs = some v) :
    ∃ negative k, readFraction? cs = some ⟨negative, k, 0⟩ ∧
      v = if negative then -(k : Int) else k := by
  unfold readSigned? at h
  unfold readFraction?
  generalize splitSign cs = parts at h
  obtain ⟨negative, row⟩ := parts
  obtain ⟨k, hk, rfl⟩ := Option.map_eq_some_iff.mp h
  unfold read? at hk
  split at hk
  · cases hk
  · rename_i hrow
    cases hk
    rw [Bool.or_eq_true, not_or, Bool.not_eq_true, Bool.not_eq_true, Bool.not_eq_false'] at hrow
    obtain ⟨hne, hall⟩ := hrow
    have hdigits := List.all_eq_true.mp hall
    have htake : row.takeWhile Char.isDigit = row := List.takeWhile_eq_self_iff.mpr hdigits
    have hdrop : row.dropWhile Char.isDigit = [] := List.dropWhile_eq_nil_iff.mpr hdigits
    refine ⟨negative, value row, ?_, rfl⟩
    simp [htake, hdrop, hne, readExponent?]

end Digits

namespace Binary64

/-- The distance from zero of the double nearest to a whole number. -/
def wholeUnits (k : Nat) : Nat := min (nearestUnits (k * Nat.pow 2 1074) 1) overflow

theorem nearestPosition_whole (negative : Bool) (k : Nat) :
    nearestPosition ((if negative then -(k : Int) else k : Int) : ℚ) =
      if negative then -(wholeUnits k : Int) else wholeUnits k := by
  have h := @nearestPosition_signed k 1 negative Nat.one_pos
  have hvalue : ((if negative then -(k : Int) else k : Int) : ℚ) =
      (if negative then -1 else 1) * ((k : ℚ) / (1 : Nat)) := by
    cases negative <;> simp
  rw [hvalue, h]
  rfl

/-- Whole numbers on two sides of a factor of two have different doubles, as long as the smaller
one is within the range of doubles. -/
theorem wholeUnits_lt {k k' e : Nat} (he : e + 1 + 1074 ≤ 2098) (h : k ≤ 2 ^ e)
    (h' : 2 ^ (e + 1) ≤ k') : wholeUnits k < wholeUnits k' := by
  unfold wholeUnits overflow
  -- the powers of two are too large to be computed
  generalize 1074 = s at he ⊢
  generalize 2098 = m at he ⊢
  have near : nearestUnits (k * Nat.pow 2 s) 1 ≤ 2 ^ (e + s) := nearestUnits_scaled_le s h
  have between : 2 ^ (e + s) < 2 ^ (e + 1 + s) := Nat.pow_lt_pow_right Nat.one_lt_two (by omega)
  have far : 2 ^ (e + 1 + s) ≤ nearestUnits (k' * Nat.pow 2 s) 1 := le_nearestUnits_scaled s h'
  have within : 2 ^ (e + 1 + s) ≤ Nat.pow 2 m := Nat.pow_le_pow_right Nat.two_pos he
  calc min (nearestUnits (k * Nat.pow 2 s) 1) (Nat.pow 2 m)
    _ ≤ 2 ^ (e + s) := Nat.le_trans (Nat.min_le_left _ _) near
    _ < 2 ^ (e + 1 + s) := between
    _ ≤ min (nearestUnits (k' * Nat.pow 2 s) 1) (Nat.pow 2 m) := Nat.le_min.mpr ⟨far, within⟩

end Binary64

namespace Number

variable {n m : Number} {v b : Int}

/-- The value of an integer literal, however many digits it has. -/
def intValue? (n : Number) : Option Int :=
  if n.isInteger then Digits.readSigned? n.literal.toList else none

theorem isInteger_of_intValue? (h : n.intValue? = some v) : n.isInteger = true := by
  unfold intValue? at h
  split at h
  · assumption
  · cases h

/-- An integer literal denotes its value. -/
theorem Denotes.intValue? {q : ℚ} (h : n.Denotes q) (hi : n.isInteger = true) :
    ∃ v : Int, n.intValue? = some v ∧ q = v := by
  rw [Number.intValue?, if_pos hi]
  exact h.readSigned? (isInteger_iff.mp hi)

/-- Every integer literal has a value. -/
theorem exists_intValue (h : n.IsLiteral) (hi : n.isInteger = true) :
    ∃ v, n.intValue? = some v := by
  obtain ⟨q, hq⟩ := isNumeral_iff.mp h.isNumeral
  obtain ⟨v, hv, -⟩ := Denotes.intValue? hq hi
  exact ⟨v, hv⟩

/-- The double of an integer literal is the one nearest to its value. -/
theorem position?_of_intValue? (h : n.intValue? = some v) :
    n.toBinary64.position? = some (Binary64.nearestPosition v) := by
  unfold intValue? at h
  split at h
  · obtain ⟨negative, k, hf, rfl⟩ := Digits.readFraction?_of_readSigned? h
    rw [toBinary64, Binary64.read?, hf]
    show (Binary64.ofFraction _).position? = _
    rw [Binary64.position?_ofFraction, Digits.Fraction.toRat]
    cases negative <;> simp
  · cases h

/-! ## Integers of 128 bits -/

theorem int128Min_eq : int128Min = -2 ^ 127 := rfl

theorem int128Max_eq : int128Max = 2 ^ 127 - 1 := rfl

/-- The integers of 128 bits. -/
def WithinInt128 (v : Int) : Prop := int128Min ≤ v ∧ v ≤ int128Max

instance (v : Int) : Decidable (WithinInt128 v) := inferInstanceAs (Decidable (_ ∧ _))

theorem toInt128?_eq (n : Number) :
    n.toInt128? = n.intValue?.filter fun i => decide (WithinInt128 i) := by
  unfold toInt128? intValue?
  split <;> rfl

theorem toInt128?_eq_some_iff : n.toInt128? = some v ↔ n.intValue? = some v ∧ WithinInt128 v := by
  rw [toInt128?_eq, Option.filter_eq_some_iff, decide_eq_true_iff]

theorem toInt128?_of_intValue? (h : n.intValue? = some v) :
    n.toInt128? = if WithinInt128 v then some v else none := by
  rw [toInt128?_eq, h, Option.filter_some]
  simp only [decide_eq_true_iff]

/-! ## The two ways of comparing -/

theorem compare?_of_exact (hn : n.toInt128? = some v) (hm : m.toInt128? = some b) :
    n.compare? m = some (compare v b) := by
  rw [compare?, hn, hm]

theorem compare?_of_rounded (h : n.toInt128? = none ∨ m.toInt128? = none) :
    n.compare? m = n.toBinary64.compare? m.toBinary64 := by
  unfold compare?
  split
  · rename_i hn hm
    rcases h with h | h
    · cases hn.symm.trans h
    · cases hm.symm.trans h
  · rfl

/-! ## A bound in reach -/

theorem exists_sign (v : Int) :
    ∃ (negative : Bool) (k : Nat), v = if negative then -(k : Int) else k := by
  obtain ⟨k, rfl | rfl⟩ := Int.eq_nat_or_neg v
  · exact ⟨false, k, rfl⟩
  · exact ⟨true, k, rfl⟩

/-- Against an integer closer to zero, the sign alone decides. -/
theorem compare_far (neg neg' : Bool) {near far : Nat} (h : near < far) :
    compare (if neg then -(far : Int) else far) (if neg' then -(near : Int) else near) =
      if neg then .lt else .gt := by
  cases neg with
  | true =>
    have hlt : -(far : Int) < if neg' then -(near : Int) else near := by
      cases neg' <;> simp <;> omega
    exact compare_lt_iff_lt.mpr hlt
  | false =>
    have hlt : (if neg' then -(near : Int) else near) < (far : Int) := by
      cases neg' <;> simp <;> omega
    exact compare_gt_iff_gt.mpr hlt

/-- **Integers of any size compare by value** with a bound well within 128 bits. -/
theorem compare?_eq_compare (hn : n.intValue? = some v) (hm : m.intValue? = some b)
    (hb : b.natAbs ≤ 2 ^ 126) : n.compare? m = some (compare v b) := by
  have hb128 : WithinInt128 b := by
    unfold WithinInt128
    rw [int128Min_eq, int128Max_eq]
    omega
  have hmb : m.toInt128? = some b := toInt128?_eq_some_iff.mpr ⟨hm, hb128⟩
  by_cases hv : WithinInt128 v
  · exact compare?_of_exact (toInt128?_eq_some_iff.mpr ⟨hn, hv⟩) hmb
  · have hnv : n.toInt128? = none := (toInt128?_of_intValue? hn).trans (if_neg hv)
    have hpn := position?_of_intValue? hn
    have hpm := position?_of_intValue? hm
    obtain ⟨neg, k, rfl⟩ := exists_sign v
    obtain ⟨neg', k', rfl⟩ := exists_sign b
    rw [Binary64.nearestPosition_whole] at hpn hpm
    rw [compare?_of_rounded (.inl hnv), Binary64.compare?, hpn, hpm]
    have hk : 2 ^ 127 ≤ k := by
      unfold WithinInt128 at hv
      rw [int128Min_eq, int128Max_eq] at hv
      cases neg <;> simp at hv <;> omega
    have hk' : k' ≤ 2 ^ 126 := by cases neg' <;> simp at hb <;> omega
    have apart := Binary64.wholeUnits_lt (by decide) hk' hk
    have less : k' < k := by omega
    show some (compare _ _) = some (compare _ _)
    rw [compare_far neg neg' apart, compare_far neg neg' less]

end Number

end ManifestCheck
