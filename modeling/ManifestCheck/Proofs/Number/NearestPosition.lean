import Mathlib.Tactic.Positivity
import ManifestCheck.Proofs.Number.NearestDouble
import ManifestCheck.Proofs.Number.NumeralValue

/-!
# Doubles on the number line

The double nearest to a rational number has a position on the number line, in units, and an infinity
has one just outside the finite range (`Binary64.nearestPosition`).  A greater number never has a
smaller position (`Binary64.nearestPosition_mono`).  The double read from a numeral is at the
position of the number that the numeral writes (`Number.Denotes.position?`); the powers of ten that
are settled without being computed make no difference (`Binary64.position?_ofFraction`).
-/

namespace ManifestCheck

namespace Binary64

/-! ## Quotients -/

variable {n d n' d' : Nat}

/-- The distance from zero of the double nearest to a quotient. -/
def quotientUnits (n d : Nat) : Nat := min (nearestUnits (n * Nat.pow 2 1074) d) overflow

/-- A distance to the left or to the right of zero. -/
def signed (negative : Bool) (units : Nat) : Int := if negative then -(units : Int) else units

theorem position?_ofQuotient (negative : Bool) (n d : Nat) :
    (ofQuotient negative n d).position? = some (signed negative (quotientUnits n d)) := by
  unfold ofQuotient quotientUnits
  generalize nearestUnits _ _ = units
  dsimp only
  split
  · rename_i h
    rw [Nat.min_eq_right h]
    rfl
  · rename_i h
    rw [Nat.min_eq_left (Nat.le_of_not_le h)]
    rfl

theorem quotientUnits_mono (hd : 0 < d) (hd' : 0 < d') (h : n * d' ≤ n' * d) :
    quotientUnits n d ≤ quotientUnits n' d' := by
  have hscaled : n * Nat.pow 2 1074 * d' ≤ n' * Nat.pow 2 1074 * d := by
    rw [Nat.mul_right_comm n, Nat.mul_right_comm n']
    exact Nat.mul_le_mul_right _ h
  have hunits := nearestUnits_mono hd hd' hscaled
  unfold quotientUnits
  exact Nat.le_min.mpr ⟨Nat.le_trans (Nat.min_le_left _ _) hunits, Nat.min_le_right _ _⟩

/-- Equal quotients have the same double. -/
theorem quotientUnits_congr (hd : 0 < d) (hd' : 0 < d') (h : n * d' = n' * d) :
    quotientUnits n d = quotientUnits n' d' :=
  Nat.le_antisymm (quotientUnits_mono hd hd' (Nat.le_of_eq h))
    (quotientUnits_mono hd' hd (Nat.le_of_eq h.symm))

/-- Less than half a unit is rounded to nothing. -/
theorem quotientUnits_eq_zero {e : Nat} (he : 1075 ≤ e) (h : n * 2 ^ e < d) :
    quotientUnits n d = 0 := by
  unfold quotientUnits
  -- the power of two is too large to be computed
  generalize hs : 1074 = s
  rw [nearestUnits_scaled_eq_zero (by omega) h]
  exact Nat.zero_min _

theorem quotientUnits_zero : quotientUnits 0 1 = 0 := by
  obtain ⟨e, he⟩ : ∃ e, 1075 ≤ e := ⟨1075, Nat.le_refl _⟩
  refine quotientUnits_eq_zero he ?_
  rw [Nat.zero_mul]
  exact Nat.one_pos

/-- What is beyond the finite range is rounded to the place just outside it. -/
theorem quotientUnits_eq_overflow {e : Nat} (he : 1024 ≤ e) (h : 2 ^ e ≤ n) :
    quotientUnits n 1 = overflow := by
  unfold quotientUnits overflow
  generalize hs : 1074 = s
  generalize hm : 2098 = m
  have hrange : 2 ^ m ≤ 2 ^ (e + s) := Nat.pow_le_pow_right Nat.two_pos (by omega)
  exact Nat.min_eq_right (Nat.le_trans hrange (le_nearestUnits_scaled s h))

/-! ## Rational numbers -/

variable {q r : ℚ}

/-- The position of the double nearest to a rational number. -/
def nearestPosition (q : ℚ) : Int := signed (decide (q < 0)) (quotientUnits q.num.natAbs q.den)

theorem nearestPosition_of_nonneg (h : 0 ≤ q) :
    nearestPosition q = quotientUnits q.num.natAbs q.den := by
  rw [nearestPosition, decide_eq_false (not_lt.mpr h)]
  rfl

theorem nearestPosition_div (hd : 0 < d) : nearestPosition (n / d) = quotientUnits n d := by
  have hnonneg : (0 : ℚ) ≤ n / d := by positivity
  rw [nearestPosition_of_nonneg hnonneg]
  generalize hq : (n / d : ℚ) = q at hnonneg
  have hnum : (q.num.natAbs : ℤ) = q.num := Int.natAbs_of_nonneg (Rat.num_nonneg.mpr hnonneg)
  have hcross : (q.num.natAbs : ℚ) * d = n * q.den := by
    have hd' : (d : ℚ) ≠ 0 := by positivity
    have hden : (q.den : ℚ) ≠ 0 := by exact_mod_cast q.den_nz
    rw [← Int.cast_natCast, hnum]
    rw [← Rat.num_div_den q] at hq
    exact ((div_eq_div_iff hd' hden).mp hq).symm
  exact congrArg Nat.cast (quotientUnits_congr q.den_pos hd (by exact_mod_cast hcross))

theorem nearestPosition_zero : nearestPosition 0 = 0 := by
  rw [nearestPosition_of_nonneg (le_refl 0)]
  exact congrArg Nat.cast quotientUnits_zero

/-- Zero is the centre: opposite numbers have opposite doubles. -/
theorem nearestPosition_neg (q : ℚ) : nearestPosition (-q) = -nearestPosition q := by
  rcases lt_trichotomy q 0 with h | rfl | h
  · rw [nearestPosition_of_nonneg (by linarith), nearestPosition, decide_eq_true h, Rat.neg_num,
      Int.natAbs_neg, Rat.neg_den]
    simp [signed]
  · rw [neg_zero, nearestPosition_zero, neg_zero]
  · have hneg : -q < 0 := by linarith
    rw [nearestPosition_of_nonneg h.le, nearestPosition, decide_eq_true hneg, Rat.neg_num,
      Int.natAbs_neg, Rat.neg_den]
    simp [signed]

theorem nearestPosition_nonneg (h : 0 ≤ q) : 0 ≤ nearestPosition q := by
  rw [nearestPosition_of_nonneg h]
  exact Int.natCast_nonneg _

theorem nearestPosition_le_of_nonneg (hq : 0 ≤ q) (h : q ≤ r) :
    nearestPosition q ≤ nearestPosition r := by
  have hr : 0 ≤ r := le_trans hq h
  have hcross : q.num.natAbs * r.den ≤ r.num.natAbs * q.den := by
    have hq' : (q.num.natAbs : ℤ) = q.num := Int.natAbs_of_nonneg (Rat.num_nonneg.mpr hq)
    have hr' : (r.num.natAbs : ℤ) = r.num := Int.natAbs_of_nonneg (Rat.num_nonneg.mpr hr)
    have hle : q.num * r.den ≤ r.num * q.den := (Rat.le_iff q r).mp h
    rw [← hq', ← hr'] at hle
    exact_mod_cast hle
  rw [nearestPosition_of_nonneg hq, nearestPosition_of_nonneg hr]
  exact_mod_cast quotientUnits_mono q.den_pos r.den_pos hcross

/-- **A greater number has no smaller double.** -/
theorem nearestPosition_mono (h : q ≤ r) : nearestPosition q ≤ nearestPosition r := by
  rcases le_total 0 q with hq | hq
  · exact nearestPosition_le_of_nonneg hq h
  · rcases le_total 0 r with hr | hr
    · have hleft := nearestPosition_nonneg (neg_nonneg.mpr hq)
      have hright := nearestPosition_nonneg hr
      rw [nearestPosition_neg] at hleft
      omega
    · -- left of zero the order is that of the opposite numbers, turned round
      have hopposite := nearestPosition_le_of_nonneg (neg_nonneg.mpr hr) (neg_le_neg h)
      rw [nearestPosition_neg, nearestPosition_neg] at hopposite
      omega

/-! ## Decimal fractions -/

theorem nearestPosition_signed (negative : Bool) (hd : 0 < d) :
    nearestPosition ((if negative then -1 else 1) * (n / d)) =
      signed negative (quotientUnits n d) := by
  cases negative with
  | false => simpa [signed] using nearestPosition_div hd
  | true => simpa [signed, nearestPosition_neg] using nearestPosition_div hd

theorem two_pow_le_ten_pow (k : Nat) : 2 ^ (3 * k) ≤ 10 ^ k := by
  rw [Nat.pow_mul]
  exact Nat.pow_le_pow_left (by decide) k

theorem quotientUnits_large {k x : Nat} (hk : k ≠ 0) (hx : 400 < x) :
    quotientUnits (k * Nat.pow 10 x) 1 = overflow := by
  refine @quotientUnits_eq_overflow _ (3 * x) (by omega) ?_
  calc 2 ^ (3 * x) ≤ 10 ^ x := two_pow_le_ten_pow x
    _ ≤ k * 10 ^ x := Nat.le_mul_of_pos_left _ (Nat.pos_of_ne_zero hk)

theorem quotientUnits_small {k x : Nat} (hx : k.log2 + 400 < x) :
    quotientUnits k (Nat.pow 10 x) = 0 := by
  have hk : k < 2 ^ (k.log2 + 1) := Nat.lt_log2_self
  obtain ⟨l, hl⟩ : ∃ l, l = k.log2 + 1 := ⟨_, rfl⟩
  rw [← hl] at hk
  obtain ⟨e, he⟩ := Nat.exists_eq_add_of_le (show l ≤ 3 * x by omega)
  refine quotientUnits_eq_zero (show 1075 ≤ e by omega) ?_
  calc k * 2 ^ e < 2 ^ l * 2 ^ e := Nat.mul_lt_mul_of_pos_right hk (Nat.two_pow_pos _)
    _ = 2 ^ (3 * x) := by rw [he, Nat.pow_add]
    _ ≤ 10 ^ x := two_pow_le_ten_pow x

/-- **A decimal fraction goes to the double nearest to it**, whatever its power of ten. -/
theorem position?_ofFraction (f : Digits.Fraction) :
    (ofFraction f).position? = some (nearestPosition f.toRat) := by
  obtain ⟨negative, k, x⟩ := f
  unfold Digits.Fraction.toRat ofFraction
  dsimp only
  by_cases h0 : k = 0
  · subst h0
    rw [if_pos rfl]
    cases negative <;> simp [position?, nearestPosition_zero]
  · rw [if_neg h0]
    cases x with
    | ofNat e =>
      have hvalue : (k : ℚ) * 10 ^ (Int.ofNat e) = ((k * Nat.pow 10 e : Nat) : ℚ) / (1 : Nat) := by
        simp
      rw [hvalue, nearestPosition_signed negative Nat.one_pos]
      by_cases hlarge : 400 < Int.ofNat e
      · rw [if_pos hlarge, quotientUnits_large h0 (by simpa using hlarge)]
        rfl
      · rw [if_neg hlarge, if_neg (by simp; omega)]
        exact position?_ofQuotient negative _ 1
    | negSucc e =>
      have hvalue : (k : ℚ) * 10 ^ (Int.negSucc e) = (k : ℚ) / ((Nat.pow 10 (e + 1) : Nat) : ℚ) := by
        rw [zpow_negSucc, div_eq_mul_inv]
        simp
      have hpos : 0 < Nat.pow 10 (e + 1) := Nat.pow_pos (by decide)
      rw [hvalue, nearestPosition_signed negative hpos, if_neg (by omega)]
      by_cases hsmall : Int.negSucc e + (k.log2 : Nat) < -400
      · rw [if_pos hsmall, quotientUnits_small (by omega)]
        rfl
      · rw [if_neg hsmall]
        exact position?_ofQuotient negative _ _

end Binary64

/-- **A number is compared at the position of the double nearest to what its literal writes.** -/
theorem Number.Denotes.position? {n : Number} {q : ℚ} (h : n.Denotes q) :
    n.toBinary64.position? = some (Binary64.nearestPosition q) := by
  obtain ⟨f, hf, rfl⟩ := h.readFraction?
  rw [Number.toBinary64, Binary64.read?, hf]
  exact Binary64.position?_ofFraction f

end ManifestCheck
