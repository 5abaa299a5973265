import Mathlib.Tactic.Linarith
import ManifestCheck.Number.Binary64

/-!
# Rounding to doubles keeps the order

A quotient goes to the nearest double, and a greater quotient never to a smaller one
(`nearestUnits_mono`).  Between two quotients with the same spacing this is the same fact about
whole numbers (`roundHalfEven_mono`).  If the spacing differs, a power of two lies between the
quotients, and rounding crosses none.
-/

namespace ManifestCheck.Binary64

/-! ## Whole numbers -/

variable {n d n' d' m : Nat}

theorem roundHalfEven_le (hd : 0 < d) (h : n ≤ m * d) : roundHalfEven n d ≤ m := by
  have hq : n / d ≤ m := Nat.div_le_of_le_mul (by rwa [Nat.mul_comm])
  rcases Nat.lt_or_ge (n / d) m with hlt | hge
  · unfold roundHalfEven
    dsimp only
    split
    · omega
    · split
      · omega
      · split <;> omega
  · -- the quotient is exact, so that nothing is left to round up for
    have he : n / d = m := Nat.le_antisymm hq hge
    have hr : n % d = 0 := by
      have := Nat.div_add_mod n d
      rw [he, Nat.mul_comm d m] at this
      omega
    unfold roundHalfEven
    dsimp only
    rw [hr, if_pos (by omega), he]

theorem div_le_roundHalfEven (n d : Nat) : n / d ≤ roundHalfEven n d := by
  unfold roundHalfEven
  dsimp only
  split
  · exact Nat.le_refl _
  · split
    · exact Nat.le_succ _
    · split
      · exact Nat.le_refl _
      · exact Nat.le_succ _

theorem le_roundHalfEven (hd : 0 < d) (h : m * d ≤ n) : m ≤ roundHalfEven n d :=
  Nat.le_trans ((Nat.le_div_iff_mul_le hd).mpr h) (div_le_roundHalfEven n d)

theorem div_le_div_of_cross (hd : 0 < d) (hd' : 0 < d') (h : n * d' ≤ n' * d) :
    n / d ≤ n' / d' := by
  rw [Nat.le_div_iff_mul_le hd']
  have hq : n / d * d ≤ n := Nat.div_mul_le_self n d
  have hm : n / d * d' * d ≤ n' * d := calc
    n / d * d' * d = n / d * d * d' := Nat.mul_right_comm _ _ _
    _ ≤ n * d' := Nat.mul_le_mul_right d' hq
    _ ≤ n' * d := h
  exact Nat.le_of_mul_le_mul_right hm hd

theorem roundHalfEven_mono (hd : 0 < d) (hd' : 0 < d') (h : n * d' ≤ n' * d) :
    roundHalfEven n d ≤ roundHalfEven n' d' := by
  have hq := div_le_div_of_cross hd hd' h
  rcases Nat.lt_or_ge (n / d) (n' / d') with hlt | hge
  · have hn : n ≤ n' / d' * d := by
      have := Nat.div_add_mod n d
      have hr := Nat.mod_lt n hd
      nlinarith
    exact Nat.le_trans (roundHalfEven_le hd hn) (div_le_roundHalfEven n' d')
  · -- with equal quotients the remainders are in the same order as their sums
    have he : n / d = n' / d' := Nat.le_antisymm hq hge
    have hr : n % d * d' ≤ n' % d' * d := by
      have h₁ := Nat.div_add_mod n d
      have h₂ := Nat.div_add_mod n' d'
      rw [← h₁, ← h₂, he] at h
      nlinarith
    have up : d ≤ 2 * (n % d) → d' ≤ 2 * (n' % d') := fun hx =>
      Nat.le_of_mul_le_mul_right (c := d) (by nlinarith) hd
    have up' : d < 2 * (n % d) → d' < 2 * (n' % d') := fun hx =>
      Nat.lt_of_mul_lt_mul_right (a := d) (by nlinarith)
    unfold roundHalfEven
    dsimp only
    rw [he]
    generalize n % d = r at up up'
    generalize n' % d' = r' at up up'
    split_ifs <;> omega

/-! ## Units -/

theorem log2_le_log2 {a b : Nat} (h : a ≤ b) : a.log2 ≤ b.log2 := by
  rcases Nat.eq_zero_or_pos a with rfl | ha
  · rw [Nat.log2_zero]
    exact Nat.zero_le _
  · have hb : b ≠ 0 := by omega
    exact (Nat.le_log2 hb).mpr (Nat.le_trans (Nat.log2_self_le (Nat.ne_of_gt ha)) h)

theorem pow_log2_mul_le (hd : 0 < d) (hq : n / d ≠ 0) : 2 ^ (n / d).log2 * d ≤ n :=
  (Nat.le_div_iff_mul_le hd).mp (Nat.log2_self_le hq)

/-- Rounding does not fall below a power of two. -/
theorem le_nearestUnits {e : Nat} (hd : 0 < d) (h : 2 ^ e * d ≤ n) : 2 ^ e ≤ nearestUnits n d := by
  have hq : n / d ≠ 0 := by
    have hle : 2 ^ e ≤ n / d := (Nat.le_div_iff_mul_le hd).mpr h
    have hpos : 0 < 2 ^ e := Nat.two_pow_pos e
    omega
  have hk : spacing n d ≤ (n / d).log2 := Nat.sub_le _ _
  unfold nearestUnits
  dsimp only
  generalize spacing n d = k at hk
  have hdk : 0 < d * 2 ^ k := Nat.mul_pos hd (Nat.two_pow_pos k)
  rcases Nat.le_total k e with hke | hek
  · have hr : 2 ^ (e - k) ≤ roundHalfEven n (d * 2 ^ k) := by
      refine le_roundHalfEven hdk ?_
      rwa [Nat.mul_left_comm, ← Nat.pow_add, Nat.sub_add_cancel hke, Nat.mul_comm]
    calc 2 ^ e = 2 ^ (e - k) * 2 ^ k := by rw [← Nat.pow_add, Nat.sub_add_cancel hke]
      _ ≤ roundHalfEven n (d * 2 ^ k) * 2 ^ k := Nat.mul_le_mul_right _ hr
  · have hr : 1 ≤ roundHalfEven n (d * 2 ^ k) := by
      refine le_roundHalfEven hdk ?_
      calc 1 * (d * 2 ^ k) = 2 ^ k * d := by rw [Nat.one_mul, Nat.mul_comm]
        _ ≤ 2 ^ (n / d).log2 * d := Nat.mul_le_mul_right d (Nat.pow_le_pow_right (by decide) hk)
        _ ≤ n := pow_log2_mul_le hd hq
    calc 2 ^ e ≤ 2 ^ k := Nat.pow_le_pow_right (by decide) hek
      _ = 1 * 2 ^ k := (Nat.one_mul _).symm
      _ ≤ roundHalfEven n (d * 2 ^ k) * 2 ^ k := Nat.mul_le_mul_right _ hr

/-- Rounding does not rise above a power of two. -/
theorem nearestUnits_le {e : Nat} (hd : 0 < d) (h : n ≤ 2 ^ e * d) : nearestUnits n d ≤ 2 ^ e := by
  have hk : spacing n d ≤ e := by
    have hq : n / d ≤ 2 ^ e := Nat.div_le_of_le_mul (by rwa [Nat.mul_comm])
    have hlog : (n / d).log2 < e + 1 := by
      rcases Nat.eq_zero_or_pos (n / d) with h0 | hpos
      · rw [h0]
        exact Nat.succ_pos e
      · refine (Nat.log2_lt (Nat.ne_of_gt hpos)).mpr (Nat.lt_of_le_of_lt hq ?_)
        exact Nat.pow_lt_pow_right (by decide) (Nat.lt_succ_self e)
    unfold spacing
    omega
  unfold nearestUnits
  dsimp only
  generalize spacing n d = k at hk
  have hr : roundHalfEven n (d * 2 ^ k) ≤ 2 ^ (e - k) := by
    refine roundHalfEven_le (Nat.mul_pos hd (Nat.two_pow_pos k)) ?_
    rwa [Nat.mul_left_comm, ← Nat.pow_add, Nat.sub_add_cancel hk, Nat.mul_comm]
  calc roundHalfEven n (d * 2 ^ k) * 2 ^ k ≤ 2 ^ (e - k) * 2 ^ k := Nat.mul_le_mul_right _ hr
    _ = 2 ^ e := by rw [← Nat.pow_add, Nat.sub_add_cancel hk]

/-- **A greater quotient has no smaller double.** -/
theorem nearestUnits_mono (hd : 0 < d) (hd' : 0 < d') (h : n * d' ≤ n' * d) :
    nearestUnits n d ≤ nearestUnits n' d' := by
  rcases Nat.lt_or_ge (spacing n d) (spacing n' d') with hlt | hge
  · -- the quotients have different logarithms, so that a power of two lies between them
    have hlog : (n / d).log2 < (n' / d').log2 := by
      unfold spacing at hlt
      omega
    have hq' : n' / d' ≠ 0 := fun h0 => by
      rw [h0] at hlog
      exact Nat.not_lt_zero _ hlog
    have hn : n ≤ 2 ^ (n' / d').log2 * d := by
      have hq : n / d < 2 ^ (n' / d').log2 :=
        Nat.lt_of_lt_of_le Nat.lt_log2_self (Nat.pow_le_pow_right (by decide) hlog)
      exact Nat.le_of_lt ((Nat.div_lt_iff_lt_mul hd).mp hq)
    exact Nat.le_trans (nearestUnits_le hd hn) (le_nearestUnits hd' (pow_log2_mul_le hd' hq'))
  · have hle : spacing n d ≤ spacing n' d' := by
      have hlog := log2_le_log2 (div_le_div_of_cross hd hd' h)
      unfold spacing
      omega
    have he : spacing n d = spacing n' d' := Nat.le_antisymm hle hge
    unfold nearestUnits
    dsimp only
    rw [he]
    generalize spacing n' d' = k
    have hp : 0 < 2 ^ k := Nat.two_pow_pos k
    refine Nat.mul_le_mul_right _ (roundHalfEven_mono (Nat.mul_pos hd hp) (Nat.mul_pos hd' hp) ?_)
    rw [← Nat.mul_assoc, ← Nat.mul_assoc]
    exact Nat.mul_le_mul_right _ h

/-- Less than half a unit is rounded to nothing. -/
theorem nearestUnits_eq_zero (h : 2 * n < d) : nearestUnits n d = 0 := by
  have hlt : n < d := by omega
  have hdiv : n / d = 0 := Nat.div_eq_of_lt hlt
  have hspacing : spacing n d = 0 := by rw [spacing, hdiv, Nat.log2_zero]
  unfold nearestUnits roundHalfEven
  rw [hspacing]
  simp [hdiv, Nat.mod_eq_of_lt hlt, h]

/-! ## Scaled whole numbers -/

theorem nearestUnits_scaled_eq_zero {e s : Nat} (hs : s < e) (h : n * 2 ^ e < d) :
    nearestUnits (n * Nat.pow 2 s) d = 0 := by
  have hpow : 2 * Nat.pow 2 s ≤ 2 ^ e := by
    rw [Nat.pow_eq, ← Nat.pow_succ']
    exact Nat.pow_le_pow_right Nat.two_pos hs
  refine nearestUnits_eq_zero ?_
  calc 2 * (n * Nat.pow 2 s) = n * (2 * Nat.pow 2 s) := Nat.mul_left_comm _ _ _
    _ ≤ n * 2 ^ e := Nat.mul_le_mul_left n hpow
    _ < d := h

theorem nearestUnits_scaled_le {k e : Nat} (s : Nat) (h : k ≤ 2 ^ e) :
    nearestUnits (k * Nat.pow 2 s) 1 ≤ 2 ^ (e + s) := by
  refine nearestUnits_le Nat.one_pos ?_
  rw [Nat.pow_eq, Nat.mul_one, Nat.pow_add]
  exact Nat.mul_le_mul_right _ h

theorem le_nearestUnits_scaled {k e : Nat} (s : Nat) (h : 2 ^ e ≤ k) :
    2 ^ (e + s) ≤ nearestUnits (k * Nat.pow 2 s) 1 := by
  refine le_nearestUnits Nat.one_pos ?_
  rw [Nat.pow_eq, Nat.mul_one, Nat.pow_add]
  exact Nat.mul_le_mul_right _ h

end ManifestCheck.Binary64
