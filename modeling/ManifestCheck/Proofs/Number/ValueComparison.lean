import ManifestCheck.Proofs.Number.IntegerComparison

/-!
# Comparing numbers by value

Two integers within 128 bits are compared exactly, and all other pairs at the positions of their
doubles (`Number.compare?_of_denotes`).  Both orders agree with that of the numbers which the
literals write, except that doubles may coincide where the numbers do not
(`Number.compare?_respects_value`).  So integer literals are compared exactly just as long as both
are within 128 bits or their doubles differ (`Number.compare?_integers`).
-/

namespace ManifestCheck

/-! ## Comparison under a monotone map -/

section Monotone

variable {α β : Type} [LinearOrder α] [LinearOrder β] {f : α → β}

theorem swap_compare (x y : α) : (compare x y).swap = compare y x := by
  rw [← cmp_eq_compare, ← cmp_eq_compare]
  exact cmp_swap x y

/-- A strictly monotone map keeps the order. -/
theorem compare_of_strictMono (hf : StrictMono f) (x y : α) :
    compare (f x) (f y) = compare x y := by
  rw [← cmp_eq_compare, ← cmp_eq_compare]
  exact hf.cmp_map_eq x y

/-- A monotone map keeps the order of all that it does not make equal. -/
theorem compare_of_monotone (hf : Monotone f) (x y : α) :
    compare (f x) (f y) = compare x y ∨ compare (f x) (f y) = .eq ∧ f x = f y := by
  by_cases hxy : f x = f y
  · exact .inr ⟨compare_eq_iff_eq.mpr hxy, hxy⟩
  · refine .inl ?_
    rcases lt_trichotomy x y with h | rfl | h
    · rw [compare_lt_iff_lt.mpr h, compare_lt_iff_lt.mpr (lt_of_le_of_ne (hf h.le) hxy)]
    · exact absurd rfl hxy
    · rw [compare_gt_iff_gt.mpr h, compare_gt_iff_gt.mpr (lt_of_le_of_ne (hf h.le) (Ne.symm hxy))]

end Monotone

namespace Number

open Digits (value)
open Binary64 (nearestPosition)

variable {a b n : Number} {A B q : ℚ} {v w : Int}

/-! ## How numbers are compared -/

/-- An integer that is compared exactly is the number that its literal writes. -/
theorem Denotes.toInt128? (h : n.Denotes q) (hv : n.toInt128? = some v) : q = v := by
  obtain ⟨hi, -⟩ := toInt128?_eq_some_iff.mp hv
  obtain ⟨w, hw, rfl⟩ := Denotes.intValue? h (isInteger_of_intValue? hi)
  rw [Option.some.inj (hi.symm.trans hw)]

/-- **How two numbers are compared**: as the numbers that their literals write if both are integers
of 128 bits, and else at the positions of their doubles. -/
theorem compare?_of_denotes (ha : a.Denotes A) (hb : b.Denotes B) :
    a.compare? b = some (if a.toInt128?.isSome ∧ b.toInt128?.isSome then compare A B
      else compare (nearestPosition A) (nearestPosition B)) := by
  have rounded : a.toInt128? = none ∨ b.toInt128? = none →
      a.compare? b = some (compare (nearestPosition A) (nearestPosition B)) := fun h => by
    rw [compare?_of_rounded h, Binary64.compare?, ha.position?, hb.position?]
  rcases hv : a.toInt128? with _ | v
  · rw [rounded (.inl hv)]
    simp
  · rcases hw : b.toInt128? with _ | w
    · rw [rounded (.inr hw)]
      simp
    · rw [compare?_of_exact hv hw, ha.toInt128? hv, hb.toInt128? hw,
        compare_of_strictMono Int.cast_strictMono]
      simp

/-- The answer is that of the numbers, or the doubles are the same and so is the answer. -/
theorem exists_compare? (ha : a.Denotes A) (hb : b.Denotes B) : ∃ o, a.compare? b = some o ∧
    b.compare? a = some o.swap ∧
      (o = compare A B ∨ o = .eq ∧ a.toBinary64.position? = b.toBinary64.position?) := by
  refine ⟨_, compare?_of_denotes ha hb, ?_, ?_⟩
  · rw [compare?_of_denotes hb ha]
    by_cases h : a.toInt128?.isSome ∧ b.toInt128?.isSome
    · rw [if_pos h, if_pos h.symm, swap_compare]
    · rw [if_neg h, if_neg (mt And.symm h), swap_compare]
  · split
    · exact .inl rfl
    · rw [ha.position?, hb.position?]
      refine (compare_of_monotone (fun _ _ h => Binary64.nearestPosition_mono h) A B).imp id ?_
      exact fun h => ⟨h.1, congrArg some h.2⟩

/-- **Comparison never inverts the order of the numbers that literals write.**  There always is an
answer, and the other way round it is the reverse.  A smaller number is never found greater, and
equal numbers are found equal, so that no number within a bound is refused.  The answer differs from
that of the numbers only where it is that they are equal, because they have the same double. -/
theorem compare?_respects_value (ha : a.Denotes A) (hb : b.Denotes B) :
    ∃ o, a.compare? b = some o ∧ b.compare? a = some o.swap ∧
      (A < B → o = .lt ∨ o = .eq) ∧ (A = B → o = .eq) ∧
      (o = compare A B ∨ o = .eq ∧ a.toBinary64.position? = b.toBinary64.position?) ∧
      (B ≤ A → a.atLeast b = true) ∧ (A ≤ B → a.atMost b = true) := by
  obtain ⟨o, hab, hba, ho⟩ := exists_compare? ha hb
  have hlt : A < B → o = .lt ∨ o = .eq := fun h =>
    ho.imp (fun hc => hc.trans (compare_lt_iff_lt.mpr h)) And.left
  have heq : A = B → o = .eq := fun h =>
    ho.elim (fun hc => hc.trans (compare_eq_iff_eq.mpr h)) And.left
  have hgt : B < A → o = .gt ∨ o = .eq := fun h =>
    ho.imp (fun hc => hc.trans (compare_gt_iff_gt.mpr h)) And.left
  refine ⟨o, hab, hba, hlt, heq, ho, fun h => ?_, fun h => ?_⟩
  · unfold atLeast
    rcases h.lt_or_eq with h | h
    · rcases hgt h with rfl | rfl <;> simp [hab]
    · simp [hab, heq h.symm]
  · unfold atMost
    rcases h.lt_or_eq with h | h
    · rcases hlt h with rfl | rfl <;> simp [hab]
    · simp [hab, heq h]

/-- An integer that no double is. -/
def oddPast53 : Number := ⟨"9007199254740993"⟩

/-- The double below it. -/
def evenAt53 : Number := ⟨"9007199254740992.0"⟩

theorem denotes_oddPast53 : oddPast53.Denotes 9007199254740993 :=
  .of_whole (k := 9007199254740993) (by decide) (by decide)

theorem denotes_evenAt53 : evenAt53.Denotes 9007199254740992 := by
  have htext : evenAt53.literal.toList = "9007199254740992".toList ++ '.' :: ['0'] := by
    decide +kernel
  have hvalue : value "9007199254740992".toList = 9007199254740992 := by decide +kernel
  have hzero : value ['0'] = 0 := by decide
  have h := Writes.decimals (show IsWhole "9007199254740992".toList by decide +kernel)
    (show IsRow ['0'] by decide)
  rw [hvalue, hzero, ← htext] at h
  show Writes _ _
  simpa using h

/-- They have the same double and are found equal, and the smaller one is at most the greater. -/
theorem compare?_respects_value_oddPast53 :
    oddPast53.Denotes 9007199254740993 ∧ evenAt53.Denotes 9007199254740992 ∧
      evenAt53.compare? oddPast53 = some .eq ∧ oddPast53.compare? evenAt53 = some .eq ∧
        evenAt53.toBinary64.position? = oddPast53.toBinary64.position? ∧
          evenAt53.atMost oddPast53 = true := by
  have heq : evenAt53.compare? oddPast53 = some .eq := by decide +kernel
  obtain ⟨o, hab, hba, -, -, ho, -, hle⟩ :=
    compare?_respects_value denotes_evenAt53 denotes_oddPast53
  obtain rfl : o = .eq := Option.some.inj (hab.symm.trans heq)
  have hlt : compare (9007199254740992 : ℚ) 9007199254740993 = .lt :=
    compare_lt_iff_lt.mpr (by norm_num)
  have hsame := (ho.resolve_left fun h => by cases h.trans hlt).2
  exact ⟨denotes_oddPast53, denotes_evenAt53, heq, hba, hsame, hle (by norm_num)⟩

/-! ## Integer literals -/

/-- An integer within 128 bits is compared exactly, and no other. -/
theorem Denotes.toInt128?_eq (h : n.Denotes v) (hi : n.isInteger = true) :
    n.toInt128? = if WithinInt128 v then some v else none := by
  obtain ⟨w, hw, hvw⟩ := Denotes.intValue? h hi
  obtain rfl : v = w := by exact_mod_cast hvw
  exact toInt128?_of_intValue? hw

/-- **When integer literals are compared exactly**: as long as both are within 128 bits or their
doubles differ, and in no other case, because they are found equal then.  So they are equal just if
the integers are, or if one of them is beyond 128 bits and they have the same double. -/
theorem compare?_integers (ha : IsNumeral a.literal.toList) (hb : IsNumeral b.literal.toList)
    (hia : a.isInteger = true) (hib : b.isInteger = true) :
    ∃ v w : Int, a.Denotes v ∧ b.Denotes w ∧
      a.compare? b = some (if WithinInt128 v ∧ WithinInt128 w ∨
          a.toBinary64.position? ≠ b.toBinary64.position? then compare v w else .eq) ∧
        (a.equal b = true ↔ v = w ∨ ¬(WithinInt128 v ∧ WithinInt128 w) ∧
          a.toBinary64.position? = b.toBinary64.position?) := by
  obtain ⟨A, hA⟩ := isNumeral_iff.mp ha
  obtain ⟨B, hB⟩ := isNumeral_iff.mp hb
  obtain ⟨v, -, rfl⟩ := Denotes.intValue? hA hia
  obtain ⟨w, -, rfl⟩ := Denotes.intValue? hB hib
  have hcompare : a.compare? b = some (if WithinInt128 v ∧ WithinInt128 w ∨
      a.toBinary64.position? ≠ b.toBinary64.position? then compare v w else .eq) := by
    by_cases hwithin : WithinInt128 v ∧ WithinInt128 w
    · rw [if_pos (.inl hwithin)]
      refine compare?_of_exact ?_ ?_
      · rw [Denotes.toInt128?_eq hA hia, if_pos hwithin.1]
      · rw [Denotes.toInt128?_eq hB hib, if_pos hwithin.2]
    · obtain ⟨o, hab, -, ho⟩ := exists_compare? hA hB
      rw [compare_of_strictMono Int.cast_strictMono] at ho
      by_cases hsame : a.toBinary64.position? = b.toBinary64.position?
      · have hrounded : a.toInt128? = none ∨ b.toInt128? = none := by
          rw [Denotes.toInt128?_eq hA hia, Denotes.toInt128?_eq hB hib]
          simpa [Classical.or_iff_not_imp_left] using hwithin
        rw [if_neg (not_or.mpr ⟨hwithin, not_not.mpr hsame⟩), compare?_of_rounded hrounded,
          Binary64.compare?, hsame, Denotes.position? hB]
        exact congrArg some (compare_eq_iff_eq.mpr rfl)
      · rw [if_pos (.inr hsame), hab, ho.resolve_right fun h => hsame h.2]
  refine ⟨v, w, hA, hB, hcompare, ?_⟩
  rw [equal, hcompare, decide_eq_true_iff, Option.some_inj]
  split
  · rename_i hexact
    rw [compare_eq_iff_eq]
    refine ⟨.inl, fun h => h.elim id fun hx => ?_⟩
    exact absurd hexact (not_or.mpr ⟨hx.1, not_not.mpr hx.2⟩)
  · rename_i hrounded
    obtain ⟨hout, hsame⟩ := not_or.mp hrounded
    exact ⟨fun _ => .inr ⟨hout, not_not.mp hsame⟩, fun _ => rfl⟩

/-- The greatest integer of 128 bits. -/
def lastOf128 : Number := ⟨"170141183460469231731687303715884105727"⟩

/-- The integer behind it. -/
def pastInt128 : Number := ⟨"170141183460469231731687303715884105728"⟩

theorem denotes_lastOf128 : lastOf128.Denotes (2 ^ 127 - 1 : Int) :=
  .of_whole (k := 2 ^ 127 - 1) (by decide) (by decide)

theorem denotes_pastInt128 : pastInt128.Denotes (2 ^ 127 : Int) :=
  .of_whole (k := 2 ^ 127) (by decide) (by decide)

/-- **Past 128 bits different integers are found equal.** -/
theorem pastInt128_equal : lastOf128.isInteger = true ∧ pastInt128.isInteger = true ∧
    lastOf128.Denotes (2 ^ 127 - 1 : Int) ∧ pastInt128.Denotes (2 ^ 127 : Int) ∧
      lastOf128.compare? pastInt128 = some .eq ∧ lastOf128.equal pastInt128 = true := by
  have heq : lastOf128.compare? pastInt128 = some .eq := by decide +kernel
  exact ⟨by decide +kernel, by decide +kernel, denotes_lastOf128, denotes_pastInt128, heq,
    decide_eq_true heq⟩

/-- They are, because one of them is beyond 128 bits and they have the same double. -/
theorem compare?_integers_pastInt128 :
    IsNumeral lastOf128.literal.toList ∧ IsNumeral pastInt128.literal.toList ∧
      lastOf128.isInteger = true ∧ pastInt128.isInteger = true ∧
        ¬WithinInt128 (2 ^ 127) ∧
          lastOf128.toBinary64.position? = pastInt128.toBinary64.position? := by
  have hlast := isNumeral_iff.mpr ⟨_, denotes_lastOf128⟩
  have hpast := isNumeral_iff.mpr ⟨_, denotes_pastInt128⟩
  have hilast : lastOf128.isInteger = true := by decide +kernel
  have hipast : pastInt128.isInteger = true := by decide +kernel
  obtain ⟨v, w, hv, hw, -, hequal⟩ := compare?_integers hlast hpast hilast hipast
  obtain rfl : v = 2 ^ 127 - 1 := by exact_mod_cast Writes.unique hv denotes_lastOf128
  obtain rfl : w = 2 ^ 127 := by exact_mod_cast Writes.unique hw denotes_pastInt128
  have heq : lastOf128.equal pastInt128 = true := by decide +kernel
  obtain ⟨-, hsame⟩ := (hequal.mp heq).resolve_left (by decide)
  exact ⟨hlast, hpast, hilast, hipast, by decide, hsame⟩

end Number

end ManifestCheck
