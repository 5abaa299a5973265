import ManifestCheck.Pattern
import Mathlib.Logic.Function.Iterate

/-!
# Matching with sets of places

`Plan.ends` takes a whole set of places at once through an expression, and a set is a number whose
bits are places.  `Expr.Spans` speaks of one place and another.  The two agree: a set is taken to the
places that the expression leads to from a place in it (`Expr.ends_iff`), so that an expression
occurs in a text exactly if it leads from some place of it to another (`Expr.occursIn_iff`).

Repetition is the one case with an argument in it.  Its rounds stop when they change nothing or when
there have been as many as there are places, while `Spans` allows any number of steps.  No step leads
back, so of the steps that lead from a place to another only those that move are needed, and of these
there are no more than places between the two (`Chain.shorten`).

Bounds are taken to be in order (`Expr.boundsAscend`).  A repetition from three to two times leads
nowhere, which the sets would not see.
-/

namespace ManifestCheck.Pattern

/-- Every repetition in the expression has its bounds in order. -/
def Expr.boundsAscend : Expr → Bool
  | empty | chars _ | assertion _ => true
  | seq e f | alt e f => e.boundsAscend && f.boundsAscend
  | group e => e.boundsAscend
  | rep e least most => e.boundsAscend && most.all (least ≤ ·)

/-! ## Chains of steps -/

section Chain

variable {step : Nat → Nat → Prop}

theorem chain_add {m n i j : Nat} :
    Chain step (m + n) i j ↔ ∃ k, Chain step m i k ∧ Chain step n k j := by
  induction m generalizing i with
  | zero => simp [Chain]
  | succ m ih =>
    rw [Nat.succ_add, Chain]
    simp only [ih, Chain]
    constructor
    · intro h
      obtain ⟨k, hk, l, hl, hj⟩ := h
      exact ⟨l, ⟨k, hk, hl⟩, hj⟩
    · intro h
      obtain ⟨l, ⟨k, hk, hl⟩, hj⟩ := h
      exact ⟨k, hk, l, hl, hj⟩

theorem Chain.le (hstep : ∀ i j, step i j → i ≤ j) {n i j : Nat} (h : Chain step n i j) :
    i ≤ j := by
  induction n generalizing i with
  | zero => exact Nat.le_of_eq h
  | succ n ih =>
    obtain ⟨k, hk, hn⟩ := h
    exact Nat.le_trans (hstep i k hk) (ih hn)

theorem Chain.within {last : Nat} (hstep : ∀ i j, step i j → i ≤ last → j ≤ last) {n i j : Nat}
    (h : Chain step n i j) (hi : i ≤ last) : j ≤ last := by
  induction n generalizing i with
  | zero => exact h ▸ hi
  | succ n ih =>
    obtain ⟨k, hk, hn⟩ := h
    exact ih hn (hstep i k hk hi)

/-- Steps that stay where they are can be left out. -/
theorem Chain.shorten (hstep : ∀ i j, step i j → i ≤ j) {n i j : Nat} (h : Chain step n i j) :
    ∃ m ≤ j - i, Chain step m i j := by
  induction n generalizing i with
  | zero => exact ⟨0, Nat.zero_le _, h⟩
  | succ n ih =>
    obtain ⟨k, hk, hn⟩ := h
    obtain ⟨m, hm, hmj⟩ := ih hn
    have hik : i ≤ k := hstep i k hk
    have hkj : k ≤ j := hn.le hstep
    by_cases he : i = k
    · subst he
      exact ⟨m, hm, hmj⟩
    · exact ⟨m + 1, by omega, k, hk, hmj⟩

/-- Rounds that may each be left out are any smaller number of steps. -/
theorem chain_optional {n i j : Nat} :
    Chain (fun i j => i = j ∨ step i j) n i j ↔ ∃ m ≤ n, Chain step m i j := by
  induction n generalizing i with
  | zero => simp [Chain]
  | succ n ih =>
    rw [Chain]
    simp only [ih]
    constructor
    · intro h
      obtain ⟨k, rfl | hk, m, hm, hj⟩ := h
      · exact ⟨m, by omega, hj⟩
      · exact ⟨m + 1, by omega, k, hk, hj⟩
    · intro h
      obtain ⟨m, hm, hj⟩ := h
      cases m with
      | zero => exact ⟨i, .inl rfl, 0, Nat.zero_le _, hj⟩
      | succ m =>
        obtain ⟨k, hk, hj⟩ := hj
        exact ⟨k, .inr hk, m, by omega, hj⟩

end Chain

/-! ## Where an expression may lead -/

section Spans

variable {text : List Char}

/-- No expression leads back. -/
theorem Expr.Spans.le {e : Expr} {i j : Nat} (h : e.Spans text i j) : i ≤ j := by
  induction e generalizing i j with
  | empty => exact Nat.le_of_eq h
  | chars set => exact h.1 ▸ Nat.le_succ i
  | assertion a => exact Nat.le_of_eq h.1
  | seq e f ihe ihf =>
    obtain ⟨k, hk, hj⟩ := h
    exact Nat.le_trans (ihe hk) (ihf hj)
  | alt e f ihe ihf => exact h.elim ihe ihf
  | group e ih => exact ih h
  | rep e least most ih =>
    obtain ⟨n, -, -, hn⟩ := h
    exact hn.le fun _ _ => ih

/-- No expression leads out of the text. -/
theorem Expr.Spans.within {e : Expr} {i j : Nat} (h : e.Spans text i j) (hi : i ≤ text.length) :
    j ≤ text.length := by
  induction e generalizing i j with
  | empty => exact h ▸ hi
  | chars set =>
    obtain ⟨rfl, c, hc, -⟩ := h
    exact (List.getElem?_eq_some_iff.mp hc).1
  | assertion a => exact h.1 ▸ hi
  | seq e f ihe ihf =>
    obtain ⟨k, hk, hj⟩ := h
    exact ihf hj (ihe hk hi)
  | alt e f ihe ihf => exact h.elim (ihe · hi) (ihf · hi)
  | group e ih => exact ih h hi
  | rep e least most ih =>
    obtain ⟨n, -, -, hn⟩ := h
    exact hn.within (fun _ _ => ih) hi

end Spans

/-! ## Sets as numbers -/

theorem testBit_push_zero (b : Bool) (n : Nat) : (b.toNat + 2 * n).testBit 0 = b := by
  cases b <;> simp [Nat.testBit_zero]

theorem testBit_push_succ (b : Bool) (n i : Nat) :
    (b.toNat + 2 * n).testBit (i + 1) = n.testBit i := by
  rw [Nat.testBit_add_one]
  congr 1
  cases b <;> simp only [Bool.toNat_true, Bool.toNat_false] <;> omega

theorem testBit_double {n j : Nat} :
    (2 * n).testBit j = true ↔ ∃ i, j = i + 1 ∧ n.testBit i = true := by
  have h := testBit_push_zero false n
  cases j with
  | zero => simp_all
  | succ i =>
    have hi := testBit_push_succ false n i
    simp only [Bool.toNat_false, Nat.zero_add] at hi
    simp [hi]

/-- The places of a text that a test holds of, seen from behind a character. -/
theorem testBit_placesFrom (test : Option Char → Option Char → Bool) (prev : Option Char)
    (text : List Char) (i : Nat) :
    (placesFrom test prev text).testBit i = true ↔
      i ≤ text.length ∧ test (if i = 0 then prev else text[i - 1]?) text[i]? = true := by
  induction text generalizing prev i with
  | nil =>
    cases i with
    | zero => cases h : test prev none <;> simp [placesFrom, h]
    | succ i => cases h : test prev none <;> simp [placesFrom, h, Nat.testBit_add_one]
  | cons c cs ih =>
    cases i with
    | zero =>
      rw [placesFrom, testBit_push_zero]
      simp
    | succ i =>
      rw [placesFrom, testBit_push_succ, ih]
      cases i <;> simp

theorem testBit_places (test : Option Char → Option Char → Bool) (text : List Char) (i : Nat) :
    (places test text).testBit i = true ↔
      i ≤ text.length ∧ test (before text i) text[i]? = true :=
  testBit_placesFrom test none text i

/-- Only places of a text are in a set. -/
def Within (text : List Char) (s : Nat) : Prop := ∀ i, s.testBit i = true → i ≤ text.length

/-- From any set of places a function gives the places that a step leads to, and they are places of
the text. -/
def Carries (text : List Char) (f : Nat → Nat) (step : Nat → Nat → Prop) : Prop :=
  ∀ s, Within text s →
    Within text (f s) ∧ ∀ j, (f s).testBit j = true ↔ ∃ i, s.testBit i = true ∧ step i j

section Carries

variable {text : List Char} {f g : Nat → Nat} {step step' : Nat → Nat → Prop}

theorem Carries.of_within (hstep : ∀ i j, step i j → i ≤ text.length → j ≤ text.length)
    (h : ∀ s, Within text s → ∀ j, (f s).testBit j = true ↔ ∃ i, s.testBit i = true ∧ step i j) :
    Carries text f step := by
  refine fun s hs => ⟨fun j hj => ?_, h s hs⟩
  obtain ⟨i, hi, hij⟩ := (h s hs j).mp hj
  exact hstep i j hij (hs i hi)

theorem Carries.congr (hf : Carries text f step)
    (hstep : ∀ i j, i ≤ text.length → (step i j ↔ step' i j)) : Carries text f step' := by
  intro s hs
  obtain ⟨hw, hfs⟩ := hf s hs
  refine ⟨hw, fun j => (hfs j).trans ?_⟩
  exact exists_congr fun i => and_congr_right fun hi => hstep i j (hs i hi)

theorem Carries.comp (hf : Carries text f step) (hg : Carries text g step') :
    Carries text (fun s => g (f s)) fun i j => ∃ k, step i k ∧ step' k j := by
  intro s hs
  obtain ⟨hw, hfs⟩ := hf s hs
  obtain ⟨hw', hgs⟩ := hg (f s) hw
  refine ⟨hw', fun j => ?_⟩
  simp only [hgs, hfs]
  constructor
  · intro h
    obtain ⟨k, ⟨i, hi, hk⟩, hj⟩ := h
    exact ⟨i, hi, k, hk, hj⟩
  · intro h
    obtain ⟨i, hi, k, hk, hj⟩ := h
    exact ⟨k, ⟨i, hi, hk⟩, hj⟩

theorem Carries.union (hf : Carries text f step) (hg : Carries text g step') :
    Carries text (fun s => f s ||| g s) fun i j => step i j ∨ step' i j := by
  intro s hs
  obtain ⟨hw, hfs⟩ := hf s hs
  obtain ⟨hw', hgs⟩ := hg s hs
  have hbits : ∀ j, (f s ||| g s).testBit j = true ↔
      (f s).testBit j = true ∨ (g s).testBit j = true := fun j => by
    rw [Nat.testBit_or, Bool.or_eq_true]
  refine ⟨fun j hj => ((hbits j).mp hj).elim (hw j) (hw' j), fun j => ?_⟩
  simp only [hbits, hfs, hgs, and_or_left, exists_or]

theorem carries_id : Carries text (fun s => s) fun i j => i = j := by
  refine fun s hs => ⟨hs, fun j => ?_⟩
  simp

theorem iterate_eq (f : Nat → Nat) (n s : Nat) : iterate f n s = f^[n] s := by
  induction n generalizing s with
  | zero => rfl
  | succ n ih =>
    rw [iterate]
    by_cases h : f s = s
    · rw [if_pos h, Function.iterate_fixed h]
    · rw [if_neg h, ih, Function.iterate_succ_apply]

theorem Carries.iterate (hf : Carries text f step) (n : Nat) :
    Carries text (fun s => Pattern.iterate f n s) (Chain step n) := by
  simp only [iterate_eq]
  induction n with
  | zero => exact carries_id
  | succ n ih =>
    simp only [Function.iterate_succ_apply]
    exact hf.comp ih

end Carries

/-! ## The meaning of the sets -/

theorem carries_chars (text : List Char) (set : CharSet) :
    Carries text (Plan.ends ((Expr.chars set).plan text)) ((Expr.chars set).Spans text) := by
  refine .of_within (fun i j h hi => h.within hi) fun s _ j => ?_
  rw [Expr.plan, Plan.ends, testBit_double]
  simp only [Nat.testBit_and, Bool.and_eq_true, testBit_places, Expr.Spans,
    Option.any_eq_true]
  constructor
  · intro h
    obtain ⟨i, rfl, hi, -, c, hc, hset⟩ := h
    exact ⟨i, hi, rfl, c, hc, hset⟩
  · intro h
    obtain ⟨i, hi, rfl, c, hc, hset⟩ := h
    exact ⟨i, rfl, hi, Nat.le_of_lt (List.getElem?_eq_some_iff.mp hc).1, c, hc, hset⟩

theorem carries_assertion (text : List Char) (a : Assertion) :
    Carries text (Plan.ends ((Expr.assertion a).plan text)) ((Expr.assertion a).Spans text) := by
  refine .of_within (fun i j h hi => h.within hi) fun s hs j => ?_
  rw [Expr.plan, Plan.ends, Nat.testBit_and, Bool.and_eq_true, testBit_places]
  constructor
  · intro h
    obtain ⟨hj, -, ha⟩ := h
    exact ⟨j, hj, rfl, ha⟩
  · intro h
    obtain ⟨i, hi, rfl, ha⟩ := h
    exact ⟨hi, hs i hi, ha⟩

/-- So many rounds behind the least number of steps are that many steps more, or fewer. -/
theorem carries_rounds {text : List Char} {e : Expr}
    (ih : Carries text (e.plan text).ends (e.Spans text)) (least rounds : Nat) :
    Carries text (Plan.rep (e.plan text) least rounds).ends fun i j =>
      ∃ n, least ≤ n ∧ n ≤ least + rounds ∧ Chain (e.Spans text) n i j := by
  refine ((ih.iterate least).comp ((carries_id.union ih).iterate rounds)).congr fun i j _ => ?_
  simp only [chain_optional]
  constructor
  · intro h
    obtain ⟨k, hk, n, hn, hj⟩ := h
    exact ⟨least + n, by omega, by omega, chain_add.mpr ⟨k, hk, hj⟩⟩
  · intro h
    obtain ⟨n, hleast, hn, hj⟩ := h
    obtain ⟨n, rfl⟩ := Nat.exists_eq_add_of_le hleast
    obtain ⟨k, hk, hj⟩ := chain_add.mp hj
    exact ⟨k, hk, n, by omega, hj⟩

/-- A repetition of a plan that is right for its body is right.  Where there is no upper bound, steps
that stay where they are make up for the number of rounds. -/
theorem carries_rep {text : List Char} {e : Expr} {least : Nat} {most : Option Nat}
    (hbounds : most.all (least ≤ ·) = true)
    (ih : Carries text (e.plan text).ends (e.Spans text)) :
    Carries text ((Expr.rep e least most).plan text).ends ((Expr.rep e least most).Spans text) := by
  cases most with
  | some m =>
    have hm : least ≤ m := by simpa using hbounds
    refine (carries_rounds ih least (m - least)).congr fun i j _ => ?_
    refine exists_congr fun n => and_congr_right fun _ => and_congr_left fun _ => ?_
    rw [Nat.add_sub_cancel' hm]
    exact ⟨fun h _ hmem => Option.some.inj hmem ▸ h, fun h => h m rfl⟩
  | none =>
    refine (carries_rounds ih least (text.length + 1)).congr fun i j hi => ?_
    constructor
    · intro h
      obtain ⟨n, hleast, -, hj⟩ := h
      exact ⟨n, hleast, nofun, hj⟩
    · intro h
      have hlast : j ≤ text.length := Expr.Spans.within h hi
      obtain ⟨n, hleast, -, hj⟩ := h
      obtain ⟨n, rfl⟩ := Nat.exists_eq_add_of_le hleast
      obtain ⟨k, hk, hj⟩ := chain_add.mp hj
      obtain ⟨m, hm, hj⟩ := hj.shorten fun _ _ => Expr.Spans.le
      exact ⟨least + m, by omega, by omega, chain_add.mpr ⟨k, hk, hj⟩⟩

/-- **A set is taken to where the expression leads.**  By induction on the expression. -/
theorem Expr.ends_iff {text : List Char} {e : Expr} (he : e.boundsAscend = true) :
    Carries text (e.plan text).ends (e.Spans text) := by
  induction e with
  | empty => exact carries_id
  | chars set => exact carries_chars text set
  | assertion a => exact carries_assertion text a
  | seq e f ihe ihf =>
    obtain ⟨he, hf⟩ := Bool.and_eq_true_iff.mp he
    exact (ihe he).comp (ihf hf)
  | alt e f ihe ihf =>
    obtain ⟨he, hf⟩ := Bool.and_eq_true_iff.mp he
    exact (ihe he).union (ihf hf)
  | group e ih => exact ih he
  | rep e least most ih =>
    obtain ⟨he, hbounds⟩ := Bool.and_eq_true_iff.mp he
    exact carries_rep hbounds (ih he)

/-- An expression occurs in a text exactly if it leads from some place of the text to another. -/
theorem Expr.occursIn_iff {text : List Char} {e : Expr} (he : e.boundsAscend = true) :
    e.occursIn text = true ↔ ∃ i j, i ≤ text.length ∧ e.Spans text i j := by
  have hall : ∀ i, (Nat.pow 2 (text.length + 1) - 1).testBit i = true ↔ i ≤ text.length := by
    intro i
    rw [show Nat.pow 2 (text.length + 1) = 2 ^ (text.length + 1) from rfl,
      Nat.testBit_two_pow_sub_one, decide_eq_true_iff]
    omega
  obtain ⟨-, hends⟩ := ends_iff he (Nat.pow 2 (text.length + 1) - 1) fun i hi => (hall i).mp hi
  rw [occursIn, decide_eq_true_iff]
  constructor
  · intro h
    obtain ⟨j, hj⟩ := Nat.exists_testBit_of_ne_zero h
    obtain ⟨i, hi, hij⟩ := (hends j).mp hj
    exact ⟨i, j, (hall i).mp hi, hij⟩
  · intro h h0
    obtain ⟨i, j, hi, hij⟩ := h
    have hj := (hends j).mpr ⟨i, (hall i).mpr hi, hij⟩
    rw [h0, Nat.zero_testBit] at hj
    cases hj

end ManifestCheck.Pattern
