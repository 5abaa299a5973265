import ManifestCheck.Proofs.Pattern.WholeMatches

/-!
# Languages of expressions

An expression without assertions leads over certain words, and it does so wherever they stand in a
text (`Expr.Takes`): there is one lemma for each way of composing expressions.  An expression that
ends with the end of the text leads there from a place if what stands behind the place is a word of
its language (`Expr.Finishes`).  A pattern that is such an expression between anchors matches the
words of that language and nothing else (`Pattern.isMatch_of_finishes`); if it is a row of
characters, it matches one text (`Pattern.isMatch_fixed`).
-/

namespace ManifestCheck

namespace Pattern.Expr

variable {text : List Char} {e f : Expr} {P Q : List Char → Prop} {i j : Nat}

/-- The expression leads over the words of a language, wherever they stand, and over nothing
else. -/
def Takes (e : Expr) (P : List Char → Prop) : Prop :=
  ∀ ⦃text : List Char⦄ ⦃i j : Nat⦄,
    e.Spans text i j ↔ ∃ w, P w ∧ w <+: text.drop i ∧ j = i + w.length

theorem takes_empty : empty.Takes (· = []) := by
  intro text i j
  constructor
  · rintro rfl
    exact ⟨[], rfl, List.nil_prefix, rfl⟩
  · rintro ⟨w, rfl, -, rfl⟩
    rfl

theorem takes_chars (s : CharSet) :
    (chars s).Takes fun w => ∃ c, s.contains c = true ∧ w = [c] := by
  intro text i j
  constructor
  · rintro ⟨rfl, c, hc, hs⟩
    obtain ⟨hi, rfl⟩ := List.getElem?_eq_some_iff.mp hc
    refine ⟨_, ⟨_, hs, rfl⟩, ?_, rfl⟩
    rw [List.drop_eq_getElem_cons hi, List.cons_prefix_cons]
    exact ⟨rfl, List.nil_prefix⟩
  · rintro ⟨w, ⟨c, hs, rfl⟩, hw, rfl⟩
    have hi : i < text.length := by
      have := hw.length_le
      rw [List.length_singleton, List.length_drop] at this
      omega
    rw [List.drop_eq_getElem_cons hi, List.cons_prefix_cons] at hw
    exact ⟨rfl, c, by rw [List.getElem?_eq_getElem hi, hw.1], hs⟩

/-- A word in front of another one. -/
theorem append_prefix_drop {u v : List Char} :
    u ++ v <+: text.drop i ↔ u <+: text.drop i ∧ v <+: text.drop (i + u.length) := by
  constructor
  · rintro ⟨back, hback⟩
    refine ⟨⟨v ++ back, by rw [← hback, List.append_assoc]⟩, back, ?_⟩
    rw [← List.drop_drop, ← hback, List.append_assoc, List.drop_left]
  · rintro ⟨⟨back, hu⟩, hv⟩
    rw [← List.drop_drop, ← hu, List.drop_left] at hv
    rw [← hu]
    exact (List.prefix_append_right_inj u).mpr hv

theorem Takes.seq (he : e.Takes P) (hf : f.Takes Q) :
    (seq e f).Takes fun w => ∃ u v, P u ∧ Q v ∧ w = u ++ v := by
  intro text i j
  constructor
  · rintro ⟨k, hk, hj⟩
    obtain ⟨u, hu, hpre, rfl⟩ := he.mp hk
    obtain ⟨v, hv, hpost, rfl⟩ := hf.mp hj
    refine ⟨u ++ v, ⟨u, v, hu, hv, rfl⟩, append_prefix_drop.mpr ⟨hpre, hpost⟩, ?_⟩
    rw [List.length_append, Nat.add_assoc]
  · rintro ⟨w, ⟨u, v, hu, hv, rfl⟩, hw, rfl⟩
    obtain ⟨hpre, hpost⟩ := append_prefix_drop.mp hw
    refine ⟨i + u.length, he.mpr ⟨u, hu, hpre, rfl⟩, hf.mpr ⟨v, hv, hpost, ?_⟩⟩
    rw [List.length_append, Nat.add_assoc]

/-- So many steps lead over so many words. -/
theorem Takes.chain (he : e.Takes P) {n : Nat} : Chain (e.Spans text) n i j ↔
    ∃ ws : List (List Char), ws.length = n ∧ (∀ w ∈ ws, P w) ∧ ws.flatten <+: text.drop i ∧
      j = i + ws.flatten.length := by
  induction n generalizing i with
  | zero =>
    constructor
    · rintro rfl
      exact ⟨[], rfl, List.forall_mem_nil _, List.nil_prefix, rfl⟩
    · rintro ⟨ws, hlen, -, -, rfl⟩
      rw [List.length_eq_zero_iff.mp hlen]
      rfl
  | succ n ih =>
    constructor
    · rintro ⟨k, hk, hj⟩
      obtain ⟨w, hw, hpre, rfl⟩ := he.mp hk
      obtain ⟨ws, hlen, hws, hpost, rfl⟩ := ih.mp hj
      refine ⟨w :: ws, by rw [List.length_cons, hlen], List.forall_mem_cons.mpr ⟨hw, hws⟩, ?_, ?_⟩
      · exact append_prefix_drop.mpr ⟨hpre, hpost⟩
      · rw [List.flatten_cons, List.length_append, Nat.add_assoc]
    · rintro ⟨ws, hlen, hws, hpre, rfl⟩
      cases ws with
      | nil => cases hlen
      | cons w ws =>
        rw [List.forall_mem_cons] at hws
        obtain ⟨hw, hrest⟩ := append_prefix_drop.mp hpre
        refine ⟨i + w.length, he.mpr ⟨w, hws.1, hw, rfl⟩,
          ih.mpr ⟨ws, Nat.succ.inj hlen, hws.2, hrest, ?_⟩⟩
        rw [List.flatten_cons, List.length_append, Nat.add_assoc]

theorem Takes.rep (he : e.Takes P) (least : Nat) (most : Option Nat) :
    (rep e least most).Takes fun w => ∃ ws : List (List Char), least ≤ ws.length ∧
      (∀ m ∈ most, ws.length ≤ m) ∧ (∀ u ∈ ws, P u) ∧ w = ws.flatten := by
  intro text i j
  constructor
  · rintro ⟨n, hleast, hmost, hchain⟩
    obtain ⟨ws, rfl, hws, hpre, hj⟩ := he.chain.mp hchain
    exact ⟨ws.flatten, ⟨ws, hleast, hmost, hws, rfl⟩, hpre, hj⟩
  · rintro ⟨w, ⟨ws, hleast, hmost, hws, rfl⟩, hpre, hj⟩
    exact ⟨ws.length, hleast, hmost, he.chain.mpr ⟨ws, rfl, hws, hpre, hj⟩⟩

/-- The same language in other words. -/
theorem Takes.congr (he : e.Takes P) (h : ∀ w, P w ↔ Q w) : e.Takes Q := by
  intro text i j
  simp only [@he text i j, h]

/-- A repeated set of characters leads over so many of its members. -/
theorem takes_rep_chars (s : CharSet) (least : Nat) (most : Option Nat) :
    (Expr.rep (chars s) least most).Takes fun w => least ≤ w.length ∧ (∀ m ∈ most, w.length ≤ m) ∧
      ∀ c ∈ w, s.contains c = true := by
  refine ((takes_chars s).rep least most).congr fun w => ?_
  constructor
  · rintro ⟨ws, hleast, hmost, hws, rfl⟩
    have hone (u : List Char) (hu : u ∈ ws) : u.length = 1 := by
      obtain ⟨c, -, rfl⟩ := hws u hu
      rfl
    have hlen : ws.flatten.length = ws.length := by
      rw [List.length_flatten, List.map_congr_left hone, List.map_const', List.sum_replicate_nat,
        Nat.mul_one]
    rw [hlen]
    refine ⟨hleast, hmost, fun c hc => ?_⟩
    obtain ⟨u, hu, hc⟩ := List.mem_flatten.mp hc
    obtain ⟨d, hd, rfl⟩ := hws u hu
    rwa [List.mem_singleton.mp hc]
  · rintro ⟨hleast, hmost, hw⟩
    refine ⟨w.map fun c => [c], ?_, ?_, ?_, ?_⟩
    · rwa [List.length_map]
    · simpa only [List.length_map] using hmost
    · intro u hu
      obtain ⟨c, hc, rfl⟩ := List.mem_map.mp hu
      exact ⟨c, hw c hc, rfl⟩
    · exact (List.flatMap_singleton' w).symm

/-- The expression leads to the end of the text over the words of a language, and over nothing
else. -/
def Finishes (e : Expr) (P : List Char → Prop) : Prop :=
  ∀ ⦃text : List Char⦄ ⦃i j : Nat⦄, i ≤ text.length →
    (e.Spans text i j ↔ P (text.drop i) ∧ j = text.length)

theorem finishes_end : (Expr.seq (assertion .textEnd) empty).Finishes (· = []) := by
  intro text i j hi
  have hend : text.drop i = [] ↔ i = text.length := by
    rw [List.drop_eq_nil_iff]
    omega
  simp only [textEnd_spans_iff hi, hend]

theorem Takes.finishes (he : e.Takes P) (hf : f.Finishes Q) :
    (Expr.seq e f).Finishes fun w => ∃ u v, P u ∧ Q v ∧ w = u ++ v := by
  intro text i j hi
  constructor
  · rintro ⟨k, hk, hj⟩
    have hlast : k ≤ text.length := hk.within hi
    obtain ⟨u, hu, ⟨v, hv⟩, rfl⟩ := he.mp hk
    obtain ⟨hrest, rfl⟩ := (hf hlast).mp hj
    refine ⟨⟨u, v, hu, ?_, hv.symm⟩, rfl⟩
    rwa [← List.drop_drop, ← hv, List.drop_left] at hrest
  · rintro ⟨⟨u, v, hu, hv, hw⟩, rfl⟩
    have hpre : u <+: text.drop i := ⟨v, hw.symm⟩
    have hlast : i + u.length ≤ text.length := by
      have := hpre.length_le
      rw [List.length_drop] at this
      omega
    refine ⟨i + u.length, he.mpr ⟨u, hu, hpre, rfl⟩, (hf hlast).mpr ⟨?_, rfl⟩⟩
    rwa [← List.drop_drop, hw, List.drop_left]

/-- The same language in other words. -/
theorem Finishes.congr (he : e.Finishes P) (h : ∀ w, P w ↔ Q w) : e.Finishes Q := by
  intro text i j hi
  rw [he hi, h]

theorem Finishes.spans_iff (he : e.Finishes P) :
    (Expr.seq (assertion .textStart) e).Spans text 0 text.length ↔ P text := by
  have hseq : (Expr.seq (assertion .textStart) e).Spans text 0 text.length ↔
      ∃ k, (assertion .textStart).Spans text 0 k ∧ e.Spans text k text.length := Iff.rfl
  simp only [hseq, textStart_spans_iff (Nat.zero_le _)]
  constructor
  · rintro ⟨_, ⟨-, rfl⟩, h⟩
    exact ((he (Nat.zero_le _)).mp h).1
  · intro h
    exact ⟨0, ⟨trivial, rfl⟩, (he (Nat.zero_le _)).mpr ⟨h, rfl⟩⟩

/-! ## Rows of characters -/

/-- Characters one after the other, and then something else. -/
def row (cs : List Char) (next : Expr) : Expr :=
  cs.foldr (fun c e => seq (chars (.single c)) e) next

/-- Characters one after the other, with anchors of their own. -/
def fixed (cs : List Char) : Expr :=
  seq (assertion .textStart) (row cs (seq (assertion .textEnd) empty))

theorem single_contains {c d : Char} : (CharSet.single c).contains d = true ↔ d = c := by
  have hcode : (CharSet.single c).contains d = true ↔ c.toNat ≤ d.toNat ∧ d.toNat ≤ c.toNat := by
    simp [CharSet.single, CharSet.contains, CharSet.hasCode]
  rw [hcode, ← Char.toNat_inj]
  omega

theorem takes_single (c : Char) : (chars (.single c)).Takes (· = [c]) := by
  refine (takes_chars _).congr fun w => ?_
  simp only [single_contains, exists_eq_left]

/-- A row of characters leads over these characters. -/
theorem Finishes.row (hf : f.Finishes Q) (cs : List Char) :
    (row cs f).Finishes fun w => ∃ v, Q v ∧ w = cs ++ v := by
  induction cs with
  | nil => exact hf.congr fun w => by simp
  | cons c cs ih =>
    refine ((takes_single c).finishes ih).congr fun w => ?_
    constructor
    · rintro ⟨u, v, rfl, ⟨v', hv', rfl⟩, rfl⟩
      exact ⟨v', hv', rfl⟩
    · rintro ⟨v, hv, rfl⟩
      exact ⟨[c], cs ++ v, rfl, ⟨v, hv, rfl⟩, rfl⟩

theorem fixed_boundsAscend (cs : List Char) : (fixed cs).boundsAscend = true := by
  have hrow : (row cs (seq (assertion .textEnd) empty)).boundsAscend = true := by
    induction cs with
    | nil => rfl
    | cons c cs ih => exact ih
  exact hrow

end Pattern.Expr

/-! ## Patterns -/

open Pattern.Expr

namespace Pattern

variable {p : Pattern} {value : String}

/-- A pattern that finishes with the words of a language matches these words and no others. -/
theorem isMatch_of_finishes {e : Expr} {P : List Char → Prop}
    (hp : p.expr = .whole (.seq (.assertion .textStart) e)) (he : e.Finishes P)
    (hbounds : e.boundsAscend = true) : p.isMatch value = true ↔ P value.toList := by
  have hanchored : (Expr.seq (.assertion .textStart) e).boundsAscend = true := hbounds
  rw [isMatch, hp, whole_occursIn_iff hanchored, he.spans_iff]

/-- A row of characters between anchors matches the text of these characters and no other. -/
theorem isMatch_fixed {t : String} (hp : p.expr = .whole (.fixed t.toList)) :
    p.isMatch value = true ↔ value = t := by
  rw [isMatch_of_finishes hp (finishes_end.row t.toList) (fixed_boundsAscend t.toList),
    ← String.toList_inj]
  simp

end Pattern

end ManifestCheck
