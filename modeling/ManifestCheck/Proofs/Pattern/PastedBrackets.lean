import ManifestCheck.Proofs.Pattern.PastedEscapes

/-!
# Brackets in front of the closing

A pair of brackets that is closed in a text with the closing behind it is closed in the text alone
(`readBracket_closing`).  A reader inside the brackets may take the parenthesis for a member or for
the end of a range, but what is left of the closing then holds no bracket (`readInside_spent`).
-/

namespace ManifestCheck.Pattern

theorem readClassName?_closing (cs : List Char) :
    readClassName? (cs ++ closing) =
      (readClassName? cs).map fun r => (r.1, r.2 ++ closing) := by
  fun_induction readClassName? cs with
  | case1 => decide
  | case2 rest => rfl
  | case3 rest hrest =>
    cases rest with
    | nil => decide
    | cons c rest =>
      have hc : c ≠ ']' := fun hc => hrest rest (hc ▸ rfl)
      simp [readClassName?, hc]
  | case4 c rest hcolon hc ih =>
    rw [List.cons_append, readClassName?, ih, Option.map_map, Option.map_map]
    · rfl
    · exact fun _ h _ => hc h
    · exact hc

theorem readAsciiClass?_closing (cs : List Char) :
    readAsciiClass? (cs ++ closing) =
      (readAsciiClass? cs).map fun r => (r.1, r.2 ++ closing) := by
  cases cs with
  | nil => rfl
  | cons c rest =>
    by_cases hc : c = ':'
    · subst hc
      cases rest with
      | nil => rfl
      | cons d rest =>
        have h₁ := readClassName?_closing rest
        have h₂ := readClassName?_closing (d :: rest)
        by_cases hd : d = '^'
        · subst hd
          cases hr : readClassName? rest with
          | none => simp_all [readAsciiClass?]
          | some r => simp_all [readAsciiClass?, Function.comp_def]
        · cases hr : readClassName? (d :: rest) with
          | none => simp_all [readAsciiClass?]
          | some r => simp_all [readAsciiClass?, Function.comp_def]
    · simp [readAsciiClass?, hc]

theorem readMember_closing {verbose : Bool} {c : Char} {cs r : List Char} {a : Atom}
    (h : readMember verbose c (cs ++ closing) = .ok (a, r)) :
    (∃ b, r = b ++ closing ∧ readMember verbose c cs = .ok (a, b)) ∨ r = ['$'] ∨
      ∃ place, a = .anchor place := by
  unfold readMember at h ⊢
  split at h
  · have hx := readEscape_closing h
    grind
  · grind

theorem dropWhile_closing (cs : List Char) :
    (cs ++ closing).dropWhile Text.isBlank = cs.dropWhile Text.isBlank ++ closing := by
  induction cs with
  | nil => decide
  | cons c cs ih =>
    by_cases hc : Text.isBlank c = true <;> simp [hc, ih]

/-- The closing does not decide whether a hyphen makes a range. -/
theorem peek?_closing (verbose : Bool) (cs : List Char) {d : Char} (hd : d = ']' ∨ d = '-') :
    peek? verbose (cs ++ closing) = some d ↔ peek? verbose cs = some d := by
  have hblank : Text.isBlank d = false := by rcases hd with rfl | rfl <;> decide
  have hno : ')' ≠ d ∧ '#' ≠ d := by rcases hd with rfl | rfl <;> decide
  have hlast : (cs ++ closing).head? = some d ↔ cs.head? = some d := by
    cases cs <;> simp [closing, hno.1]
  -- nothing is passed over in front of such a character
  have hself (h : cs.head? = some d) : cs.dropWhile Text.isBlank = cs := by
    cases cs with
    | nil => rfl
    | cons c cs =>
      cases h
      exact List.dropWhile_cons_of_neg (Bool.eq_false_iff.mp hblank)
  unfold peek?
  cases verbose with
  | false => exact hlast
  | true =>
    simp only [if_true, dropWhile_closing]
    cases hcs : cs.dropWhile Text.isBlank with
    | nil =>
      have : cs.head? ≠ some d := fun h => by simp [hself h ▸ hcs] at h
      simp [closing, this, hno.1]
    | cons c rest =>
      by_cases hc : c = '#'
      · subst hc
        have : cs.head? ≠ some d := fun h => by
          rw [← hself h, hcs] at h
          exact hno.2 (Option.some.inj h)
        cases hr : rest.dropWhile Text.isBlank with
        | nil =>
          simp only [List.cons_append, dropWhile_closing, hr, List.nil_append]
          simp [closing, this, hno.1]
        | cons e rest => simp [dropWhile_closing, hr]
      · simp [hc]

/-- Nothing of a text is left but the closing or a part of it. -/
def Spent (verbose : Bool) (r : List Char) : Prop := skip verbose r <:+ closing

theorem skip_of_suffix_closing {verbose : Bool} {r : List Char} (h : r <:+ closing) :
    skip verbose r = r := by
  have hr : r = closing ∨ r = ['$'] ∨ r = [] := by simpa [closing, List.suffix_cons_iff] using h
  rcases hr with rfl | rfl | rfl <;> cases verbose <;> rfl

theorem spent_of_suffix {verbose : Bool} {r : List Char} (h : r <:+ closing) : Spent verbose r := by
  rwa [Spent, skip_of_suffix_closing h]

theorem spent_sign (verbose : Bool) : Spent verbose ['$'] := spent_of_suffix (by decide)

theorem spent_behind {verbose : Bool} {b : List Char} (h : skip verbose b = []) :
    Spent verbose (b ++ closing) := by
  unfold Spent
  obtain hw | hw := skip_closing_of_nil h
  · simp only [hw, List.suffix_refl]
  · simp only [hw, List.nil_suffix]

/-- The end of a range from behind its hyphen. -/
def readRangeEnd (verbose : Bool) (first : Atom) (cs : List Char) : Read SetPhrase :=
  match skip verbose cs with
  | [] => .error .unclosedBracket
  | e :: more =>
    match readMember verbose e more with
    | .error e => .error e
    | .ok (last, behind) => (first.to last).map fun p => (p, behind)

theorem readRange_eq {verbose : Bool} {c d : Char} {cs behind more : List Char} {first : Atom}
    (hfirst : readMember verbose c cs = .ok (first, behind))
    (hskip : skip verbose behind = d :: more) :
    readRange verbose c cs =
      if d ≠ '-' ∨ peek? verbose more = some ']' ∨ peek? verbose more = some '-' then
        first.asMember.map fun p => (p, behind)
      else readRangeEnd verbose first more := by
  have hcond : (d ≠ '-' || peek? verbose more = some ']' || peek? verbose more = some '-') = true ↔
      d ≠ '-' ∨ peek? verbose more = some ']' ∨ peek? verbose more = some '-' := by
    simp [or_assoc]
  rw [readRange, hfirst]
  dsimp only
  rw [hskip]
  by_cases hsingle : d ≠ '-' ∨ peek? verbose more = some ']' ∨ peek? verbose more = some '-'
  · exact (if_pos (hcond.mpr hsingle)).trans (if_pos hsingle).symm
  · refine (if_neg (mt hcond.mp hsingle)).trans (.trans ?_ (if_neg hsingle).symm)
    cases hmore : skip verbose more with
    | nil => simp only [readRangeEnd, hmore]
    | cons e more =>
      cases hlast : readMember verbose e more with
      | error e => simp only [readRangeEnd, hmore, hlast]
      | ok read => simp only [readRangeEnd, hmore, hlast]

theorem readRangeEnd_closing {verbose : Bool} {first : Atom} {cs r : List Char} {p : SetPhrase}
    (h : readRangeEnd verbose first (cs ++ closing) = .ok (p, r)) :
    (∃ b, r = b ++ closing ∧ readRangeEnd verbose first cs = .ok (p, b)) ∨ Spent verbose r := by
  have hsign := spent_sign verbose
  cases hskip : skip verbose cs with
  | nil =>
    obtain hw | hw := skip_closing_of_nil hskip
    · have hclose : readMember verbose ')' ['$'] = .ok (.literal ⟨')', false⟩, ['$']) := rfl
      grind [readRangeEnd, closing, Except.map.eq_def]
    · grind [readRangeEnd]
  | cons e more =>
    have hw := skip_closing_of_cons hskip
    cases hlast : readMember verbose e (more ++ closing) with
    | error e => grind [readRangeEnd]
    | ok read =>
      obtain ⟨last, behind⟩ := read
      obtain ⟨b, rfl, hb⟩ | rfl | ⟨place, rfl⟩ := readMember_closing hlast
      · grind [readRangeEnd, Except.map.eq_def]
      · grind [readRangeEnd, Except.map.eq_def]
      · grind [readRangeEnd, Except.map.eq_def, Atom.to]

theorem readRange_closing {verbose : Bool} {c : Char} {cs r : List Char} {p : SetPhrase}
    (h : readRange verbose c (cs ++ closing) = .ok (p, r)) :
    (∃ b, r = b ++ closing ∧ readRange verbose c cs = .ok (p, b)) ∨ Spent verbose r := by
  cases hfirst : readMember verbose c (cs ++ closing) with
  | error e => grind [readRange]
  | ok read =>
    obtain ⟨first, behind⟩ := read
    obtain ⟨b, rfl, hb⟩ | rfl | ⟨place, rfl⟩ := readMember_closing hfirst
    · cases hskip : skip verbose b with
      | nil =>
        obtain hw | hw := skip_closing_of_nil hskip
        · rw [readRange_eq hfirst hw, if_pos (.inl (by decide))] at h
          have := spent_behind hskip
          grind [Except.map.eq_def]
        · grind [readRange]
      | cons d more =>
        rw [readRange_eq hfirst (skip_closing_of_cons hskip)] at h
        rw [readRange_eq hb hskip]
        split at h
        · rename_i hsingle
          rw [peek?_closing _ _ (.inl rfl), peek?_closing _ _ (.inr rfl)] at hsingle
          rw [if_pos hsingle]
          grind [Except.map.eq_def]
        · rename_i hrange
          rw [peek?_closing _ _ (.inl rfl), peek?_closing _ _ (.inr rfl)] at hrange
          rw [if_neg hrange]
          exact readRangeEnd_closing h
    · have hsign : skip verbose ['$'] = ['$'] := skip_of_suffix_closing (by decide)
      rw [readRange_eq hfirst hsign, if_pos (.inl (by decide))] at h
      have := spent_sign verbose
      grind [Except.map.eq_def]
    · -- a place in the text is no member of a set
      cases hskip : skip verbose behind with
      | nil => grind [readRange]
      | cons d more =>
        rw [readRange_eq hfirst hskip] at h
        grind [readRangeEnd, Except.map.eq_def, Atom.to, Atom.asMember]

theorem readHyphens_nil {verbose : Bool} {cs : List Char} (h : skip verbose cs = []) :
    readHyphens verbose cs = ([], []) := by
  rw [readHyphens]
  split
  · rfl
  · simp_all

theorem readHyphens_cons {verbose : Bool} {c : Char} {cs rest : List Char}
    (h : skip verbose cs = c :: rest) :
    readHyphens verbose cs =
      if c = '-' then
        (.range ⟨'-', false⟩ ⟨'-', false⟩ :: (readHyphens verbose rest).1,
          (readHyphens verbose rest).2)
      else ([], c :: rest) := by
  rw [readHyphens]
  split
  · simp_all
  · simp_all

theorem readHyphens_closing (verbose : Bool) (cs : List Char) :
    readHyphens verbose (cs ++ closing) =
        ((readHyphens verbose cs).1, (readHyphens verbose cs).2 ++ closing) ∨
      (readHyphens verbose (cs ++ closing)).2 = [] := by
  fun_induction readHyphens verbose cs with
  | case1 cs hskip =>
    obtain hw | hw := skip_closing_of_nil hskip
    · exact .inl (readHyphens_cons hw)
    · exact .inr (by rw [readHyphens_nil hw])
  | case2 cs rest r hskip ih =>
    rw [readHyphens_cons (skip_closing_of_cons hskip)]
    exact ih.imp (fun h => by rw [h]; rfl) id
  | case3 cs c rest hskip hc =>
    rw [readHyphens_cons (skip_closing_of_cons hskip), if_neg hc]
    exact .inl rfl

/-- Whether the sign of negation comes first, and what stands behind it. -/
def bracketSign : List Char → Bool × List Char
  | '^' :: rest => (true, rest)
  | rest => (false, rest)

/-- What stands first in brackets, given the hyphens behind the sign of negation. -/
def bracketStart (negated : Bool) : List SetPhrase × List Char → Bool × List SetPhrase × List Char
  | ([], ']' :: rest) => (negated, [.range ⟨']', false⟩ ⟨']', false⟩], rest)
  | (items, rest) => (negated, items, rest)

theorem readBracketHead_eq (verbose : Bool) (cs : List Char) :
    readBracketHead verbose cs = bracketStart (bracketSign (skip verbose cs)).1
      (readHyphens verbose (bracketSign (skip verbose cs)).2) := rfl

theorem bracketSign_closing (cs : List Char) :
    bracketSign (cs ++ closing) = ((bracketSign cs).1, (bracketSign cs).2 ++ closing) := by
  cases cs with
  | nil => rfl
  | cons c rest => by_cases hc : c = '^' <;> simp [bracketSign, hc]

theorem bracketStart_closing (negated : Bool) (items : List SetPhrase) (cs : List Char) :
    bracketStart negated (items, cs ++ closing) =
      ((bracketStart negated (items, cs)).1, (bracketStart negated (items, cs)).2.1,
        (bracketStart negated (items, cs)).2.2 ++ closing) := by
  cases items with
  | nil =>
    cases cs with
    | nil => rfl
    | cons c rest => by_cases hc : c = ']' <;> simp [bracketStart, hc]
  | cons p items => rfl

theorem readBracketHead_closing (verbose : Bool) (cs : List Char) :
    readBracketHead verbose (cs ++ closing) =
        ((readBracketHead verbose cs).1, (readBracketHead verbose cs).2.1,
          (readBracketHead verbose cs).2.2 ++ closing) ∨
      (readBracketHead verbose (cs ++ closing)).2.2 = [] := by
  have hnil (negated : Bool) {r : List SetPhrase × List Char} (h : r.2 = []) :
      (bracketStart negated r).2.2 = [] := by
    obtain ⟨items, rest⟩ := r
    cases h
    cases items <;> rfl
  simp only [readBracketHead_eq]
  obtain hw | ⟨-, hw⟩ := skip_closing verbose cs
  · rw [hw, bracketSign_closing]
    obtain hh | hh := readHyphens_closing verbose (bracketSign (skip verbose cs)).2
    · exact .inl (by rw [hh]; exact bracketStart_closing _ _ _)
    · exact .inr (hnil _ hh)
  · rw [hw]
    have hend : skip verbose [] = [] := skip_of_suffix_closing List.nil_suffix
    exact .inr (hnil _ (by rw [bracketSign, readHyphens_nil hend]; exact nofun))

theorem operation?_closing (c : Char) (rest : List Char) :
    operation? c (rest ++ closing) = operation? c rest := by
  cases rest with
  | cons d rest => rfl
  | nil =>
    by_cases hc : c = ')'
    · subst hc
      rfl
    · simp [operation?, closing, Ne.symm hc]

theorem readInside_nil {verbose : Bool} {innermost : OpenBracket} {outer : List OpenBracket}
    {cs : List Char} (h : skip verbose cs = []) :
    readInside verbose innermost outer cs = .error .unclosedBracket := by
  rw [readInside]
  split
  · rfl
  · simp_all

theorem readInside_cons {verbose : Bool} {innermost : OpenBracket} {outer : List OpenBracket}
    {c : Char} {cs rest : List Char} (h : skip verbose cs = c :: rest) :
    readInside verbose innermost outer cs =
      if c = ']' then
        match outer with
        | [] => .ok ((innermost.negated, innermost.contents), rest)
        | next :: others =>
          readInside verbose (next.push (.bracket innermost.negated innermost.contents)) others rest
      else if c = '[' then
        match readAsciiClass? rest with
        | some (p, behind) => readInside verbose (innermost.push p) outer behind
        | none =>
          readInside verbose
            ⟨(readBracketHead verbose rest).1, none, (readBracketHead verbose rest).2.1⟩
            (innermost :: outer) (readBracketHead verbose rest).2.2
      else match operation? c rest with
        | some operation => readInside verbose (innermost.operate operation) outer (rest.drop 1)
        | none =>
          match readRange verbose c rest with
          | .error e => .error e
          | .ok (p, behind) => readInside verbose (innermost.push p) outer behind := by
  rw [readInside]
  split
  · simp_all
  · rename_i hskip
    cases h.symm.trans hskip
    by_cases hclose : c = ']'
    · refine (if_pos hclose).trans (.trans ?_ (if_pos hclose).symm)
      cases outer <;> rfl
    refine (if_neg hclose).trans (.trans ?_ (if_neg hclose).symm)
    by_cases hopen : c = '['
    · refine (if_pos hopen).trans (.trans ?_ (if_pos hopen).symm)
      split
      · rename_i heq
        rw [heq]
      · rename_i heq
        rw [heq]
    refine (if_neg hopen).trans (.trans ?_ (if_neg hopen).symm)
    cases hoperation : operation? c rest with
    | some operation => rfl
    | none =>
      dsimp only
      split
      · rename_i heq
        rw [heq]
      · rename_i heq
        rw [heq]

theorem readInside_spent {verbose : Bool} {innermost : OpenBracket} {outer : List OpenBracket}
    {r : List Char} (h : Spent verbose r) :
    readInside verbose innermost outer r = .error .unclosedBracket := by
  have hsign (x : List Char) (b : OpenBracket) (hx : skip verbose x = ['$']) :
      readInside verbose b outer x = .error .unclosedBracket := by
    rw [readInside_cons hx]
    cases verbose <;> rfl
  have hr : skip verbose r = closing ∨ skip verbose r = ['$'] ∨ skip verbose r = [] := by
    simpa [Spent, closing, List.suffix_cons_iff] using h
  obtain hr | hr | hr := hr
  · rw [readInside_cons hr]
    have hclose : readRange verbose ')' ['$'] =
        .ok (.range ⟨')', false⟩ ⟨')', false⟩, ['$']) := by cases verbose <;> rfl
    have hop : operation? ')' ['$'] = none := rfl
    simp only [hop, hclose]
    exact hsign _ _ (skip_of_suffix_closing (by decide))
  · exact hsign _ _ hr
  · exact readInside_nil hr

/-- Where a bracket goes on with a range, the range ends in front of the closing: otherwise nothing
would be left that closes the bracket. -/
theorem exists_range_of_readInside {verbose : Bool} {innermost : OpenBracket}
    {outer : List OpenBracket} {c : Char} {cs rest r : List Char} {a : Bool × SetPhrase}
    (hskip : skip verbose cs = c :: rest) (hclose : c ≠ ']') (hopen : c ≠ '[')
    (hop : operation? c rest = none)
    (h : readInside verbose innermost outer (cs ++ closing) = .ok (a, r)) :
    ∃ p behind, readRange verbose c rest = .ok (p, behind) ∧
      readInside verbose (innermost.push p) outer (behind ++ closing) = .ok (a, r) := by
  rw [readInside_cons (skip_closing_of_cons hskip), if_neg hclose, if_neg hopen,
    operation?_closing, hop] at h
  cases hread : readRange verbose c (rest ++ closing) with
  | error e =>
    rw [hread] at h
    cases h
  | ok read =>
    obtain ⟨p, behind⟩ := read
    rw [hread] at h
    dsimp only at h
    obtain ⟨b, rfl, hb⟩ | hspent := readRange_closing hread
    · exact ⟨p, b, hb, h⟩
    · rw [readInside_spent hspent] at h
      cases h

theorem readInside_closing {verbose : Bool} {innermost : OpenBracket} {outer : List OpenBracket}
    {cs r : List Char} {a : Bool × SetPhrase}
    (h : readInside verbose innermost outer (cs ++ closing) = .ok (a, r)) :
    ∃ b, r = b ++ closing ∧ readInside verbose innermost outer cs = .ok (a, b) := by
  fun_induction readInside verbose innermost outer cs with
  | case1 innermost outer cs hskip =>
    rw [readInside_spent (spent_behind hskip)] at h
    cases h
  | case2 innermost cs rest hskip =>
    rw [readInside_cons (skip_closing_of_cons hskip)] at h
    cases h
    exact ⟨rest, rfl, rfl⟩
  | case3 innermost cs rest next others hskip ih =>
    rw [readInside_cons (skip_closing_of_cons hskip)] at h
    exact ih h
  | case4 innermost outer cs rest p behind hclass hskip hne ih =>
    rw [readInside_cons (skip_closing_of_cons hskip), if_neg hne, if_pos rfl,
      readAsciiClass?_closing, hclass] at h
    exact ih h
  | case5 innermost outer cs rest hclass negated items behind hhead hskip hne ih =>
    rw [readInside_cons (skip_closing_of_cons hskip), if_neg hne, if_pos rfl,
      readAsciiClass?_closing, hclass] at h
    dsimp only [Option.map_none] at h
    obtain hw | hw := readBracketHead_closing verbose rest
    · rw [hw, hhead] at h
      exact ih h
    · rw [hw, readInside_spent (spent_of_suffix List.nil_suffix)] at h
      cases h
  | case6 innermost outer cs c rest hskip hclose hopen operation hop ih =>
    rw [readInside_cons (skip_closing_of_cons hskip), if_neg hclose, if_neg hopen,
      operation?_closing, hop] at h
    cases rest with
    | nil => exact absurd hop (by simp [operation?])
    | cons d rest => exact ih h
  | case7 innermost outer cs c rest hskip hclose hopen hop e hrange =>
    obtain ⟨p, behind, hread, -⟩ := exists_range_of_readInside hskip hclose hopen hop h
    cases hrange.symm.trans hread
  | case8 innermost outer cs c rest hskip hclose hopen hop p behind hrange ih =>
    obtain ⟨p', behind', hread, hrest⟩ := exists_range_of_readInside hskip hclose hopen hop h
    cases hrange.symm.trans hread
    exact ih hrest

theorem readBracket_eq (verbose : Bool) (cs : List Char) :
    readBracket verbose cs = readInside verbose
      ⟨(readBracketHead verbose cs).1, none, (readBracketHead verbose cs).2.1⟩ []
      (readBracketHead verbose cs).2.2 := rfl

theorem readBracket_closing {verbose : Bool} {cs r : List Char} {a : Bool × SetPhrase}
    (h : readBracket verbose (cs ++ closing) = .ok (a, r)) :
    ∃ b, r = b ++ closing ∧ readBracket verbose cs = .ok (a, b) := by
  obtain hw | hw := readBracketHead_closing verbose cs
  · rw [readBracket_eq, hw] at h
    exact readInside_closing h
  · rw [readBracket_eq, hw, readInside_spent (spent_of_suffix List.nil_suffix)] at h
    cases h

end ManifestCheck.Pattern
