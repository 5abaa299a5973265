import ManifestCheck.Pattern

/-!
# Escapes in front of the closing

The source of a pattern is read inside a group, so that a parenthesis and a dollar sign stand behind
it: the `closing`.  A reader of escapes that succeeds there has read the same from the source alone,
and left the closing where it was (`readEscape_closing`).  Only at the very end of a source can it
take part of the closing for its own: a backslash there takes the parenthesis, the letter of a
property takes it for a name, and a brace behind a word boundary may find it.
-/

namespace ManifestCheck.Pattern

/-- What stands behind a source. -/
def closing : List Char := [')', '$']

theorem skipFrom_closing (inRemark : Bool) (cs : List Char) :
    skipFrom inRemark (cs ++ closing) = skipFrom inRemark cs ++ closing ∨
      skipFrom inRemark cs = [] ∧ skipFrom inRemark (cs ++ closing) = [] := by
  fun_induction skipFrom inRemark cs with
  | case1 inRemark => cases inRemark <;> decide
  | _ => simp_all [skipFrom]

theorem skip_closing (verbose : Bool) (cs : List Char) :
    skip verbose (cs ++ closing) = skip verbose cs ++ closing ∨
      skip verbose cs = [] ∧ skip verbose (cs ++ closing) = [] := by
  cases verbose with
  | false => exact .inl rfl
  | true => exact skipFrom_closing false cs

theorem skip_closing_of_nil {verbose : Bool} {cs : List Char} (h : skip verbose cs = []) :
    skip verbose (cs ++ closing) = closing ∨ skip verbose (cs ++ closing) = [] := by
  simpa [h] using skip_closing verbose cs

theorem skip_closing_of_cons {verbose : Bool} {c : Char} {cs rest : List Char}
    (h : skip verbose cs = c :: rest) : skip verbose (cs ++ closing) = c :: (rest ++ closing) := by
  simpa [h] using skip_closing verbose cs

theorem readBraced?_closing (verbose inRemark : Bool) (cs : List Char) :
    readBraced? verbose inRemark (cs ++ closing) =
      (readBraced? verbose inRemark cs).map fun r => (r.1, r.2 ++ closing) := by
  fun_induction readBraced? verbose inRemark cs with
  | case1 inRemark => cases verbose <;> cases inRemark <;> decide
  | case6 inRemark c cs hin hb hn hc ih =>
    cases verbose <;> simp_all [readBraced?, Function.comp_def]
  | _ => simp_all [readBraced?]

theorem readHexDigits_closing {verbose : Bool} {n value code : Nat} {cs r : List Char}
    (h : readHexDigits verbose n value (cs ++ closing) = .ok (code, r)) :
    ∃ b, r = b ++ closing ∧ readHexDigits verbose n value cs = .ok (code, b) := by
  induction n generalizing value cs with
  | zero =>
    cases h
    exact ⟨cs, rfl, rfl⟩
  | succ n ih =>
    rw [readHexDigits] at h ⊢
    cases hc : skip verbose cs with
    | nil =>
      obtain hw | hw := skip_closing_of_nil hc
      · rw [hw] at h
        cases h
      · rw [hw] at h
        cases h
    | cons c rest =>
      rw [skip_closing_of_cons hc] at h
      dsimp only at h ⊢
      cases hd : Digits.hexValue? c with
      | none =>
        rw [hd] at h
        cases h
      | some d =>
        rw [hd] at h
        exact ih h

theorem readHexDigits_closing_nil (verbose : Bool) (n value : Nat) :
    readHexDigits verbose (n + 1) value closing = .error .badCharacterCode := by
  cases verbose <;> rfl

theorem codeWidth_pos (letter : Char) : 0 < codeWidth letter := by
  unfold codeWidth
  split
  · decide
  · split <;> decide

theorem readCode_closing {verbose : Bool} {letter : Char} {cs r : List Char} {l : Literal}
    (h : readCode verbose letter (cs ++ closing) = .ok (l, r)) :
    ∃ b, r = b ++ closing ∧ readCode verbose letter cs = .ok (l, b) := by
  cases hc : skip verbose cs with
  | nil =>
    obtain hw | hw := skip_closing_of_nil hc
    · obtain ⟨n, hn⟩ := Nat.exists_eq_add_of_lt (codeWidth_pos letter)
      have hx := readHexDigits_closing_nil verbose n 0
      grind [readCode, closing]
    · grind [readCode]
  | cons c rest =>
    have hw := skip_closing_of_cons hc
    by_cases hb : c = '\x7b'
    · subst hb
      have hx := readBraced?_closing verbose false rest
      grind [readCode]
    · cases hr : readHexDigits verbose (codeWidth letter) 0 (c :: rest ++ closing) with
      | error e => grind [readCode]
      | ok read =>
        have hx := readHexDigits_closing hr
        grind [readCode]

theorem readProperty_closing {verbose negated : Bool} {cs r : List Char} {a : Atom}
    (h : readProperty verbose negated (cs ++ closing) = .ok (a, r)) :
    (∃ b, r = b ++ closing ∧ readProperty verbose negated cs = .ok (a, b)) ∨ r = ['$'] := by
  cases hc : skip verbose cs with
  | nil =>
    obtain hw | hw := skip_closing_of_nil hc
    · grind [readProperty, closing]
    · grind [readProperty]
  | cons c rest =>
    have hw := skip_closing_of_cons hc
    have hx := readBraced?_closing verbose false rest
    grind [readProperty]

theorem readBoundary_closing {verbose : Bool} {cs r : List Char} {a : Atom}
    (h : readBoundary verbose (cs ++ closing) = .ok (a, r)) :
    (∃ b, r = b ++ closing ∧ readBoundary verbose cs = .ok (a, b)) ∨
      (∃ place, a = .anchor place) ∧ ∃ more, r = '\x7b' :: more ∧ skip verbose more = closing := by
  cases cs with
  | nil => grind [readBoundary, closing]
  | cons d cs =>
    by_cases hd : d = '\x7b'
    · subst hd
      cases hc : skip verbose cs with
      | nil =>
        obtain hw | hw := skip_closing_of_nil hc
        · have : isBoundaryLetter ')' = false := by decide
          grind [readBoundary, closing]
        · grind [readBoundary]
      | cons c rest =>
        have hw := skip_closing_of_cons hc
        have hx := readBraced?_closing verbose false cs
        grind [readBoundary]
    · have hplain (x : List Char) :
          readBoundary verbose (d :: x) = .ok (.anchor .wordBoundary, d :: x) := by
        grind [readBoundary.eq_def]
      rw [List.cons_append, hplain] at h
      cases h
      exact .inl ⟨d :: cs, rfl, hplain cs⟩

theorem readEscape_closing {verbose : Bool} {cs r : List Char} {a : Atom}
    (h : readEscape verbose (cs ++ closing) = .ok (a, r)) :
    (∃ b, r = b ++ closing ∧ readEscape verbose cs = .ok (a, b)) ∨ r = ['$'] ∨
      (∃ place, a = .anchor place) ∧ ∃ more, r = '\x7b' :: more ∧ skip verbose more = closing := by
  cases cs with
  | nil =>
    have : escaped? ')' = some (.literal ⟨')', false⟩) := by decide
    grind [readEscape, closing]
  | cons c rest =>
    rw [List.cons_append, readEscape] at h
    split at h
    · cases hr : readCode verbose c (rest ++ closing) with
      | error e => rw [hr] at h; cases h
      | ok read =>
        have hx := readCode_closing hr
        grind [readEscape, Except.map.eq_def]
    split at h
    · have hx := readProperty_closing h
      grind [readEscape]
    split at h
    · have hx := readBoundary_closing h
      grind [readEscape]
    · grind [readEscape]

end ManifestCheck.Pattern
