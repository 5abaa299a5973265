import ManifestCheck.Proofs.Outcome
import ManifestCheck.Proofs.Pattern.PastedBrackets

/-!
# Lexemes in front of the closing

A lexeme that is read with the closing behind the text is read from the text alone, or it has used
up the parenthesis, or an opening brace is all that is left in front of the closing
(`readLexeme_closing`).  In the last two cases it closes no group.
-/

namespace ManifestCheck.Pattern

/-! ## Repetitions -/

theorem pad_closing (verbose : Bool) (cs : List Char) :
    pad verbose (cs ++ closing) = pad verbose cs ++ closing ∨
      pad verbose cs = [] ∧ pad verbose (cs ++ closing) = [] := by
  cases verbose with
  | false => exact .inl (dropWhile_closing cs)
  | true => exact skipFrom_closing false cs

theorem readDigits_cons (verbose : Bool) (c : Char) (rest : List Char) :
    readDigits verbose (c :: rest) =
      if c.isDigit then
        (c :: (readDigits verbose (skip verbose rest)).1,
          (readDigits verbose (skip verbose rest)).2)
      else ([], c :: rest) := by
  rw [readDigits]

theorem readDigits_closing (verbose : Bool) (cs : List Char) :
    readDigits verbose (cs ++ closing) =
        ((readDigits verbose cs).1, (readDigits verbose cs).2 ++ closing) ∨
      (readDigits verbose (cs ++ closing)).2 = [] := by
  fun_induction readDigits verbose cs with
  | case1 => exact .inl (readDigits_cons verbose ')' ['$'])
  | case2 c rest hc r ih =>
    rw [List.cons_append, readDigits_cons, if_pos hc]
    obtain hw | ⟨hnil, hw⟩ := skip_closing verbose rest
    · rw [hw]
      exact ih.imp (fun h => by rw [h]) id
    · rw [hw]
      exact .inr (by rw [readDigits])
  | case3 c rest hc =>
    rw [List.cons_append, readDigits_cons, if_neg hc]
    exact .inl rfl

theorem readNumber_closing {verbose : Bool} {cs r : List Char} {n : Nat}
    (h : readNumber verbose (cs ++ closing) = .ok (n, r)) :
    (∃ b, r = b ++ closing ∧ readNumber verbose cs = .ok (n, b)) ∨ r = [] := by
  obtain hw | ⟨-, hw⟩ := pad_closing verbose cs
  · unfold readNumber at h ⊢
    rw [hw] at h
    obtain hd | hd := readDigits_closing verbose (pad verbose cs)
    · rw [hd] at h
      dsimp only at h
      have := pad_closing verbose (readDigits verbose (pad verbose cs)).2
      grind
    · have : pad verbose [] = [] := by cases verbose <;> rfl
      grind
  · unfold readNumber at h
    rw [hw] at h
    exact absurd h (by cases verbose <;> simp [readDigits])

theorem readNumber_nil (verbose : Bool) : readNumber verbose [] = .error .badRepetition := by
  cases verbose <;> simp [readNumber, readDigits, pad, skipFrom]

theorem readNumber_closing_nil (verbose : Bool) :
    readNumber verbose closing = .error .badRepetition := by
  have hpad : pad verbose closing = closing := by cases verbose <;> rfl
  have hdigits : readDigits verbose closing = ([], closing) := readDigits_cons verbose ')' ['$']
  simp [readNumber, hpad, hdigits]

/-- The upper bound of a repetition from behind its comma. -/
def readUpper (verbose : Bool) (least : Nat) (cs : List Char) : Read (Nat × Option Nat) :=
  match skip verbose cs with
  | '\x7d' :: behind => .ok ((least, none), behind)
  | more =>
    match readNumber verbose more with
    | .error e => .error e
    | .ok (most, '\x7d' :: behind) =>
      if least ≤ most then .ok ((least, some most), behind) else .error .badRepetition
    | .ok _ => .error .badRepetition

theorem readBounds_eq (verbose : Bool) (cs : List Char) :
    readBounds verbose cs =
      match readNumber verbose (skip verbose cs) with
      | .error e => .error e
      | .ok (least, '\x7d' :: behind) => .ok ((least, some least), behind)
      | .ok (least, ',' :: more) => readUpper verbose least more
      | .ok _ => .error .badRepetition := rfl

theorem readUpper_closing {verbose : Bool} {least : Nat} {cs r : List Char}
    {bounds : Nat × Option Nat} (h : readUpper verbose least (cs ++ closing) = .ok (bounds, r)) :
    ∃ b, r = b ++ closing ∧ readUpper verbose least cs = .ok (bounds, b) := by
  have hnil := readNumber_nil verbose
  have hclosing := readNumber_closing_nil verbose
  cases hskip : skip verbose cs with
  | nil =>
    obtain hw | hw := skip_closing_of_nil hskip
    · grind [readUpper, closing]
    · grind [readUpper]
  | cons d more =>
    have hw := skip_closing_of_cons hskip
    by_cases hd : d = '\x7d'
    · grind [readUpper]
    · cases hn : readNumber verbose (d :: more ++ closing) with
      | error e => grind [readUpper]
      | ok read =>
        obtain ⟨most, r'⟩ := read
        obtain ⟨b, rfl, hb⟩ | rfl := readNumber_closing hn
        · cases b with
          | nil => grind [readUpper, closing]
          | cons e b => grind [readUpper]
        · grind [readUpper]

theorem readBounds_closing {verbose : Bool} {cs r : List Char} {bounds : Nat × Option Nat}
    (h : readBounds verbose (cs ++ closing) = .ok (bounds, r)) :
    ∃ b, r = b ++ closing ∧ readBounds verbose cs = .ok (bounds, b) := by
  rw [readBounds_eq] at h ⊢
  obtain hw | ⟨-, hw⟩ := skip_closing verbose cs
  · rw [hw] at h
    cases hn : readNumber verbose (skip verbose cs ++ closing) with
    | error e => grind
    | ok read =>
      obtain ⟨least, r'⟩ := read
      rw [hn] at h
      obtain ⟨b, rfl, hb⟩ | rfl := readNumber_closing hn
      · cases b with
        | nil => cases h
        | cons e b =>
          have := @readUpper_closing verbose least b r bounds
          grind
      · cases h
  · rw [hw, readNumber_nil] at h
    cases h

theorem dropLazyMark_closing (cs : List Char) :
    dropLazyMark (cs ++ closing) = dropLazyMark cs ++ closing := by
  cases cs with
  | nil => rfl
  | cons c cs => by_cases hc : c = '?' <;> simp [dropLazyMark, hc]

theorem dropLazyMarkBehind_closing (verbose : Bool) (cs : List Char) :
    dropLazyMarkBehind verbose (cs ++ closing) = dropLazyMarkBehind verbose cs ++ closing := by
  unfold dropLazyMarkBehind
  cases hskip : skip verbose cs with
  | nil =>
    obtain hw | hw := skip_closing_of_nil hskip
    · rw [hw]
      rfl
    · rw [hw]
  | cons c rest =>
    rw [skip_closing_of_cons hskip]
    by_cases hc : c = '?' <;> simp [hc]

/-! ## Groups -/

theorem readFlags_closing {change : FlagChange} {negated dangling : Bool} {cs r : List Char}
    {a : FlagChange × Bool} (h : readFlags change negated dangling (cs ++ closing) = .ok (a, r)) :
    (∃ b, r = b ++ closing ∧ readFlags change negated dangling cs = .ok (a, b)) ∨
      a.2 = true ∧ r = ['$'] := by
  fun_induction readFlags change negated dangling cs with
  | case1 change negated dangling =>
    cases dangling <;> simp_all [readFlags, closing]
    grind
  | _ => simp_all [readFlags]

theorem readName_closing {first : Bool} {cs name r : List Char}
    (h : readName first (cs ++ closing) = .ok (name, r)) :
    ∃ b, r = b ++ closing ∧ readName first cs = .ok (name, b) := by
  have hsign : readName false ['$'] = .error .badGroupName := by
    rw [readName, if_neg (by decide)]
    split
    · rfl
    · rfl
  induction cs generalizing first name with
  | nil =>
    rw [List.nil_append, closing, readName, if_neg (by decide), hsign] at h
    split at h
    · cases h
    · cases h
  | cons c rest ih =>
    rw [List.cons_append, readName] at h
    rw [readName]
    by_cases hend : c = '>'
    · rw [if_pos hend] at h ⊢
      cases first with
      | true => cases h
      | false =>
        cases h
        exact ⟨rest, rfl, rfl⟩
    rw [if_neg hend] at h ⊢
    by_cases hname : isNameChar first c = true
    · rw [if_pos hname] at h ⊢
      cases hr : readName false (rest ++ closing) with
      | error e =>
        rw [hr] at h
        cases h
      | ok read =>
        rw [hr] at h
        cases h
        obtain ⟨b, hb, halone⟩ := ih hr
        exact ⟨b, hb, by rw [halone]⟩
    · rw [if_neg hname] at h
      cases h

/-- A group with a name from behind its opening angle. -/
def readNamed (cs : List Char) : Read Lexeme :=
  (readName true cs).map fun r => (.opening (.capture (some (String.ofList r.1))), r.2)

/-- A group or a directive from behind its question mark. -/
def readFlagged (cs : List Char) : Read Lexeme :=
  match readFlags {} false false cs with
  | .error e => .error e
  | .ok ((change, false), behind) => .ok (.opening (.plain change), behind)
  | .ok ((change, true), behind) =>
    if change = {} then .error .badFlags else .ok (.directive change, behind)

/-- What is made of what is read, and of what is left, does not see the closing either. -/
theorem map_closing {α β : Type} {whole alone : Read α} {f : α × List Char → β × List Char} {l : β}
    {r : List Char} (h : whole.map f = .ok (l, r))
    (hread : ∀ {a r}, whole = .ok (a, r) → ∃ b, r = b ++ closing ∧ alone = .ok (a, b))
    (hf : ∀ a b, f (a, b ++ closing) = ((f (a, b)).1, (f (a, b)).2 ++ closing)) :
    ∃ b, r = b ++ closing ∧ alone.map f = .ok (l, b) := by
  obtain ⟨⟨a, _⟩, hwhole, hmade⟩ := map_ok h
  obtain ⟨b, rfl, halone⟩ := hread hwhole
  cases (hf a b).symm.trans hmade
  exact ⟨_, rfl, by rw [halone]; rfl⟩

theorem readNamed_closing {cs r : List Char} {l : Lexeme}
    (h : readNamed (cs ++ closing) = .ok (l, r)) :
    ∃ b, r = b ++ closing ∧ readNamed cs = .ok (l, b) :=
  map_closing h readName_closing fun _ _ => rfl

theorem readFlagged_closing {cs r : List Char} {l : Lexeme}
    (h : readFlagged (cs ++ closing) = .ok (l, r)) :
    (∃ b, r = b ++ closing ∧ readFlagged cs = .ok (l, b)) ∨ l ≠ .closing ∧ r = ['$'] := by
  unfold readFlagged at h ⊢
  cases hr : readFlags {} false false (cs ++ closing) with
  | error e =>
    rw [hr] at h
    cases h
  | ok read =>
    rw [hr] at h
    obtain ⟨⟨change, ends⟩, behind⟩ := read
    obtain ⟨b, rfl, halone⟩ | ⟨rfl, rfl⟩ := readFlags_closing hr
    · rw [halone]
      cases ends <;> grind
    · grind

/-- A group from behind a question mark and an angle, which may also open a look behind. -/
def readAngled (cs : List Char) : Read Lexeme :=
  if cs.head? = some '=' ∨ cs.head? = some '!' then .error .lookaround else readNamed cs

/-- What a parenthesis and a question mark open. -/
def readMarked : List Char → Read Lexeme
  | [] => readFlagged []
  | c :: rest =>
    if c = '=' ∨ c = '!' then .error .lookaround
    else if c = '<' then readAngled rest
    else if c = 'P' ∧ rest.head? = some '<' then readNamed rest.tail
    else readFlagged (c :: rest)

/-- What a parenthesis opens, from what stands behind it on. -/
def readOpened : List Char → Read Lexeme
  | [] => .ok (.opening (.capture none), [])
  | c :: rest =>
    if c = '?' then readMarked rest else .ok (.opening (.capture none), c :: rest)

theorem readOpening_eq (verbose : Bool) (cs : List Char) :
    readOpening verbose cs = readOpened (skip verbose cs) := by
  unfold readOpening
  split
  · simp_all [readOpened, readMarked]
  · simp_all [readOpened, readMarked]
  · simp_all [readOpened, readMarked, readAngled]
  · simp_all [readOpened, readMarked, readAngled]
  · simp_all [readOpened, readMarked, readNamed]
  · rename_i rest hequal hnot hskip
    have hplain : ¬(rest.head? = some '=' ∨ rest.head? = some '!') := by
      cases rest <;> simp_all
    rw [hskip]
    simp [readOpened, readMarked, readAngled, hplain, readNamed]
  · rename_i rest _ _ _ _ _ _ hskip
    rw [hskip]
    cases rest with
    | nil => rfl
    | cons c rest =>
      have hplain : ¬(c = '=' ∨ c = '!') ∧ c ≠ '<' ∧ ¬(c = 'P' ∧ rest.head? = some '<') := by
        cases rest <;> simp_all
      have hflagged : readOpened ('?' :: c :: rest) = readFlagged (c :: rest) := by
        simp only [readOpened, readMarked, if_neg hplain.1, if_neg hplain.2.1, if_neg hplain.2.2,
          if_true]
      exact hflagged.symm
  · cases hskip : skip verbose cs with
    | nil => rfl
    | cons c rest =>
      have hc : c ≠ '?' := by simp_all
      rw [readOpened, if_neg hc]

theorem head?_closing {cs : List Char} {c : Char} (hc : c ≠ ')') :
    (cs ++ closing).head? = some c ↔ cs.head? = some c := by
  cases cs <;> simp [closing, Ne.symm hc]

theorem readAngled_closing {cs r : List Char} {l : Lexeme}
    (h : readAngled (cs ++ closing) = .ok (l, r)) :
    ∃ b, r = b ++ closing ∧ readAngled cs = .ok (l, b) := by
  unfold readAngled at h ⊢
  split at h
  · cases h
  · rename_i hplain
    rw [head?_closing (by decide), head?_closing (by decide)] at hplain
    rw [if_neg hplain]
    exact readNamed_closing h

theorem readMarked_closing {cs r : List Char} {l : Lexeme}
    (h : readMarked (cs ++ closing) = .ok (l, r)) :
    (∃ b, r = b ++ closing ∧ readMarked cs = .ok (l, b)) ∨ l ≠ .closing ∧ r = ['$'] := by
  cases cs with
  | nil => exact @readFlagged_closing [] r l h
  | cons c rest =>
    rw [List.cons_append, readMarked] at h
    rw [readMarked]
    by_cases hlook : c = '=' ∨ c = '!'
    · rw [if_pos hlook] at h
      cases h
    rw [if_neg hlook] at h ⊢
    by_cases hangle : c = '<'
    · rw [if_pos hangle] at h ⊢
      exact .inl (readAngled_closing h)
    rw [if_neg hangle] at h ⊢
    by_cases hname : c = 'P' ∧ rest.head? = some '<'
    · rw [if_pos ⟨hname.1, (head?_closing (by decide)).mpr hname.2⟩] at h
      rw [if_pos hname]
      cases rest with
      | nil => cases hname.2
      | cons d rest => exact .inl (readNamed_closing h)
    · rw [if_neg fun hn => hname ⟨hn.1, (head?_closing (by decide)).mp hn.2⟩] at h
      rw [if_neg hname]
      exact readFlagged_closing h

theorem readOpening_closing {verbose : Bool} {cs r : List Char} {l : Lexeme}
    (h : readOpening verbose (cs ++ closing) = .ok (l, r)) :
    (∃ b, r = b ++ closing ∧ readOpening verbose cs = .ok (l, b)) ∨
      l ≠ .closing ∧ (r = ['$'] ∨ r = []) := by
  rw [readOpening_eq] at h ⊢
  obtain hw | ⟨-, hw⟩ := skip_closing verbose cs
  · rw [hw] at h
    cases hs : skip verbose cs with
    | nil =>
      rw [hs] at h
      cases h
      exact .inl ⟨[], rfl, rfl⟩
    | cons c rest =>
      rw [hs, List.cons_append, readOpened] at h
      rw [readOpened]
      by_cases hc : c = '?'
      · rw [if_pos hc] at h ⊢
        exact (readMarked_closing h).imp id (And.imp_right .inl)
      · rw [if_neg hc] at h ⊢
        cases h
        exact .inl ⟨c :: rest, rfl, rfl⟩
  · rw [hw] at h
    cases h
    exact .inr ⟨Lexeme.noConfusion, .inr rfl⟩

theorem readLexeme_closing {verbose : Bool} {c : Char} {cs r : List Char} {l : Lexeme}
    (h : readLexeme verbose c (cs ++ closing) = .ok (l, r)) :
    (∃ b, r = b ++ closing ∧ readLexeme verbose c cs = .ok (l, b)) ∨
      l ≠ .closing ∧ (r = ['$'] ∨ r = []) ∨
      (∃ a, l = .atom a) ∧ ∃ more, r = '\x7b' :: more ∧ skip verbose more = closing := by
  unfold readLexeme at h
  split at h
  · exact (readOpening_closing h).imp id .inl
  · cases h
    exact .inl ⟨cs, rfl, rfl⟩
  · cases h
    exact .inl ⟨cs, rfl, rfl⟩
  · exact .inl (map_closing h readBracket_closing fun _ _ => rfl)
  · cases h
    exact .inl ⟨_, dropLazyMark_closing cs, rfl⟩
  · cases h
    exact .inl ⟨_, dropLazyMark_closing cs, rfl⟩
  · cases h
    exact .inl ⟨_, dropLazyMark_closing cs, rfl⟩
  · refine .inl (map_closing h readBounds_closing fun bounds b => ?_)
    rw [dropLazyMarkBehind_closing]
  · obtain ⟨read, hescape, hread⟩ := map_ok h
    cases hread
    obtain ⟨b, hb, halone⟩ | hsign | ⟨-, hbrace⟩ := readEscape_closing hescape
    · exact .inl ⟨b, hb, by rw [readLexeme, halone]; rfl⟩
    · exact .inr (.inl ⟨Lexeme.noConfusion, .inl hsign⟩)
    · exact .inr (.inr ⟨⟨_, rfl⟩, hbrace⟩)
  · cases h
    exact .inl ⟨cs, rfl, rfl⟩
  · cases h
    exact .inl ⟨cs, rfl, rfl⟩
  · cases h
    exact .inl ⟨cs, rfl, rfl⟩
  · cases h
    refine .inl ⟨cs, rfl, ?_⟩
    unfold readLexeme
    split <;> simp_all

end ManifestCheck.Pattern
