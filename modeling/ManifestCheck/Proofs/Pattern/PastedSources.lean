import ManifestCheck.Proofs.Pattern.AscendingBounds
import ManifestCheck.Proofs.Pattern.PastedLexemes
import ManifestCheck.Proofs.Pattern.WholeMatches
import ManifestCheck.Schema.Compilation

/-!
# Sources in front of the closing

A pattern is compiled from its source inside a group between the anchors of the text.  The stack of
open groups tells what becomes of the source there: as long as the source closes only groups that it
has opened itself, it is read as it would be by itself, with one more group around
(`readFrom_inside`).  So a source that compiles is a pattern by itself, and what it compiles to is
that pattern between the anchors, or it closes a group that it has not opened
(`compile_eq_ok`).  There is a source of the second kind (`unopened_compiles`).

What compiles from a pattern matches a value as that pattern matches the whole of it
(`isMatch_iff_spans`).
-/

namespace ManifestCheck.Pattern

theorem readFrom_nil {p : Progress} {cs : List Char} (h : skip p.verbose cs = []) :
    readFrom p cs = p.finish := by
  rw [readFrom]
  split
  · rfl
  · simp_all

theorem readFrom_cons {p : Progress} {c : Char} {cs rest : List Char}
    (h : skip p.verbose cs = c :: rest) :
    readFrom p cs =
      match readLexeme p.verbose c rest with
      | .error e => .error e
      | .ok (l, behind) =>
        match p.add l with
        | .error e => .error e
        | .ok q => readFrom q behind := by
  rw [readFrom]
  split
  · simp_all
  · rename_i hskip
    cases h.symm.trans hskip
    split
    · rename_i hl
      rw [hl]
    · rename_i l behind hl
      cases hadd : p.add l with
      | error e => simp only [hl, hadd]
      | ok q => simp only [hl, hadd]

namespace Progress

/-- The same reading with one more group around all others. -/
def inside (p : Progress) (g : OpenGroup) : Progress := { p with outer := p.outer ++ [g] }

variable {p q : Progress} {g : OpenGroup} {l : Lexeme}

theorem inside_outer_ne_nil : (p.inside g).outer ≠ [] := by
  simp [inside]

theorem add_inside (hl : l = .closing → p.outer ≠ []) :
    (p.inside g).add l = (p.add l).map (·.inside g) := by
  cases l with
  | opening kind =>
    cases kind with
    | plain change => rfl
    | capture name =>
      cases name with
      | none => rfl
      | some name =>
        by_cases hname : name ∈ p.names <;> simp [add, openGroup, inside, hname, Except.map]
  | closing =>
    cases ho : p.outer with
    | nil => exact absurd ho (hl rfl)
    | cons next others =>
      simp only [add, closeGroup, inside, ho]
      rfl
  | repetition least most =>
    cases hi : p.items with
    | nil =>
      simp only [add, repeatLast, inside, hi]
      rfl
    | cons item items =>
      cases item <;> simp only [add, repeatLast, inside, hi] <;> rfl
  | _ => rfl

/-- Nothing but a closing lexeme closes a group. -/
theorem add_outer_ne_nil (h : p.add l = .ok q) (hl : l ≠ .closing) (ho : p.outer ≠ []) :
    q.outer ≠ [] := by
  cases l with
  | opening kind =>
    obtain ⟨names, rfl⟩ := openGroup_ok h
    exact List.cons_ne_nil _ _
  | closing => exact absurd rfl hl
  | repetition least most =>
    obtain ⟨item, items, -, rfl⟩ := repeatLast_ok h
    exact ho
  | _ =>
    cases h
    exact ho

end Progress

/-! ## What is left of the closing -/

theorem readFrom_end {p : Progress} (hp : p.outer ≠ []) :
    readFrom p [] = .error .unclosedGroup := by
  rw [readFrom_nil (skip_of_suffix_closing List.nil_suffix), Progress.finish, if_neg]
  simpa using hp

theorem readFrom_sign (p : Progress) :
    readFrom p ['$'] = (p.push (.atom (.anchor .lineEnd))).finish := by
  rw [readFrom_cons (skip_of_suffix_closing (by decide))]
  exact readFrom_nil (skip_of_suffix_closing List.nil_suffix)

theorem readFrom_open_sign {p : Progress} (hp : p.outer ≠ []) :
    readFrom p ['$'] = .error .unclosedGroup := by
  rw [readFrom_sign, Progress.finish, if_neg]
  simpa [Progress.push] using hp

/-- The closing closes a group and leaves the dollar sign. -/
theorem readFrom_closing {p : Progress} {next : OpenGroup} {others : List OpenGroup}
    (hp : p.outer = next :: others) {cs : List Char} (hcs : skip p.verbose cs = closing) :
    readFrom p cs = readFrom
      ⟨next.verbose, next.options,
        .group next.inner (assemble p.options p.items) :: next.items, others, p.names⟩ ['$'] := by
  rw [readFrom_cons hcs]
  simp only [readLexeme, Progress.add, Progress.closeGroup, hp]

theorem readFrom_brace {p : Progress} {more : List Char} (h : skip p.verbose more = closing) :
    readFrom p ('\x7b' :: more) = .error .badRepetition := by
  have hself : skip p.verbose ('\x7b' :: more) = '\x7b' :: more := by
    cases p.verbose <;> rfl
  have hbounds : readBounds p.verbose more = .error .badRepetition := by
    rw [readBounds_eq, h, readNumber_closing_nil]
  rw [readFrom_cons hself, readLexeme, hbounds]
  rfl

/-! ## A source inside a group -/

/-- A text that is read begins with a lexeme that can be added, and the rest is read behind it. -/
theorem exists_step {p : Progress} {c : Char} {cs rest : List Char} {whole : Phrase}
    (hskip : skip p.verbose cs = c :: rest) (h : readFrom p cs = .ok whole) :
    ∃ l b q, readLexeme p.verbose c rest = .ok (l, b) ∧ p.add l = .ok q ∧
      readFrom q b = .ok whole := by
  rw [readFrom_cons hskip] at h
  cases hl : readLexeme p.verbose c rest with
  | error e =>
    rw [hl] at h
    cases h
  | ok read =>
    obtain ⟨l, b⟩ := read
    rw [hl] at h
    cases hadd : p.add l with
    | error e =>
      simp only [hadd] at h
      cases h
    | ok q =>
      simp only [hadd] at h
      exact ⟨l, b, q, rfl, hadd, h⟩

theorem readFrom_unopened {p : Progress} {c : Char} {cs rest b : List Char}
    (hskip : skip p.verbose cs = c :: rest)
    (hl : readLexeme p.verbose c rest = .ok (.closing, b)) (hp : p.outer = []) :
    readFrom p cs = .error .unopenedGroup := by
  rw [readFrom_cons hskip, hl]
  simp only [Progress.add, Progress.closeGroup, hp]

/-- One step of a text that is read inside a group with the closing behind it: it closes that group,
or it is a step of the text alone. -/
theorem exists_step_inside {p : Progress} {g : OpenGroup} {c : Char} {cs rest : List Char}
    {whole : Phrase} (hskip : skip p.verbose cs = c :: rest)
    (h : readFrom (p.inside g) (cs ++ closing) = .ok whole) :
    readFrom p cs = .error .unopenedGroup ∨
      ∃ l b q, readLexeme p.verbose c rest = .ok (l, b) ∧ p.add l = .ok q ∧
        readFrom (q.inside g) (b ++ closing) = .ok whole := by
  have hwrapped : skip (p.inside g).verbose (cs ++ closing) = c :: (rest ++ closing) :=
    skip_closing_of_cons hskip
  obtain ⟨l, r, q', hl, hadd, hread⟩ := exists_step hwrapped h
  have hopen (hne : l ≠ .closing) : q'.outer ≠ [] :=
    Progress.add_outer_ne_nil hadd hne Progress.inside_outer_ne_nil
  obtain ⟨b, rfl, halone⟩ | ⟨hne, rfl | rfl⟩ | ⟨⟨a, rfl⟩, more, rfl, hmore⟩ :=
    readLexeme_closing hl
  · by_cases hself : l = .closing ∧ p.outer = []
    · obtain ⟨rfl, houter⟩ := hself
      exact .inl (readFrom_unopened hskip halone houter)
    · rw [Progress.add_inside fun hl houter => hself ⟨hl, houter⟩] at hadd
      obtain ⟨q, hq, rfl⟩ := map_ok hadd
      exact .inr ⟨l, b, q, halone, hq, hread⟩
  -- a lexeme that used up the parenthesis leaves nothing that could close the group
  · rw [readFrom_open_sign (hopen hne)] at hread
    cases hread
  · rw [readFrom_end (hopen hne)] at hread
    cases hread
  · cases hadd
    have hbrace : readFrom ((p.inside g).push (.atom a)) ('\x7b' :: more) =
        .error .badRepetition := readFrom_brace hmore
    rw [hbrace] at hread
    cases hread

/-- **A text that is read inside a group with the closing behind it closes that group itself, or is
read as the body of the group.** -/
theorem readFrom_inside {p : Progress} {g : OpenGroup} {cs : List Char} {whole : Phrase}
    (h : readFrom (p.inside g) (cs ++ closing) = .ok whole) :
    readFrom p cs = .error .unopenedGroup ∨ ∃ body, readFrom p cs = .ok body ∧
      whole = assemble g.options
        (.atom (.anchor .lineEnd) :: .group g.inner body :: g.items) := by
  -- along the lexemes of the text alone; `g` stays below all groups that the text opens
  induction p, cs using readFrom.induct with
  | case1 p cs hskip =>
    obtain hw | hw := skip_closing_of_nil hskip
    · cases houter : p.outer with
      | nil =>
        have hout : (p.inside g).outer = [g] := by simp [Progress.inside, houter]
        rw [readFrom_closing hout hw, readFrom_sign] at h
        cases h
        exact .inr ⟨_, by rw [readFrom_nil hskip, Progress.finish, houter]; rfl, rfl⟩
      | cons next others =>
        have hout : (p.inside g).outer = next :: (others ++ [g]) := by
          simp [Progress.inside, houter]
        rw [readFrom_closing hout hw, readFrom_open_sign (by simp)] at h
        cases h
    · have hend : skip (p.inside g).verbose (cs ++ closing) = [] := hw
      rw [readFrom_nil hend, Progress.finish, if_neg (by simp [Progress.inside])] at h
      cases h
  | case2 p cs c rest hskip e hlexeme =>
    obtain hself | ⟨l, b, q, hl, -⟩ := exists_step_inside hskip h
    · exact .inl hself
    · cases hlexeme.symm.trans hl
  | case3 p cs c rest hskip l behind hlexeme e hadd =>
    obtain hself | ⟨l, b, q, hl, hq, -⟩ := exists_step_inside hskip h
    · exact .inl hself
    · cases hlexeme.symm.trans hl
      cases hadd.symm.trans hq
  | case4 p cs c rest hskip l behind hlexeme q hadd ih =>
    obtain hself | ⟨l, b, q', hl, hq, hwhole⟩ := exists_step_inside hskip h
    · exact .inl hself
    · cases hlexeme.symm.trans hl
      cases hadd.symm.trans hq
      rw [readFrom_cons hskip, hlexeme]
      simp only [hadd]
      exact ih hwhole

/-! ## Sources between the anchors -/

/-- The phrase of a body in a group between the anchors of the text. -/
def Phrase.anchored (body : Phrase) : Phrase :=
  .concat [.atom (.anchor .lineStart), .group (.plain {}) body, .atom (.anchor .lineEnd)]

theorem readFrom_anchored (source : List Char) :
    readFrom {} (anchored source) = readFrom
      (({} : Progress).inside ⟨.plain {}, false, [], [.atom (.anchor .lineStart)]⟩)
      (source ++ closing) := by
  have htext : anchored source = '^' :: '(' :: '?' :: ':' :: (source ++ closing) := rfl
  have hstart (rest : List Char) : readFrom {} ('^' :: rest) =
      readFrom (({} : Progress).push (.atom (.anchor .lineStart))) rest := by
    rw [readFrom_cons rfl]
    rfl
  rw [htext, hstart, readFrom_cons rfl]
  rfl

theorem Phrase.height_le_anchored (body : Phrase) : body.height ≤ body.anchored.height := by
  simp only [anchored, height, heightItems, List.isEmpty_cons, Bool.false_eq_true, if_false]
  omega

theorem Phrase.read_anchored {source : List Char} {whole : Phrase}
    (h : Phrase.read (Pattern.anchored source) = .ok whole) :
    Phrase.read source = .error .unopenedGroup ∨
      ∃ body, Phrase.read source = .ok body ∧ whole = body.anchored := by
  obtain ⟨hread, hheight⟩ := read_eq_ok_iff.mp h
  rw [readFrom_anchored] at hread
  obtain hbad | ⟨body, hbody, hwhole⟩ := readFrom_inside hread
  · exact .inl (by rw [read, hbad])
  · have hshape : whole = body.anchored := hwhole
    have hlow : body.height ≤ maxHeight :=
      Nat.le_trans body.height_le_anchored (hshape ▸ hheight)
    exact .inr ⟨body, read_eq_ok_iff.mpr ⟨hbody, hlow⟩, hshape⟩

theorem Phrase.meaningOfRow_cons (f : Flags) (p : Phrase) (ps : List Phrase) :
    meaningOfRow f (p :: ps) = (p.meaning f).bind fun r =>
      (meaningOfRow r.2 ps).map fun q => (.seq r.1 q.1, q.2) := by
  rw [meaningOfRow]
  cases p.meaning f with
  | error e => rfl
  | ok r =>
    change (meaningOfRow r.2 ps >>= fun q => pure (Expr.seq r.1 q.1, q.2)) =
      (meaningOfRow r.2 ps).map fun q => (Expr.seq r.1 q.1, q.2)
    cases meaningOfRow r.2 ps <;> rfl

/-- The flags of a body end with its group, so the anchors around it are those of the text. -/
theorem Phrase.meaning_anchored (body : Phrase) :
    body.anchored.meaning {} = (body.meaning {}).map fun r => (r.1.whole, {}) := by
  have hgroup : (group (.plain {}) body).meaning {} = (body.meaning {}).map fun r => (r.1, {}) := by
    rw [meaning_group]
    rfl
  rw [anchored, meaning]
  simp only [meaningOfRow_cons]
  have hstart : (atom (.anchor .lineStart)).meaning {} = .ok (.assertion .textStart, {}) := rfl
  rw [hstart]
  dsimp only [Except.bind]
  rw [hgroup]
  cases body.meaning {} <;> rfl

theorem parse_of_read {text : List Char} {phrase : Phrase} (h : Phrase.read text = .ok phrase) :
    parse text = (phrase.meaning {}).map Prod.fst := by
  rw [parse, h]
  simp only [bind, Except.bind, Except.map]
  cases phrase.meaning {} <;> rfl

theorem parse_anchored {source : List Char} {whole : Expr}
    (h : parse (anchored source) = .ok whole) :
    parse source = .error .unopenedGroup ∨ ∃ e, parse source = .ok e ∧ whole = e.whole := by
  obtain ⟨phrase, hread, -⟩ := bind_ok h
  obtain hbad | ⟨body, hbody, rfl⟩ := Phrase.read_anchored hread
  · exact .inl (by rw [parse, hbad]; rfl)
  · rw [parse_of_read hread, Phrase.meaning_anchored] at h
    obtain ⟨_, hanchored, rfl⟩ := map_ok h
    obtain ⟨own, hown, rfl⟩ := map_ok hanchored
    exact .inr ⟨own.1, by rw [parse_of_read hbody, hown]; rfl, rfl⟩

theorem Expr.size_le_whole (e : Expr) : e.size ≤ e.whole.size := by
  simp only [whole, size]
  omega

/-- **What compiles is a pattern by itself, or closes a group that it has not opened.** -/
theorem compile_eq_ok {source : String} {p : Pattern} (h : compile source = .ok p) :
    parse source.toList = .error .unopenedGroup ∨
      ∃ e, parse source.toList = .ok e ∧ e.size ≤ maxSize ∧ p = ⟨source, e.whole⟩ := by
  unfold compile at h
  split at h
  · cases h
  · rename_i whole hparse
    split at h
    · rename_i hsize
      cases h
      obtain hbad | ⟨e, he, rfl⟩ := parse_anchored hparse
      · exact .inl hbad
      · exact .inr ⟨e, he, Nat.le_trans e.size_le_whole hsize, rfl⟩
    · cases h

/-- A source that does not compile ends the compilation of its schema. -/
theorem compileKeywords_of_error {source : String} {cause : PatternError}
    (h : compile source = .error cause) (follow : Follow) (at' : Location)
    (rest : List (String × Document)) (s : Schema) :
    Schema.compileKeywords follow at' (("pattern", .string source) :: rest) s =
      .error (.invalidPattern at' source cause) := by
  have hread : Schema.readPattern at' (.string source) =
      .error (.invalidPattern at' source cause) := by
    simp only [Schema.readPattern, h]
  have hcheck : Schema.readCheck at' "pattern" (.string source) s.checks =
      .error (.invalidPattern at' source cause) := by
    rw [Schema.readCheck, hread]
    rfl
  rw [Schema.compileKeywords, Schema.addKeyword, if_neg (by decide), if_neg (by decide),
    if_neg (by decide), hcheck]
  rfl

/-- **What a source compiles to.**  It is the pattern that the source is by itself, between the
anchors of the text, or the source closes a group that it has not opened.  Otherwise a schema with
this source under `pattern` does not compile either. -/
theorem compile_outcomes (source : String) :
    (∃ e, parse source.toList = .ok e ∧ e.size ≤ maxSize ∧
        compile source = .ok ⟨source, e.whole⟩) ∨
      (parse source.toList = .error .unopenedGroup ∧ ∃ p, compile source = .ok p) ∨
      ∃ cause, compile source = .error cause ∧ ∀ follow at' rest s,
        Schema.compileKeywords follow at' (("pattern", .string source) :: rest) s =
          .error (.invalidPattern at' source cause) := by
  cases hc : compile source with
  | ok p =>
    obtain hbad | ⟨e, he, hsize, rfl⟩ := compile_eq_ok hc
    · exact .inr (.inl ⟨hbad, p, rfl⟩)
    · exact .inl ⟨e, he, hsize, rfl⟩
  | error cause =>
    exact .inr (.inr ⟨cause, rfl, fun follow at' rest s =>
      compileKeywords_of_error hc follow at' rest s⟩)

/-- The choice between two halves of a source that each end in the other's group. -/
theorem unopened_compiles :
    parse "a)|(b".toList = .error .unopenedGroup ∧
      ∃ p, compile "a)|(b" = .ok p ∧ p.isMatch "ax" = true ∧ p.isMatch "xb" = true := by
  have hread : readFrom {} "a)|(b".toList = .error .unopenedGroup := by
    have hfirst : readFrom {} "a)|(b".toList =
        readFrom (({} : Progress).push (.atom (.literal ⟨'a', false⟩))) ")|(b".toList := by
      rw [readFrom_cons rfl]
      rfl
    rw [hfirst, readFrom_cons rfl]
    rfl
  have hcompile : ((compile "a)|(b").toOption.map fun p => (p.isMatch "ax", p.isMatch "xb")) =
      some (true, true) := by decide +kernel
  obtain ⟨p, hp, hmatch⟩ := exists_ok_of_map hcompile
  exact ⟨by rw [parse, Phrase.read, hread]; rfl, p, hp, Prod.mk.inj hmatch⟩

end ManifestCheck.Pattern
