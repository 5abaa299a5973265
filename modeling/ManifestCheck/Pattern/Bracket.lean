import ManifestCheck.Pattern.Escape

/-!
# Brackets in patterns

A pair of brackets holds characters, ranges, classes and further brackets, in rows that may be
combined by `&&`, `--` and `~~`, all of one rank and from left to right. Brackets that are open are
kept on a stack, innermost first.
-/

namespace ManifestCheck.Pattern

/-- The classes of ASCII characters that have names of their own. -/
def asciiClasses : List (String × CharSet) := [
  ("alnum", ⟨[(48, 57), (65, 90), (97, 122)]⟩),
  ("alpha", ⟨[(65, 90), (97, 122)]⟩),
  ("ascii", ⟨[(0, 127)]⟩),
  ("blank", ⟨[(9, 9), (32, 32)]⟩),
  ("cntrl", ⟨[(0, 31), (127, 127)]⟩),
  ("digit", ⟨[(48, 57)]⟩),
  ("graph", ⟨[(33, 126)]⟩),
  ("lower", ⟨[(97, 122)]⟩),
  ("print", ⟨[(32, 126)]⟩),
  ("punct", ⟨[(33, 47), (58, 64), (91, 96), (123, 126)]⟩),
  ("space", ⟨[(9, 13), (32, 32)]⟩),
  ("upper", ⟨[(65, 90)]⟩),
  ("word", ⟨[(48, 57), (65, 90), (95, 95), (97, 122)]⟩),
  ("xdigit", ⟨[(48, 57), (65, 70), (97, 102)]⟩)]

/-- The name of a class up to the colon and the bracket that close it. -/
def readClassName? : List Char → Option (List Char × List Char)
  | [] => none
  | ':' :: ']' :: rest => some ([], rest)
  | ':' :: _ => none
  | c :: rest => (readClassName? rest).map fun r => (c :: r.1, r.2)

theorem readClassName?_length_le {cs name rest : List Char}
    (h : readClassName? cs = some (name, rest)) : rest.length ≤ cs.length := by
  fun_induction readClassName? cs generalizing name <;> grind [Option.map_eq_some_iff]

/-- A named class behind its opening bracket. -/
def readAsciiClass? (cs : List Char) : Option (SetPhrase × List Char) :=
  match cs with
  | ':' :: more =>
    let (negated, more) := match more with
      | '^' :: rest => (true, rest)
      | rest => (false, rest)
    match readClassName? more with
    | none => none
    | some (name, behind) =>
      (asciiClasses.lookup (String.ofList name)).map fun s => (.ascii s negated, behind)
  | _ => none

theorem readAsciiClass?_length_le {cs rest : List Char} {p : SetPhrase}
    (h : readAsciiClass? cs = some (p, rest)) : rest.length ≤ cs.length := by
  revert h
  fun_cases readAsciiClass? cs <;> intro h <;>
    grind [Option.map_eq_some_iff, → readClassName?_length_le]

/-- A character or an escape. -/
def readMember (verbose : Bool) (c : Char) (rest : List Char) : Read Atom :=
  if c = '\\' then readEscape verbose rest else .ok (.literal ⟨c, false⟩, rest)

theorem readMember_length_le {verbose : Bool} {c : Char} {cs rest : List Char} {a : Atom}
    (h : readMember verbose c cs = .ok (a, rest)) : rest.length ≤ cs.length := by
  revert h
  fun_cases readMember verbose c cs <;> intro h <;> grind [→ readEscape_length_le]

/-- An atom as a member of a set; assertions have no place there. -/
def Atom.asMember : Atom → Except PatternError SetPhrase
  | literal l => .ok (.range l l)
  | letterClass kind negated => .ok (.letterClass kind negated)
  | property name value negated => .ok (.property name value negated)
  | _ => .error .notInBracket

/-- The ends of a range must be characters in ascending order. -/
def Atom.to (first last : Atom) : Except PatternError SetPhrase :=
  match first, last with
  | literal a, literal b => if a.char ≤ b.char then .ok (.range a b) else .error .badRange
  | _, _ => .error .notInBracket

/-- The character behind blanks and at most one number sign in verbose mode, else the next one. It
decides whether a hyphen makes a range. -/
def peek? (verbose : Bool) (cs : List Char) : Option Char :=
  if verbose then
    match cs.dropWhile Text.isBlank with
    | '#' :: rest => (rest.dropWhile Text.isBlank).head?.or cs.head?
    | rest => rest.head?.or cs.head?
  else cs.head?

/-- A member of a set or a range of characters. A hyphen in front of a closing bracket or of
another hyphen makes no range. -/
def readRange (verbose : Bool) (c : Char) (cs : List Char) : Read SetPhrase :=
  match readMember verbose c cs with
  | .error e => .error e
  | .ok (first, behind) =>
    match skip verbose behind with
    | [] => .error .unclosedBracket
    | d :: more =>
      if d ≠ '-' || peek? verbose more = some ']' || peek? verbose more = some '-' then
        first.asMember.map fun p => (p, behind)
      else
        match skip verbose more with
        | [] => .error .unclosedBracket
        | e :: more =>
          match readMember verbose e more with
          | .error e => .error e
          | .ok (last, behind) => (first.to last).map fun p => (p, behind)

theorem readRange_length_le {verbose : Bool} {c : Char} {cs rest : List Char} {p : SetPhrase}
    (h : readRange verbose c cs = .ok (p, rest)) : rest.length ≤ cs.length := by
  revert h
  fun_cases readRange verbose c cs <;> intro h <;>
    grind [Except.map.eq_def, skip_length_le, → readMember_length_le]

/-- Hyphens that stand first in brackets are characters. -/
def readHyphens (verbose : Bool) (cs : List Char) : List SetPhrase × List Char :=
  match _h : skip verbose cs with
  | [] => ([], [])
  | c :: rest =>
    if c = '-' then
      let r := readHyphens verbose rest
      (.range ⟨'-', false⟩ ⟨'-', false⟩ :: r.1, r.2)
    else ([], c :: rest)
termination_by cs.length
decreasing_by
  have := skip_length_le verbose cs
  rw [_h, List.length_cons] at this
  omega

theorem readHyphens_length_le (verbose : Bool) (cs : List Char) :
    (readHyphens verbose cs).2.length ≤ cs.length := by
  fun_induction readHyphens verbose cs <;> grind [skip_length_le]

/-- What stands first in brackets: a sign of negation, hyphens, and a closing bracket if there are
no hyphens; it closes nothing there. -/
def readBracketHead (verbose : Bool) (cs : List Char) : Bool × List SetPhrase × List Char :=
  let (negated, more) := match skip verbose cs with
    | '^' :: rest => (true, rest)
    | rest => (false, rest)
  match readHyphens verbose more with
  | ([], ']' :: rest) => (negated, [.range ⟨']', false⟩ ⟨']', false⟩], rest)
  | (items, rest) => (negated, items, rest)

theorem readBracketHead_length_le (verbose : Bool) (cs : List Char) :
    (readBracketHead verbose cs).2.2.length ≤ cs.length := by
  have := skip_length_le verbose cs
  fun_cases readBracketHead verbose cs <;> grind [readHyphens_length_le]

/-- An open pair of brackets: what the operations so far have made, and the row that has been read
since, last item first. -/
structure OpenBracket where
  negated : Bool
  pending : Option (SetOperation × SetPhrase) := none
  items : List SetPhrase

namespace OpenBracket

/-- What has been read so far. -/
def contents (b : OpenBracket) : SetPhrase :=
  match b.pending with
  | none => .ofItems b.items.reverse
  | some (operation, left) => .combine operation left (.ofItems b.items.reverse)

/-- The bracket with one more item. -/
def push (b : OpenBracket) (p : SetPhrase) : OpenBracket := { b with items := p :: b.items }

/-- The bracket behind an operation. -/
def operate (b : OpenBracket) (operation : SetOperation) : OpenBracket :=
  { b with pending := some (operation, b.contents), items := [] }

end OpenBracket

/-- The operation whose sign comes next. -/
def operation? (c : Char) (rest : List Char) : Option SetOperation :=
  if rest.head? ≠ some c then none
  else if c = '&' then some .intersection
  else if c = '-' then some .difference
  else if c = '~' then some .symmetricDifference
  else none

/-- Reads on until the outermost of the open brackets is closed. -/
def readInside (verbose : Bool) (innermost : OpenBracket) (outer : List OpenBracket)
    (cs : List Char) : Read (Bool × SetPhrase) :=
  match _hs : skip verbose cs with
  | [] => .error .unclosedBracket
  | c :: rest =>
    if c = ']' then
      match outer with
      | [] => .ok ((innermost.negated, innermost.contents), rest)
      | next :: others =>
        readInside verbose (next.push (.bracket innermost.negated innermost.contents)) others rest
    else if c = '[' then
      match _ha : readAsciiClass? rest with
      | some (p, behind) => readInside verbose (innermost.push p) outer behind
      | none =>
        match _hh : readBracketHead verbose rest with
        | (negated, items, behind) =>
          readInside verbose { negated, items } (innermost :: outer) behind
    else match operation? c rest with
      | some operation => readInside verbose (innermost.operate operation) outer (rest.drop 1)
      | none =>
        match _hr : readRange verbose c rest with
        | .error e => .error e
        | .ok (p, behind) => readInside verbose (innermost.push p) outer behind
termination_by cs.length
decreasing_by
  all_goals
    have h₁ := skip_length_le verbose cs
    rw [_hs] at h₁
    simp only [List.length_cons] at h₁
  · omega
  · have := readAsciiClass?_length_le _ha
    omega
  · have := readBracketHead_length_le verbose rest
    rw [_hh] at this
    simp only at this
    omega
  · have : (rest.drop 1).length ≤ rest.length := by simp
    omega
  · have := readRange_length_le _hr
    omega

theorem readInside_length_le {verbose : Bool} {innermost : OpenBracket} {outer : List OpenBracket}
    {cs rest : List Char} {r : Bool × SetPhrase}
    (h : readInside verbose innermost outer cs = .ok (r, rest)) : rest.length ≤ cs.length := by
  fun_induction readInside verbose innermost outer cs <;>
    grind [skip_length_le, → readAsciiClass?_length_le, readBracketHead_length_le,
      → readRange_length_le]

/-- What stands behind an opening bracket, up to the bracket that closes it. -/
def readBracket (verbose : Bool) (cs : List Char) : Read (Bool × SetPhrase) :=
  let (negated, items, behind) := readBracketHead verbose cs
  readInside verbose { negated, items } [] behind

theorem readBracket_length_le {verbose : Bool} {cs rest : List Char} {r : Bool × SetPhrase}
    (h : readBracket verbose cs = .ok (r, rest)) : rest.length ≤ cs.length := by
  have := readBracketHead_length_le verbose cs
  revert h
  fun_cases readBracket verbose cs
  intro h
  grind [→ readInside_length_le]

end ManifestCheck.Pattern
