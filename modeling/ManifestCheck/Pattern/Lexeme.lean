import ManifestCheck.Pattern.Bracket
import ManifestCheck.Text.Digits

/-!
# Lexemes of patterns

The smallest parts of which a pattern is composed: what opens, closes and divides groups, flag
directives, repetitions, and whatever takes the place of one character. A pair of brackets and all
that stands inside it is one lexeme.
-/

namespace ManifestCheck.Pattern

/-! ## Repetitions -/

/-- Blanks, and remarks in verbose mode. -/
def pad (verbose : Bool) (cs : List Char) : List Char :=
  if verbose then skipFrom false cs else cs.dropWhile Text.isBlank

theorem pad_length_le (verbose : Bool) (cs : List Char) : (pad verbose cs).length ≤ cs.length := by
  unfold pad
  split
  · exact skipFrom_length_le _ _
  · exact (List.dropWhile_sublist _).length_le

/-- A row of digits, with anything that counts for nothing between them. -/
def readDigits (verbose : Bool) (cs : List Char) : List Char × List Char :=
  match cs with
  | [] => ([], [])
  | c :: rest =>
    if c.isDigit then
      let r := readDigits verbose (skip verbose rest)
      (c :: r.1, r.2)
    else ([], c :: rest)
termination_by cs.length
decreasing_by
  have := skip_length_le verbose rest
  simp only [List.length_cons]
  omega

theorem readDigits_length_le (verbose : Bool) (cs : List Char) :
    (readDigits verbose cs).2.length ≤ cs.length := by
  fun_induction readDigits verbose cs <;> grind [skip_length_le]

/-- The number of a repetition, below `2 ^ 32`. -/
def readNumber (verbose : Bool) (cs : List Char) : Read Nat :=
  let (digits, behind) := readDigits verbose (pad verbose cs)
  if digits.isEmpty || Nat.pow 2 32 ≤ Digits.value digits then .error .badRepetition
  else .ok (Digits.value digits, pad verbose behind)

theorem readNumber_length_le {verbose : Bool} {cs rest : List Char} {n : Nat}
    (h : readNumber verbose cs = .ok (n, rest)) : rest.length ≤ cs.length := by
  have := readDigits_length_le verbose (pad verbose cs)
  have := pad_length_le verbose cs
  revert h
  fun_cases readNumber verbose cs <;> intro h <;> grind [pad_length_le]

/-- A mark that a repetition is to be as short as possible makes no difference to what matches. -/
def dropLazyMark : List Char → List Char
  | '?' :: rest => rest
  | cs => cs

theorem dropLazyMark_length_le (cs : List Char) : (dropLazyMark cs).length ≤ cs.length := by
  fun_cases dropLazyMark cs <;> grind

/-- The bounds of a repetition up to its closing brace. -/
def readBounds (verbose : Bool) (cs : List Char) : Read (Nat × Option Nat) :=
  match readNumber verbose (skip verbose cs) with
  | .error e => .error e
  | .ok (least, '\x7d' :: behind) => .ok ((least, some least), behind)
  | .ok (least, ',' :: more) =>
    match skip verbose more with
    | '\x7d' :: behind => .ok ((least, none), behind)
    | more =>
      match readNumber verbose more with
      | .error e => .error e
      | .ok (most, '\x7d' :: behind) =>
        if least ≤ most then .ok ((least, some most), behind) else .error .badRepetition
      | .ok _ => .error .badRepetition
  | .ok _ => .error .badRepetition

theorem readBounds_length_le {verbose : Bool} {cs rest : List Char} {b : Nat × Option Nat}
    (h : readBounds verbose cs = .ok (b, rest)) : rest.length ≤ cs.length := by
  have := skip_length_le verbose cs
  revert h
  fun_cases readBounds verbose cs <;> intro h <;> grind [skip_length_le, → readNumber_length_le]

/-- A mark may follow the closing brace, behind anything that counts for nothing. -/
def dropLazyMarkBehind (verbose : Bool) (cs : List Char) : List Char :=
  match skip verbose cs with
  | '?' :: rest => rest
  | _ => cs

theorem dropLazyMarkBehind_length_le (verbose : Bool) (cs : List Char) :
    (dropLazyMarkBehind verbose cs).length ≤ cs.length := by
  have := skip_length_le verbose cs
  fun_cases dropLazyMarkBehind verbose cs <;> grind

/-! ## Groups -/

/-- Flags up to a colon, which opens a group, or a parenthesis, which ends a directive: then the
answer is `true`. -/
def readFlags (change : FlagChange) (negated dangling : Bool) : List Char → Read (FlagChange × Bool)
  | [] => .error .badFlags
  | c :: rest =>
    if c = ':' || c = ')' then
      if dangling then .error .badFlags else .ok ((change, c = ')'), rest)
    else if c = '-' then
      if negated then .error .badFlags else readFlags change true true rest
    else match Flag.ofLetter? c with
      | none => .error .badFlags
      | some f =>
        if change.on.contains f || change.off.contains f then .error .badFlags
        else if negated then
          readFlags { change with off := change.off ++ [f] } true false rest
        else readFlags { change with on := change.on ++ [f] } false false rest

theorem readFlags_length_le {change : FlagChange} {negated dangling : Bool} {cs rest : List Char}
    {a : FlagChange × Bool} (h : readFlags change negated dangling cs = .ok (a, rest)) :
    rest.length ≤ cs.length := by
  fun_induction readFlags change negated dangling cs <;> grind

/-- Whether a character can stand in the name of a group. -/
def isNameChar (first : Bool) (c : Char) : Bool :=
  if first then c = '_' || Unicode.alphabetic.contains c
  else c = '_' || c = '.' || c = '[' || c = ']' || Unicode.alphanumeric.contains c

/-- The name of a group up to its closing angle. -/
def readName (first : Bool) : List Char → Read (List Char)
  | [] => .error .badGroupName
  | c :: rest =>
    if c = '>' then
      if first then .error .badGroupName else .ok ([], rest)
    else if isNameChar first c then
      match readName false rest with
      | .error e => .error e
      | .ok (name, behind) => .ok (c :: name, behind)
    else .error .badGroupName

theorem readName_length_le {first : Bool} {cs name rest : List Char}
    (h : readName first cs = .ok (name, rest)) : rest.length ≤ cs.length := by
  fun_induction readName first cs generalizing name <;> grind

/-- The smallest parts of a pattern. -/
inductive Lexeme where
  | opening (kind : GroupKind)
  | closing
  | bar
  | bracket (negated : Bool) (body : SetPhrase)
  | directive (change : FlagChange)
  | repetition (least : Nat) (most : Option Nat)
  | atom (atom : Atom)

/-- What a parenthesis opens: a group or a directive. -/
def readOpening (verbose : Bool) (cs : List Char) : Read Lexeme :=
  let named (rest : List Char) : Read Lexeme :=
    (readName true rest).map fun r => (.opening (.capture (some (String.ofList r.1))), r.2)
  match skip verbose cs with
  | '?' :: '=' :: _ => .error .lookaround
  | '?' :: '!' :: _ => .error .lookaround
  | '?' :: '<' :: '=' :: _ => .error .lookaround
  | '?' :: '<' :: '!' :: _ => .error .lookaround
  | '?' :: 'P' :: '<' :: rest => named rest
  | '?' :: '<' :: rest => named rest
  | '?' :: rest =>
    match readFlags {} false false rest with
    | .error e => .error e
    | .ok ((change, false), behind) => .ok (.opening (.plain change), behind)
    | .ok ((change, true), behind) =>
      if change = {} then .error .badFlags else .ok (.directive change, behind)
  | rest => .ok (.opening (.capture none), rest)

theorem readOpening_length_le {verbose : Bool} {cs rest : List Char} {l : Lexeme}
    (h : readOpening verbose cs = .ok (l, rest)) : rest.length ≤ cs.length := by
  have := skip_length_le verbose cs
  revert h
  fun_cases readOpening verbose cs <;> intro h <;>
    grind [Except.map.eq_def, → readName_length_le, → readFlags_length_le]

/-- The lexeme that starts with a character. -/
def readLexeme (verbose : Bool) (c : Char) (rest : List Char) : Read Lexeme :=
  match c with
  | '(' => readOpening verbose rest
  | ')' => .ok (.closing, rest)
  | '|' => .ok (.bar, rest)
  | '[' => (readBracket verbose rest).map fun r => (.bracket r.1.1 r.1.2, r.2)
  | '?' => .ok (.repetition 0 (some 1), dropLazyMark rest)
  | '*' => .ok (.repetition 0 none, dropLazyMark rest)
  | '+' => .ok (.repetition 1 none, dropLazyMark rest)
  | '\x7b' =>
    (readBounds verbose rest).map fun r =>
      (.repetition r.1.1 r.1.2, dropLazyMarkBehind verbose r.2)
  | '\\' => (readEscape verbose rest).map fun r => (.atom r.1, r.2)
  | '.' => .ok (.atom .dot, rest)
  | '^' => .ok (.atom (.anchor .lineStart), rest)
  | '$' => .ok (.atom (.anchor .lineEnd), rest)
  | c => .ok (.atom (.literal ⟨c, false⟩), rest)

theorem readLexeme_length_le {verbose : Bool} {c : Char} {cs rest : List Char} {l : Lexeme}
    (h : readLexeme verbose c cs = .ok (l, rest)) : rest.length ≤ cs.length := by
  revert h
  fun_cases readLexeme verbose c cs <;> intro h <;>
    grind [Except.map.eq_def, → readBracket_length_le, → readOpening_length_le,
      dropLazyMark_length_le,
      dropLazyMarkBehind_length_le, → readBounds_length_le, → readEscape_length_le]

end ManifestCheck.Pattern
