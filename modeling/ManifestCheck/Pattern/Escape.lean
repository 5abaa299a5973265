import ManifestCheck.Pattern.Phrase
import ManifestCheck.Text.Blank
import ManifestCheck.Unicode.Property

/-!
# Escapes in patterns

What a backslash makes of the characters behind it. In verbose mode blanks count for nothing, nor
does a number sign and the rest of its line; `skip` passes over both. Every reader takes the
characters to come and returns what it has read and the characters behind it, which are never more.
-/

namespace ManifestCheck.Pattern

/-- Passes over blanks and remarks; `inRemark` tells whether a remark is being passed over. -/
def skipFrom (inRemark : Bool) : List Char → List Char
  | [] => []
  | c :: cs =>
    if inRemark then skipFrom (c ≠ '\n') cs
    else if Text.isBlank c then skipFrom false cs
    else if c = '#' then skipFrom true cs
    else c :: cs

/-- The characters behind blanks and remarks, which stand for themselves unless in verbose mode. -/
def skip (verbose : Bool) (cs : List Char) : List Char :=
  if verbose then skipFrom false cs else cs

theorem skipFrom_length_le (inRemark : Bool) (cs : List Char) :
    (skipFrom inRemark cs).length ≤ cs.length := by
  fun_induction skipFrom inRemark cs <;> simp_all <;> omega

theorem skip_length_le (verbose : Bool) (cs : List Char) :
    (skip verbose cs).length ≤ cs.length := by
  unfold skip
  split
  · exact skipFrom_length_le _ _
  · exact Nat.le_refl _

/-- What a reader returns: a value and the characters behind it. -/
abbrev Read (α : Type) := Except PatternError (α × List Char)

/-- The characters up to the closing brace, without blanks and remarks in verbose mode; none if
there is no such brace. -/
def readBraced? (verbose inRemark : Bool) : List Char → Option (List Char × List Char)
  | [] => none
  | c :: cs =>
    if inRemark then readBraced? verbose (c ≠ '\n') cs
    else if verbose && Text.isBlank c then readBraced? verbose false cs
    else if verbose && c = '#' then readBraced? verbose true cs
    else if c = '\x7d' then some ([], cs)
    else (readBraced? verbose false cs).map fun r => (c :: r.1, r.2)

theorem readBraced?_length_le {verbose inRemark : Bool} {cs taken rest : List Char}
    (h : readBraced? verbose inRemark cs = some (taken, rest)) : rest.length ≤ cs.length := by
  fun_induction readBraced? verbose inRemark cs generalizing taken <;>
    grind [Option.map_eq_some_iff]

/-- So many hexadecimal digits, and the number that they continue. -/
def readHexDigits (verbose : Bool) : Nat → Nat → List Char → Read Nat
  | 0, value, cs => .ok (value, cs)
  | n + 1, value, cs =>
    match skip verbose cs with
    | [] => .error .endsInEscape
    | c :: rest =>
      match Digits.hexValue? c with
      | none => .error .badCharacterCode
      | some d => readHexDigits verbose n (16 * value + d) rest

theorem readHexDigits_length_le {verbose : Bool} {n value : Nat} {cs rest : List Char} {code : Nat}
    (h : readHexDigits verbose n value cs = .ok (code, rest)) : rest.length ≤ cs.length := by
  fun_induction readHexDigits verbose n value cs <;> grind [skip_length_le]

/-- How many digits follow the letter of a character code that has no braces. -/
def codeWidth (letter : Char) : Nat := if letter = 'x' then 2 else if letter = 'u' then 4 else 8

/-- A character code behind its letter. -/
def readCode (verbose : Bool) (letter : Char) (cs : List Char) : Read Literal :=
  match skip verbose cs with
  | [] => .error .endsInEscape
  | '\x7b' :: rest =>
    match readBraced? verbose false rest with
    | none => .error .endsInEscape
    | some (digits, behind) =>
      if digits.isEmpty || !digits.all fun c => (Digits.hexValue? c).isSome then
        .error .badCharacterCode
      else match Digits.charOfCode? (Digits.hexNumber digits) with
        | none => .error .badCharacterCode
        | some c => .ok (⟨c, false⟩, behind)
  | rest =>
    match readHexDigits verbose (codeWidth letter) 0 rest with
    | .error e => .error e
    | .ok (code, behind) =>
      match Digits.charOfCode? code with
      | none => .error .badCharacterCode
      | some c => .ok (⟨c, letter = 'x'⟩, behind)

theorem readCode_length_le {verbose : Bool} {letter : Char} {cs rest : List Char} {l : Literal}
    (h : readCode verbose letter cs = .ok (l, rest)) : rest.length ≤ cs.length := by
  have := skip_length_le verbose cs
  revert h
  fun_cases readCode verbose letter cs <;> intro h <;>
    grind [→ readBraced?_length_le, → readHexDigits_length_le]

/-- A property name cut at the sign in front of its value: the first `!=`, else the first colon,
else the first equals sign. -/
def splitProperty (text : List Char) : List Char × Option (List Char) :=
  let rec atUnequal : List Char → Option (List Char × List Char)
    | '!' :: '=' :: rest => some ([], rest)
    | c :: rest => (atUnequal rest).map fun r => (c :: r.1, r.2)
    | [] => none
  let cutAt (sign : Char) : Option (List Char × List Char) :=
    match text.dropWhile (· ≠ sign) with
    | [] => none
    | _ :: value => some (text.takeWhile (· ≠ sign), value)
  match ((atUnequal text).or (cutAt ':')).or (cutAt '=') with
  | some (name, value) => (name, some value)
  | none => (text, none)

/-- A property behind its letter: a letter or a text in braces. -/
def readProperty (verbose negated : Bool) (cs : List Char) : Read Atom :=
  match skip verbose cs with
  | [] => .error .endsInEscape
  | '\x7b' :: rest =>
    match readBraced? verbose false rest with
    | none => .error .endsInEscape
    | some (text, behind) =>
      let (name, value) := splitProperty text
      .ok (.property name value negated, behind)
  | '\\' :: _ => .error .unknownProperty
  | c :: rest => .ok (.property [c] none negated, rest)

theorem readProperty_length_le {verbose negated : Bool} {cs rest : List Char} {a : Atom}
    (h : readProperty verbose negated cs = .ok (a, rest)) : rest.length ≤ cs.length := by
  have := skip_length_le verbose cs
  revert h
  fun_cases readProperty verbose negated cs <;> intro h <;> grind [→ readBraced?_length_le]

/-- The characters that name a kind of word boundary. -/
def isBoundaryLetter (c : Char) : Bool := c.isAlpha || c = '-'

def boundary? (name : String) : Option Anchor :=
  if name = "start" then some .wordStart
  else if name = "end" then some .wordEnd
  else if name = "start-half" then some .wordStartHalf
  else if name = "end-half" then some .wordEndHalf
  else none

/-- A word boundary behind its letter. A brace that no name follows belongs to a repetition. -/
def readBoundary (verbose : Bool) (cs : List Char) : Read Atom :=
  match cs with
  | '\x7b' :: rest =>
    match skip verbose rest with
    | [] => .error .endsInEscape
    | c :: _ =>
      if isBoundaryLetter c then
        match readBraced? verbose false rest with
        | none => .error .unknownBoundary
        | some (name, behind) =>
          match boundary? (String.ofList name) with
          | none => .error .unknownBoundary
          | some a => .ok (.anchor a, behind)
      else .ok (.anchor .wordBoundary, cs)
  | _ => .ok (.anchor .wordBoundary, cs)

theorem readBoundary_length_le {verbose : Bool} {cs rest : List Char} {a : Atom}
    (h : readBoundary verbose cs = .ok (a, rest)) : rest.length ≤ cs.length := by
  unfold readBoundary at h
  split at h
  · split at h
    · cases h
    · split at h
      · split at h
        · cases h
        · rename_i hread
          split at h
          · cases h
          · cases h
            exact Nat.le_succ_of_le (readBraced?_length_le hread)
      · cases h
        exact Nat.le_refl _
  · cases h
    exact Nat.le_refl _

/-- What a single escaped character stands for. -/
def escaped? (c : Char) : Option Atom :=
  match c with
  | 'd' => some (.letterClass .digit false)
  | 's' => some (.letterClass .space false)
  | 'w' => some (.letterClass .word false)
  | 'D' => some (.letterClass .digit true)
  | 'S' => some (.letterClass .space true)
  | 'W' => some (.letterClass .word true)
  | 'a' => some (.literal ⟨'\x07', false⟩)
  | 'f' => some (.literal ⟨'\x0c', false⟩)
  | 't' => some (.literal ⟨'\t', false⟩)
  | 'n' => some (.literal ⟨'\n', false⟩)
  | 'r' => some (.literal ⟨'\r', false⟩)
  | 'v' => some (.literal ⟨'\x0b', false⟩)
  | 'A' => some (.anchor .textStart)
  | 'z' => some (.anchor .textEnd)
  | 'B' => some (.anchor .notWordBoundary)
  | '<' => some (.anchor .wordStart)
  | '>' => some (.anchor .wordEnd)
  | c => if c.toNat < 128 && !c.isAlphanum then some (.literal ⟨c, false⟩) else none

/-- An escape behind its backslash. -/
def readEscape (verbose : Bool) : List Char → Read Atom
  | [] => .error .endsInEscape
  | c :: rest =>
    if c = 'x' || c = 'u' || c = 'U' then
      (readCode verbose c rest).map fun r => (.literal r.1, r.2)
    else if c = 'p' || c = 'P' then readProperty verbose (c = 'P') rest
    else if c = 'b' then readBoundary verbose rest
    else match escaped? c with
      | some a => .ok (a, rest)
      | none => .error (.unknownEscape c)

theorem readEscape_length_le {verbose : Bool} {cs rest : List Char} {a : Atom}
    (h : readEscape verbose cs = .ok (a, rest)) : rest.length ≤ cs.length := by
  cases cs with
  | nil => cases h
  | cons c behind =>
    rw [readEscape] at h
    split at h
    · cases hcode : readCode verbose c behind with
      | error e =>
        rw [hcode] at h
        cases h
      | ok r =>
        rw [hcode] at h
        cases h
        exact Nat.le_succ_of_le (readCode_length_le hcode)
    split at h
    · exact Nat.le_succ_of_le (readProperty_length_le h)
    split at h
    · exact Nat.le_succ_of_le (readBoundary_length_le h)
    split at h
    · cases h
      exact Nat.le_succ _
    · cases h

end ManifestCheck.Pattern
