import ManifestCheck.Text.Digits
import ManifestCheck.Yaml.Cell

/-!
# Scalars

The five ways to write a single value: plain, between single or double quotation marks, and as a
block of lines kept or folded. Folding turns a line break into a blank, and further line breaks
behind it into themselves.
-/

namespace ManifestCheck.Yaml

/-- How a single value is written. -/
inductive Style where
  | plain
  | quoted
  /-- A block whose lines are kept. -/
  | kept
  /-- A block whose lines are folded. -/
  | folded
  deriving DecidableEq, Repr

/-- A single value: its text, how it is written, and its tag. -/
structure Scalar where
  text : String
  style : Style := .plain
  tag : Option String := none
  deriving DecidableEq, Repr

/-- Blanks and line breaks that have been passed since the last other character. -/
structure Pause where
  blanks : List Char := []
  isBroken : Bool := false
  lead : Option Char := none
  trail : List Char := []

namespace Pause

/-- The pause with one more blank or line break. -/
def add (p : Pause) (c : Char) : Pause :=
  if isBreak c then
    if p.isBroken then { p with trail := p.trail ++ [c] }
    else { isBroken := true, lead := some c }
  else if p.isBroken then p
  else { p with blanks := p.blanks ++ [c] }

/-- What the pause leaves in the text. -/
def fold (p : Pause) : List Char :=
  if !p.isBroken then p.blanks
  else match p.lead with
    | none => p.trail
    | some c => if c ≠ '\n' then c :: p.trail else if p.trail.isEmpty then [' '] else p.trail

def isEmpty (p : Pause) : Bool := p.blanks.isEmpty && !p.isBroken

/-- The pause behind a line break that a backslash takes away. -/
def joined : Pause := { isBroken := true }

end Pause

/-- Whether a character opens or closes a collection inside braces, or divides one. -/
def isBraceMark (c : Char) : Bool :=
  c = ',' || c = '[' || c = ']' || c = '\x7b' || c = '\x7d'

/-- Whether plain text can start here. -/
def startsPlain (inBraces : Bool) : List Cell → Bool
  | [] => false
  | c :: rest =>
    let mark := c.char = '-' || c.char = '?' || c.char = ':' || c.char = '#' || c.char = '&' ||
      c.char = '*' || c.char = '!' || c.char = '|' || c.char = '>' || c.char = '\x27' ||
      c.char = '"' || c.char = '%' || c.char = '@' || c.char = '\x60' || isBraceMark c.char
    let free := !(isBlank c.char) && !(isBreak c.char) && !mark
    let known := c.char = '-' || (!inBraces && (c.char = '?' || c.char = ':'))
    free || (known && !endsToken rest)

/-- Plain text, and what comes behind it. It ends in front of a colon that a blank follows, of a
remark, of a mark inside braces, and of a line that is not indented far enough; a text that is to
stay on one line ends with the line. -/
def readPlain (inBraces oneLine : Bool) (least : Nat) (p : Pause) :
    List Cell → Option (List Char × List Cell)
  | [] => some ([], [])
  | c :: cs =>
    if isBlank c.char || isBreak c.char then
      if oneLine && isBreak c.char then some ([], c :: cs)
      else if p.isBroken && c.char = '\t' && c.column < least then none
      else readPlain inBraces oneLine least (p.add c.char) cs
    else if p.isBroken && ((!inBraces && c.column < least) || atBoundary (c :: cs)) then
      some ([], c :: cs)
    else if c.char = '#' && !p.isEmpty then some ([], c :: cs)
    else if c.char = ':' && endsToken cs then some ([], c :: cs)
    else if inBraces && c.char = ':' &&
        (cs.head?.any fun d => d.char = '?' || isBraceMark d.char) then none
    else if inBraces && isBraceMark c.char then some ([], c :: cs)
    else match readPlain inBraces oneLine least {} cs with
      | none => none
      | some (more, behind) => some (p.fold ++ c.char :: more, behind)

theorem readPlain_length_le {inBraces oneLine : Bool} {least : Nat} {p : Pause}
    {cells behind : List Cell} {text : List Char}
    (h : readPlain inBraces oneLine least p cells = some (text, behind)) :
    behind.length ≤ cells.length := by
  fun_induction readPlain inBraces oneLine least p cells generalizing text <;> grind

/-- What a character behind a backslash stands for. -/
def escaped? (c : Char) : Option Char :=
  match c with
  | '0' => some '\x00'
  | 'a' => some '\x07'
  | 'b' => some '\x08'
  | 't' => some '\t'
  | '\t' => some '\t'
  | 'n' => some '\n'
  | 'v' => some '\x0b'
  | 'f' => some '\x0c'
  | 'r' => some '\r'
  | 'e' => some '\x1b'
  | ' ' => some ' '
  | '"' => some '"'
  | '/' => some '/'
  | '\\' => some '\\'
  | 'N' => some '\u0085'
  | '_' => some '\u00a0'
  | 'L' => some '\u2028'
  | 'P' => some '\u2029'
  | _ => none

/-- How many digits of a character code follow a letter. -/
def codeWidth? (c : Char) : Option Nat :=
  if c = 'x' then some 2 else if c = 'u' then some 4 else if c = 'U' then some 8 else none

/-- Text up to the closing single quotation mark. -/
def readSingle (p : Pause) : List Cell → Option (List Char × List Cell)
  | [] => none
  | c :: cs =>
    if isBlank c.char || isBreak c.char then readSingle (p.add c.char) cs
    else if atBoundary (c :: cs) then none
    else if c.char ≠ '\x27' then
      (readSingle {} cs).map fun r => (p.fold ++ c.char :: r.1, r.2)
    else match cs with
      | [] => some (p.fold, [])
      | d :: rest =>
        if d.char = '\x27' then (readSingle {} rest).map fun r => (p.fold ++ '\x27' :: r.1, r.2)
        else some (p.fold, d :: rest)

theorem readSingle_length_le {p : Pause} {cells behind : List Cell} {text : List Char}
    (h : readSingle p cells = some (text, behind)) : behind.length ≤ cells.length := by
  fun_induction readSingle p cells generalizing text <;> grind [Option.map_eq_some_iff]

/-- Text up to the closing double quotation mark; `digits` of a character code are still to come
behind those that make `code`. -/
def readDouble (p : Pause) (digits code : Nat) : List Cell → Option (List Char × List Cell)
  | [] => none
  | c :: cs =>
    if 0 < digits then
      match Digits.hexValue? c.char with
      | none => none
      | some v =>
        if 1 < digits then readDouble {} (digits - 1) (16 * code + v) cs
        else match Digits.charOfCode? (16 * code + v) with
          | none => none
          | some made => (readDouble {} 0 0 cs).map fun r => (made :: r.1, r.2)
    else if isBlank c.char || isBreak c.char then readDouble (p.add c.char) 0 0 cs
    else if atBoundary (c :: cs) then none
    else if c.char = '"' then some (p.fold, cs)
    else if c.char ≠ '\\' then
      (readDouble {} 0 0 cs).map fun r => (p.fold ++ c.char :: r.1, r.2)
    else match cs with
      | [] => none
      | d :: rest =>
        if isBreak d.char then
          (readDouble .joined 0 0 rest).map fun r => (p.fold ++ r.1, r.2)
        else match codeWidth? d.char with
          | some width =>
            (readDouble {} width 0 rest).map fun r => (p.fold ++ r.1, r.2)
          | none =>
            match escaped? d.char with
            | none => none
            | some made =>
              (readDouble {} 0 0 rest).map fun r => (p.fold ++ made :: r.1, r.2)

theorem readDouble_length_le {p : Pause} {digits code : Nat} {cells behind : List Cell}
    {text : List Char} (h : readDouble p digits code cells = some (text, behind)) :
    behind.length ≤ cells.length := by
  fun_induction readDouble p digits code cells generalizing text <;>
    grind [Option.map_eq_some_iff]

/-! ## Blocks -/

/-- What becomes of the line breaks at the end of a block. -/
inductive Ending where
  | one
  | none
  | all
  deriving DecidableEq, Repr

/-- The marks at the head of a block, up to the end of its line: the ending, and how far the block
is indented if it says so. -/
def readBlockHead (ending : Option Ending) (indent : Option Nat) :
    List Cell → Option (Ending × Option Nat × List Cell)
  | [] => some (ending.getD .one, indent, [])
  | c :: cs =>
    if c.char = '+' && ending.isNone then readBlockHead (some .all) indent cs
    else if c.char = '-' && ending.isNone then readBlockHead (some .none) indent cs
    else if '1' ≤ c.char && c.char ≤ '9' && indent.isNone then
      readBlockHead ending (some (Digits.digitValue c.char)) cs
    else
      match behindBlanks (c :: cs) with
      | [] => some (ending.getD .one, indent, [])
      | d :: rest =>
        if isBreak d.char then some (ending.getD .one, indent, rest)
        else if d.char = '#' then
          some (ending.getD .one, indent, (endOfLine rest).drop 1)
        else none

theorem readBlockHead_length_le {ending : Option Ending} {indent i : Option Nat}
    {cells behind : List Cell} {e : Ending}
    (h : readBlockHead ending indent cells = some (e, i, behind)) :
    behind.length ≤ cells.length := by
  fun_induction readBlockHead ending indent cells <;>
    grind [behindBlanks_length_le, endOfLine_length_le]

/-- Empty lines in front of a line of a block, or behind its last one: their line breaks, the
widest indentation met, and what comes behind the indentation. Without a bound all blanks belong to
the indentation; a tab in it is refused. -/
def readIndentation (bound : Option Nat) (widest : Nat) :
    List Cell → Option (List Char × Nat × List Cell)
  | [] => some ([], widest, [])
  | c :: cs =>
    let within := bound.all fun n => c.column < n
    if c.char = ' ' && within then readIndentation bound widest cs
    else if c.char = '\t' && within then none
    else if isBreak c.char then
      (readIndentation bound (max widest c.column) cs).map fun r => (c.char :: r.1, r.2)
    else some ([], max widest c.column, c :: cs)

theorem readIndentation_length_le {bound : Option Nat} {widest w : Nat} {cells behind : List Cell}
    {breaks : List Char} (h : readIndentation bound widest cells = some (breaks, w, behind)) :
    behind.length ≤ cells.length := by
  fun_induction readIndentation bound widest cells generalizing breaks <;>
    grind [Option.map_eq_some_iff]

/-- The line break behind a line of a block, and the empty lines behind that. -/
structure LineEnd where
  lead : List Char := []
  trail : List Char := []

/-- What stands between two lines of a block. Where lines are folded, a break between two lines that
both start without a blank becomes a blank. -/
def LineEnd.fold (e : LineEnd) (folded blankBefore blankBehind : Bool) : List Char :=
  if folded && e.lead = ['\n'] && !blankBefore && !blankBehind then
    if e.trail.isEmpty then [' '] else e.trail
  else e.lead ++ e.trail

/-- What is left of the line breaks at the end of a block. -/
def LineEnd.close (e : LineEnd) : Ending → List Char
  | .one => e.lead
  | .none => []
  | .all => e.lead ++ e.trail

/-- The lines of a block from the first one on, each indented as far as the first. -/
def readLines (folded : Bool) (ending : Ending) (indent : Nat) (e : LineEnd)
    (blankBefore : Bool) (cells : List Cell) : Option (List Char × List Cell) :=
  match cells with
  | [] => some (e.close ending, [])
  | c :: cs =>
    if c.column ≠ indent then some (e.close ending, c :: cs)
    else
      let blank := isBlank c.char
      let line := c.char :: (restOfLine cs).map Cell.char
      match _h : readIndentation (some indent) 0 ((endOfLine cs).drop 1) with
      | none => none
      | some (trail, _, behind) =>
        let e' : LineEnd := ⟨((endOfLine cs).take 1).map Cell.char, trail⟩
        match readLines folded ending indent e' blank behind with
        | none => none
        | some (more, behind) => some (e.fold folded blankBefore blank ++ line ++ more, behind)
termination_by cells.length
decreasing_by
  have h₁ := readIndentation_length_le _h
  have h₂ := endOfLine_length_le cs
  simp only [List.length_drop, List.length_cons] at *
  omega

theorem readLines_length_le {folded : Bool} {ending : Ending} {indent : Nat} {e : LineEnd}
    {blankBefore : Bool} {cells behind : List Cell} {text : List Char}
    (h : readLines folded ending indent e blankBefore cells = some (text, behind)) :
    behind.length ≤ cells.length := by
  fun_induction readLines folded ending indent e blankBefore cells generalizing text <;>
    grind [→ readIndentation_length_le, endOfLine_length_le]

/-- A block behind its sign, inside a mapping that is indented so far. -/
def readBlock (folded : Bool) (outer : Nat) (cells : List Cell) :
    Option (List Char × List Cell) :=
  match readBlockHead none none cells with
  | none => none
  | some (ending, indent, body) =>
    match readIndentation (indent.map (outer + ·)) 0 body with
    | none => none
    | some (trail, widest, lines) =>
      let indent := (indent.map (outer + ·)).getD (max widest (outer + 1))
      readLines folded ending indent ⟨[], trail⟩ false lines

theorem readBlock_length_le {folded : Bool} {outer : Nat} {cells behind : List Cell}
    {text : List Char} (h : readBlock folded outer cells = some (text, behind)) :
    behind.length ≤ cells.length := by
  revert h
  fun_cases readBlock folded outer cells <;> intro h <;>
    grind [→ readBlockHead_length_le, → readIndentation_length_le, → readLines_length_le]

end ManifestCheck.Yaml
