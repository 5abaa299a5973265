/-!
# Placed characters

A text is read as a list of its characters, each with the column where it stands, because columns
decide how far a value goes. Every spelling of a line break counts as one character.
-/

namespace ManifestCheck.Yaml

/-- A character and its column. -/
structure Cell where
  char : Char
  column : Nat
  deriving DecidableEq, Repr

def isBreak (c : Char) : Bool := c = '\n' || c = '\u2028' || c = '\u2029'

/-- A blank within a line. -/
def isBlank (c : Char) : Bool := c = ' ' || c = '\t'

/-- The characters of a text from a column on. -/
def place (column : Nat) : List Char → List Cell
  | [] => []
  | '\r' :: '\n' :: cs => ⟨'\n', column⟩ :: place 0 cs
  | c :: cs =>
    if c = '\r' || c = '\u0085' then ⟨'\n', column⟩ :: place 0 cs
    else ⟨c, column⟩ :: place (if isBreak c then 0 else column + 1) cs

/-- Whether a character may stand in a text at all. -/
def isPermitted (c : Char) : Bool :=
  let n := c.toNat
  n = 9 || n = 10 || n = 13 || (0x20 ≤ n && n ≤ 0x7E) || n = 0x85 || (0xA0 ≤ n && n ≤ 0xFFFD) ||
    0x10000 ≤ n

/-- Whether a blank, a line break or the end of the text comes next. -/
def endsToken : List Cell → Bool
  | [] => true
  | c :: _ => isBlank c.char || isBreak c.char

/-- Whether a line starts here that consists of a character three times, or starts so. -/
def atMarker (mark : Char) : List Cell → Bool
  | a :: b :: c :: rest =>
    a.column = 0 && a.char = mark && b.char = mark && c.char = mark && endsToken rest
  | _ => false

/-- Whether a line starts here that opens or ends a document. -/
def atBoundary (cells : List Cell) : Bool := atMarker '-' cells || atMarker '.' cells

/-- What comes behind blanks, line breaks and remarks. A tab is a blank inside braces, elsewhere
only where a line has begun already; `tabs` tells whether it is one here. -/
def gap (inBraces tabs inRemark : Bool) : List Cell → List Cell
  | [] => []
  | c :: cs =>
    if isBreak c.char then gap inBraces inBraces false cs
    else if inRemark then gap inBraces tabs true cs
    else if c.char = ' ' || (tabs && c.char = '\t') then gap inBraces tabs false cs
    else if c.char = '#' then gap inBraces tabs true cs
    else c :: cs

theorem gap_length_le (inBraces tabs inRemark : Bool) (cells : List Cell) :
    (gap inBraces tabs inRemark cells).length ≤ cells.length := by
  fun_induction gap inBraces tabs inRemark cells <;> simp_all <;> omega

/-- What comes behind blanks in the same line. -/
def behindBlanks (cells : List Cell) : List Cell := cells.dropWhile fun c => isBlank c.char

theorem behindBlanks_length_le (cells : List Cell) :
    (behindBlanks cells).length ≤ cells.length :=
  (List.dropWhile_sublist _).length_le

/-- The characters up to the end of the line. -/
def restOfLine (cells : List Cell) : List Cell := cells.takeWhile fun c => !isBreak c.char

/-- What comes from the end of the line on. -/
def endOfLine (cells : List Cell) : List Cell := cells.dropWhile fun c => !isBreak c.char

theorem endOfLine_length_le (cells : List Cell) : (endOfLine cells).length ≤ cells.length :=
  (List.dropWhile_sublist _).length_le

end ManifestCheck.Yaml
