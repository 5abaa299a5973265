import ManifestCheck.Text.Fields
import ManifestCheck.Yaml.Scalar

/-!
# Flat mappings

A document that maps scalars to scalars, by lines or in braces. Values may be anchored, and an alias
stands for the value anchored before. Collections inside the mapping, and documents of any other
form, are not read.
-/

namespace ManifestCheck.Yaml

/-- Values by anchor, latest first. -/
abbrev Anchors := List (String × Scalar)

/-- What is read at a cell: a scalar, the anchors known behind it, and the cells behind it. -/
abbrev NodeRead := Option (Scalar × Anchors × List Cell)

/-- The anchor and the tag in front of a value. -/
structure Marks where
  anchor : Option String := none
  tag : Option String := none

/-- The value with its marks on it. -/
def Marks.put (m : Marks) (text : List Char) (style : Style) (known : Anchors) :
    Scalar × Anchors :=
  let s : Scalar := { text := String.ofList text, style, tag := m.tag }
  match m.anchor with
  | some name => (s, (name, s) :: known)
  | none => (s, known)

def isNameChar (c : Char) : Bool := c.isAlphanum || c = '_' || c = '-'

/-- The name of an anchor or an alias. -/
def readName (cells : List Cell) : Option (String × List Cell) :=
  let name := cells.takeWhile fun c => isNameChar c.char
  let behind := cells.dropWhile fun c => isNameChar c.char
  let ends := endsToken behind ||
    behind.head?.any fun c => "?:,]\x7d%@\x60".toList.contains c.char
  if name.isEmpty || !ends then none
  else some (String.ofList (name.map Cell.char), behind)

theorem readName_length_le {cells behind : List Cell} {name : String}
    (h : readName cells = some (name, behind)) : behind.length ≤ cells.length := by
  have := (List.dropWhile_sublist (fun c : Cell => isNameChar c.char) (l := cells)).length_le
  revert h
  fun_cases readName cells <;> intro h <;> grind

/-- The tags of the core schema have a short form. -/
def shortTag (uri : String) : String :=
  if uri.startsWith "tag:yaml.org,2002:" then "!!" ++ (uri.drop 18).toString else uri

def isTagChar (c : Char) : Bool :=
  c.isAlphanum || ";/?:@&=+$,.~*()[]%-_#".toList.contains c

/-- A tag behind its exclamation mark. -/
def readTag (inBraces : Bool) (cells : List Cell) : Option (String × List Cell) :=
  let ends := fun (c : Cell) => isBlank c.char || isBreak c.char || (inBraces && c.char = ',')
  let text := (cells.takeWhile fun c => !ends c).map Cell.char
  let behind := cells.dropWhile fun c => !ends c
  match text with
  | '<' :: more =>
    if more.getLast? = some '>' && 1 < more.length && more.dropLast.all isTagChar then
      some (shortTag (String.ofList more.dropLast), behind)
    else none
  | '!' :: more =>
    if !more.isEmpty && more.all isTagChar then some (String.ofList ('!' :: '!' :: more), behind)
    else none
  | more => if more.all isTagChar then some (String.ofList ('!' :: more), behind) else none

theorem readTag_length_le {inBraces : Bool} {cells behind : List Cell} {tag : String}
    (h : readTag inBraces cells = some (tag, behind)) : behind.length ≤ cells.length := by
  have (p : Cell → Bool) : (cells.dropWhile p).length ≤ cells.length :=
    (List.dropWhile_sublist _).length_le
  revert h
  fun_cases readTag inBraces cells <;> intro h <;> grind

/-- One mark, if there is one that is not known yet, and what `skip` leaves behind it. -/
def readMark (inBraces : Bool) (skip : List Cell → List Cell) (m : Marks) (cells : List Cell) :
    Option (Marks × List Cell) :=
  match cells with
  | [] => some (m, [])
  | c :: cs =>
    if c.char = '&' && m.anchor.isNone then
      (readName cs).map fun r => ({ m with anchor := some r.1 }, skip r.2)
    else if c.char = '!' && m.tag.isNone then
      (readTag inBraces cs).map fun r => ({ m with tag := some r.1 }, skip r.2)
    else some (m, c :: cs)

/-- Two marks at most, in either order. -/
def readMarks (inBraces : Bool) (skip : List Cell → List Cell) (cells : List Cell) :
    Option (Marks × List Cell) :=
  (readMark inBraces skip {} cells).bind fun r => readMark inBraces skip r.1 r.2

theorem readMark_length_le {inBraces : Bool} {skip : List Cell → List Cell}
    (hs : ∀ cells, (skip cells).length ≤ cells.length) {m n : Marks} {cells behind : List Cell}
    (h : readMark inBraces skip m cells = some (n, behind)) : behind.length ≤ cells.length := by
  revert h
  fun_cases readMark inBraces skip m cells <;> intro h <;>
    grind [Option.map_eq_some_iff, → readName_length_le, → readTag_length_le]

theorem readMarks_length_le {inBraces : Bool} {skip : List Cell → List Cell}
    (hs : ∀ cells, (skip cells).length ≤ cells.length) {m : Marks} {cells behind : List Cell}
    (h : readMarks inBraces skip cells = some (m, behind)) : behind.length ≤ cells.length := by
  obtain ⟨⟨n, more⟩, h₁, h₂⟩ := Option.bind_eq_some_iff.1 h
  exact Nat.le_trans (readMark_length_le hs h₂) (readMark_length_le hs h₁)

/-- The value that an alias stands for. -/
def readAlias (known : Anchors) (cells : List Cell) : NodeRead :=
  match readName cells with
  | none => none
  | some (name, behind) => (known.lookup name).map fun s => (s, known, behind)

theorem readAlias_length_le {known k : Anchors} {cells behind : List Cell} {s : Scalar}
    (h : readAlias known cells = some (s, k, behind)) : behind.length ≤ cells.length := by
  revert h
  fun_cases readAlias known cells <;> intro h <;>
    grind [Option.map_eq_some_iff, → readName_length_le]

/-- The text at a cell, and how it is written; a text that is to stay on one line may still go on
behind a quotation mark. -/
def readText (inBraces oneLine : Bool) (outer : Nat) (c : Cell) (cs : List Cell) :
    Option (List Char × Style × List Cell) :=
  if c.char = '\x27' then (readSingle {} cs).map fun r => (r.1, .quoted, r.2)
  else if c.char = '"' then (readDouble {} 0 0 cs).map fun r => (r.1, .quoted, r.2)
  else if (c.char = '|' || c.char = '>') && !inBraces && !oneLine then
    let style := if c.char = '>' then .folded else .kept
    (readBlock (c.char = '>') outer cs).map fun r => (r.1, style, r.2)
  else if startsPlain inBraces (c :: cs) then
    (readPlain inBraces oneLine (outer + 1) {} (c :: cs)).map fun r => (r.1, .plain, r.2)
  else none

theorem readText_length_le {inBraces oneLine : Bool} {outer : Nat} {c : Cell}
    {cs behind : List Cell} {text : List Char} {style : Style}
    (h : readText inBraces oneLine outer c cs = some (text, style, behind)) :
    behind.length ≤ cs.length + 1 := by
  revert h
  fun_cases readText inBraces oneLine outer c cs <;> intro h <;>
    grind [Option.map_eq_some_iff, → readSingle_length_le, → readDouble_length_le,
      → readBlock_length_le, → readPlain_length_le]

/-- Whether the place of a value is empty: inside braces a comma or a brace comes next, elsewhere a
line that is not indented further than the mapping. -/
def isVacant (inBraces : Bool) (outer : Nat) : List Cell → Bool
  | [] => true
  | c :: _ =>
    if inBraces then c.char = ',' || c.char = '\x7d' else c.column ≤ outer

/-- A value, which may be empty. -/
def readValue (inBraces : Bool) (outer : Nat) (known : Anchors) (cells : List Cell) : NodeRead :=
  let vacant := fun (m : Marks) (cells : List Cell) =>
    let (s, known) := m.put [] .plain known
    some (s, known, cells)
  if isVacant inBraces outer cells then vacant {} cells
  else match readMarks inBraces (gap inBraces true false) cells with
    | none => none
    | some (m, cells) =>
      if isVacant inBraces outer cells then vacant m cells
      else match cells with
        | [] => none
        | c :: cs =>
          if c.char = '*' then
            if m.anchor.isNone && m.tag.isNone then readAlias known cs else none
          else match readText inBraces false outer c cs with
            | none => none
            | some (text, style, behind) =>
              let (s, known) := m.put text style known
              some (s, known, behind)

theorem readValue_length_le {inBraces : Bool} {outer : Nat} {known k : Anchors}
    {cells behind : List Cell} {s : Scalar}
    (h : readValue inBraces outer known cells = some (s, k, behind)) :
    behind.length ≤ cells.length := by
  have hg := gap_length_le inBraces true false
  revert h
  fun_cases readValue inBraces outer known cells <;> intro h <;>
    grind [→ readMarks_length_le, → readAlias_length_le, → readText_length_le]

/-- A key, which stays on one line. -/
def readKey (inBraces : Bool) (outer : Nat) (known : Anchors) (cells : List Cell) : NodeRead :=
  match readMarks inBraces behindBlanks cells with
  | none => none
  | some (_, []) => none
  | some (m, c :: cs) =>
    if c.char = '*' then
      if m.anchor.isNone && m.tag.isNone then readAlias known cs else none
    else match readText inBraces true outer c cs with
      | none => none
      | some (text, style, behind) =>
        if (cs.take (cs.length - behind.length)).any fun d => isBreak d.char then none
        else
          let (s, known) := m.put text style known
          some (s, known, behind)

theorem readKey_length_le {inBraces : Bool} {outer : Nat} {known k : Anchors}
    {cells behind : List Cell} {s : Scalar}
    (h : readKey inBraces outer known cells = some (s, k, behind)) :
    behind.length ≤ cells.length := by
  revert h
  fun_cases readKey inBraces outer known cells <;> intro h <;>
    grind [→ readMarks_length_le, behindBlanks_length_le, → readAlias_length_le,
      → readText_length_le]

/-- What comes behind the colon of an entry. -/
def behindColon? (inBraces : Bool) (cells : List Cell) : Option (List Cell) :=
  match behindBlanks cells with
  | [] => none
  | c :: cs => if c.char = ':' && (inBraces || endsToken cs) then some cs else none

theorem behindColon?_length_lt {inBraces : Bool} {cells behind : List Cell}
    (h : behindColon? inBraces cells = some behind) : behind.length < cells.length := by
  have := behindBlanks_length_le cells
  revert h
  fun_cases behindColon? inBraces cells <;> intro h <;> grind

/-- What comes behind a value: a tab is a blank unless the line has just begun. -/
def behindValue (cells : List Cell) : List Cell :=
  gap false (cells.head?.any fun c => c.column ≠ 0) false cells

theorem behindValue_length_le (cells : List Cell) : (behindValue cells).length ≤ cells.length :=
  gap_length_le _ _ _ _

abbrev Entry := Scalar × Scalar

/-- The key of an entry, and what comes behind its colon. -/
def readSimpleKey (indent : Nat) (known : Anchors) (cells : List Cell) : NodeRead :=
  match readKey false indent known cells with
  | none => none
  | some (key, known, behind) => (behindColon? false behind).map fun cells => (key, known, cells)

theorem readSimpleKey_length_lt {indent : Nat} {known k : Anchors} {cells behind : List Cell}
    {s : Scalar} (h : readSimpleKey indent known cells = some (s, k, behind)) :
    behind.length < cells.length := by
  revert h
  fun_cases readSimpleKey indent known cells <;> intro h <;>
    grind [Option.map_eq_some_iff, → readKey_length_le, → behindColon?_length_lt]

/-- A key behind a question mark, and what comes behind the colon on a line of its own. Without such
a line the value is empty, and nothing is left of the entry. -/
def readMarkedKey (indent : Nat) (known : Anchors) (cells : List Cell) : NodeRead :=
  match gap false false false cells with
  | [] => none
  | c :: cs =>
    if c.column ≤ indent then none
    else match readKey false indent known (c :: cs) with
      | none => none
      | some (key, known, behind) =>
        match behindValue behind with
        | [] => some (key, known, [])
        | d :: rest =>
          if d.column = indent && d.char = ':' && endsToken rest then
            some (key, known, gap false false false rest)
          else some (key, known, d :: rest)

theorem readMarkedKey_length_le {indent : Nat} {known k : Anchors} {cells behind : List Cell}
    {s : Scalar} (h : readMarkedKey indent known cells = some (s, k, behind)) :
    behind.length ≤ cells.length := by
  have h₁ := gap_length_le false false false
  have h₂ := behindValue_length_le
  revert h
  fun_cases readMarkedKey indent known cells <;> intro h <;>
    grind [→ readKey_length_le]

/-- A key on its line or behind a question mark, and the cells of its value. -/
def readEntryKey (indent : Nat) (known : Anchors) (c : Cell) (cs : List Cell) : NodeRead :=
  if c.char = '?' && endsToken cs then readMarkedKey indent known cs
  else readSimpleKey indent known (c :: cs)

theorem readEntryKey_length_le {indent : Nat} {known k : Anchors} {c : Cell}
    {cs behind : List Cell} {s : Scalar}
    (h : readEntryKey indent known c cs = some (s, k, behind)) : behind.length ≤ cs.length := by
  revert h
  fun_cases readEntryKey indent known c cs <;> intro h <;>
    grind [→ readMarkedKey_length_le, → readSimpleKey_length_lt]

/-- Entries by lines, all indented alike, up to the end of the document or to a line that is
indented less. -/
def readEntries (indent : Nat) (known : Anchors) (cells : List Cell) :
    Option (List Entry × List Cell) :=
  match cells with
  | [] => some ([], [])
  | c :: cs =>
    if c.column < indent || atBoundary (c :: cs) then some ([], c :: cs)
    else if indent < c.column then none
    else match _hk : readEntryKey indent known c cs with
      | none => none
      | some (key, known, behind) =>
        match _hv : readValue false indent known (gap false true false behind) with
        | none => none
        | some (value, known, behind) =>
          match readEntries indent known (behindValue behind) with
          | none => none
          | some (more, behind) => some ((key, value) :: more, behind)
termination_by cells.length
decreasing_by
  have h₁ := readEntryKey_length_le _hk
  have h₂ := readValue_length_le _hv
  grind [gap_length_le, behindValue_length_le]

/-- The value behind a key inside braces; it may be left out with its colon. -/
def readBraceValue (known : Anchors) (cells : List Cell) : NodeRead :=
  match behindColon? true cells with
  | none => some ({ text := "" }, known, cells)
  | some behind => readValue true 0 known (gap true true false behind)

theorem readBraceValue_length_le {known k : Anchors} {cells behind : List Cell} {s : Scalar}
    (h : readBraceValue known cells = some (s, k, behind)) : behind.length ≤ cells.length := by
  have := gap_length_le true true false
  revert h
  fun_cases readBraceValue known cells <;> intro h <;>
    grind [→ behindColon?_length_lt, → readValue_length_le]

/-- A key inside braces; a question mark before it makes no difference. -/
def readBraceKey (known : Anchors) (c : Cell) (cs : List Cell) : NodeRead :=
  if c.char = '?' then readKey true 0 known (gap true true false cs)
  else readKey true 0 known (c :: cs)

theorem readBraceKey_length_le {known k : Anchors} {c : Cell} {cs behind : List Cell} {s : Scalar}
    (h : readBraceKey known c cs = some (s, k, behind)) : behind.length ≤ cs.length + 1 := by
  have := gap_length_le true true false cs
  revert h
  fun_cases readBraceKey known c cs <;> intro h <;> grind [→ readKey_length_le]

/-- Entries inside braces, up to the closing brace; a comma stands between two of them and may stand
behind the last one. -/
def readBraces (known : Anchors) (cells : List Cell) : Option (List Entry × List Cell) :=
  match _hg : gap true true false cells with
  | [] => none
  | c :: cs =>
    if c.char = '\x7d' then some ([], cs)
    else match _hk : readBraceKey known c cs with
      | none => none
      | some (key, known, behind) =>
        match _hv : readBraceValue known behind with
        | none => none
        | some (value, known, behind) =>
          match _hd : gap true true false behind with
          | [] => none
          | d :: rest =>
            if d.char = '\x7d' then some ([(key, value)], rest)
            else if d.char = ',' then
              (readBraces known rest).map fun r => ((key, value) :: r.1, r.2)
            else none
termination_by cells.length
decreasing_by
  have h₁ := gap_length_le true true false cells
  have h₂ := readBraceKey_length_le _hk
  have h₃ := readBraceValue_length_le _hv
  grind [gap_length_le]

/-! ## Documents -/

/-- A directive by its words: whether it names a version, or none if it is not known. -/
def directive? (words : List String) : Option Bool :=
  match words with
  | ["%YAML", version] => if version = "1.1" || version = "1.2" then some true else none
  | ["%TAG", handle, _] =>
    if handle.startsWith "!" && handle.endsWith "!" then some false else none
  | _ => none

/-- The words of a line, without a remark behind them. -/
def words (line : List Char) : List String :=
  let parts := ((Text.fields ' ' (line.map fun c => if c = '\t' then ' ' else c)).filter
    fun w => !w.isEmpty).map String.ofList
  parts.takeWhile fun w => !w.startsWith "#"

/-- Directives in front of a document: whether there are any, and what comes behind them. At most
one of them names a version. -/
def readDirectives (any versioned : Bool) (cells : List Cell) : Option (Bool × List Cell) :=
  match _hg : gap false false false cells with
  | [] => some (any, [])
  | c :: cs =>
    if c.char ≠ '%' || c.column ≠ 0 then some (any, c :: cs)
    else match directive? (words ('%' :: (restOfLine cs).map Cell.char)) with
      | none => none
      | some isVersion =>
        if isVersion && versioned then none
        else readDirectives true (versioned || isVersion) (endOfLine cs)
termination_by cells.length
decreasing_by
  have h₁ := gap_length_le false false false cells
  have h₂ := endOfLine_length_le cs
  grind

/-- Whether nothing but ends of documents, on lines of their own, comes behind a document. -/
def isFinished (cells : List Cell) : Bool :=
  match _hg : gap false true false cells with
  | [] => true
  | c :: cs => atMarker '.' (c :: cs) && isFinished (cs.drop 2)
termination_by cells.length
decreasing_by
  have := gap_length_le false true false cells
  grind

/-- The entries of a document whose content starts at a cell. -/
def readContent (cells : List Cell) : Option (List Entry) :=
  match cells with
  | [] => some []
  | c :: cs =>
    let read := if c.char = '\x7b' then readBraces [] cs else readEntries c.column [] (c :: cs)
    match read with
    | none => none
    | some (entries, behind) => if isFinished behind then some entries else none

/-- The entries of a document behind any marks on the whole of it. Marks in front of braces or at
the end of a line are such; others belong to the first key. -/
def readMarked (cells : List Cell) : Option (List Entry) :=
  match readMarks false behindBlanks cells with
  | none => none
  | some (m, behind) =>
    let ends := behind.head?.all fun c => isBreak c.char || c.char = '#'
    let braces := behind.head?.any fun c => c.char = '\x7b'
    if m.anchor.isNone && m.tag.isNone then readContent cells
    else if braces then readContent behind
    else if ends then readContent (gap false true false behind)
    else readContent cells

/-- The entries of the one document in a text; a document without content has none. Behind the sign
that opens a document no entry may stand on the same line, unless in braces. -/
def readMapping (text : String) : Option (List Entry) :=
  let chars := match text.toList with
    | '\ufeff' :: more => more
    | more => more
  if !chars.all isPermitted then none
  else match readDirectives false false (place 0 chars) with
    | none => none
    | some (directed, cells) =>
      if atMarker '-' cells then
        let line := behindBlanks (cells.drop 3)
        let opens : Bool := match readMarks false behindBlanks line with
          | none => false
          | some (_, behind) => behind.head?.all fun c =>
            isBreak c.char || c.char = '#' || c.char = '\x7b'
        if opens then readMarked (gap false true false line) else none
      else if directed || atMarker '.' cells then none
      else readMarked cells

end ManifestCheck.Yaml
