import ManifestCheck.Pattern.Lexeme

/-!
# Reading patterns

From text to a phrase, lexeme by lexeme. Groups that are open are kept on a stack, innermost first.
A directive that turns verbose mode on or off holds until the group around it is closed, across the
bars that divide it.
-/

namespace ManifestCheck.Pattern

/-- The phrase of a group: the branches before the last bar and the row behind it, both last item
first. -/
def assemble (options items : List Phrase) : Phrase :=
  .ofBranches (options.reverse ++ [.ofItems items.reverse])

/-- A group that has been interrupted by the opening of another. -/
structure OpenGroup where
  inner : GroupKind
  verbose : Bool
  options : List Phrase
  items : List Phrase

/-- How far a pattern has been read: the innermost group, the groups around it, and the names that
have been given. -/
structure Progress where
  verbose : Bool := false
  options : List Phrase := []
  items : List Phrase := []
  outer : List OpenGroup := []
  names : List String := []

namespace Progress

def push (p : Progress) (item : Phrase) : Progress := { p with items := item :: p.items }

/-- Opens a group, under a name that no other has. -/
def openGroup (p : Progress) (kind : GroupKind) : Except PatternError Progress :=
  let inside (names : List String) : Progress :=
    { verbose := kind.change.after .verbose p.verbose
      outer := ⟨kind, p.verbose, p.options, p.items⟩ :: p.outer
      names }
  match kind with
  | .capture (some name) =>
    if p.names.contains name then .error (.repeatedGroupName name)
    else .ok (inside (name :: p.names))
  | _ => .ok (inside p.names)

/-- Closes the innermost group and returns to the one around it. -/
def closeGroup (p : Progress) : Except PatternError Progress :=
  match p.outer with
  | [] => .error .unopenedGroup
  | g :: others => .ok
    { verbose := g.verbose
      options := g.options
      items := .group g.inner (assemble p.options p.items) :: g.items
      outer := others
      names := p.names }

/-- Repeats the last item, which must not be a directive. -/
def repeatLast (p : Progress) (least : Nat) (most : Option Nat) : Except PatternError Progress :=
  match p.items with
  | [] => .error .nothingToRepeat
  | .directive _ :: _ => .error .nothingToRepeat
  | item :: items => .ok { p with items := .repetition item least most :: items }

/-- What a lexeme adds. -/
def add (p : Progress) : Lexeme → Except PatternError Progress
  | .opening kind => p.openGroup kind
  | .closing => p.closeGroup
  | .bar => .ok { p with options := .ofItems p.items.reverse :: p.options, items := [] }
  | .bracket negated body => .ok (p.push (.bracket negated body))
  | .directive change => .ok
    { p with
      verbose := change.after .verbose p.verbose
      items := .directive change :: p.items }
  | .repetition least most => p.repeatLast least most
  | .atom a => .ok (p.push (.atom a))

/-- The whole phrase, once no group is open. -/
def finish (p : Progress) : Except PatternError Phrase :=
  if p.outer.isEmpty then .ok (assemble p.options p.items) else .error .unclosedGroup

end Progress

/-- Reads on to the end of the text. -/
def readFrom (p : Progress) (cs : List Char) : Except PatternError Phrase :=
  match _hs : skip p.verbose cs with
  | [] => p.finish
  | c :: rest =>
    match _hl : readLexeme p.verbose c rest with
    | .error e => .error e
    | .ok (l, behind) =>
      match p.add l with
      | .error e => .error e
      | .ok q => readFrom q behind
termination_by cs.length
decreasing_by
  have h := skip_length_le p.verbose cs
  rw [_hs, List.length_cons] at h
  have := readLexeme_length_le _hl
  omega

/-- How many parts of a pattern may be nested in each other. -/
def maxHeight : Nat := 250

/-- The phrase that a text is, if it is one and not nested too deeply. -/
def Phrase.read (text : List Char) : Except PatternError Phrase :=
  match readFrom {} text with
  | .error e => .error e
  | .ok p => if p.height ≤ maxHeight then .ok p else .error .tooNested

end ManifestCheck.Pattern
