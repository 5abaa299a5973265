import ManifestCheck.CharSet

/-!
# Patterns as written

The tree of a pattern before its flags are applied: atoms, bracketed sets, repetitions, groups and
branches, with the directives that change flags left where they stand. `Phrase.height` counts how
many of them are nested in each other.
-/

namespace ManifestCheck.Pattern

/-- Why a text is not a pattern. -/
inductive PatternError where
  | endsInEscape
  | unknownEscape (c : Char)
  | badCharacterCode
  | unknownProperty
  | unknownBoundary
  | unclosedBracket
  | notInBracket
  | badRange
  | badGroupName
  | repeatedGroupName (name : String)
  | lookaround
  | badFlags
  | unclosedGroup
  | unopenedGroup
  | nothingToRepeat
  | badRepetition
  | notUnicode
  | tooNested
  | tooLarge
  deriving DecidableEq, Repr

/-- What the letters of a directive stand for. -/
inductive Flag where
  | ignoreCase
  | multiLine
  | dotAll
  | swapGreed
  | unicode
  | crlf
  | verbose
  deriving DecidableEq, Repr

def Flag.ofLetter? : Char → Option Flag
  | 'i' => some ignoreCase
  | 'm' => some multiLine
  | 's' => some dotAll
  | 'U' => some swapGreed
  | 'u' => some unicode
  | 'R' => some crlf
  | 'x' => some verbose
  | _ => none

/-- The flags that a directive turns on and those that it turns off. -/
structure FlagChange where
  on : List Flag := []
  off : List Flag := []
  deriving DecidableEq, Repr

/-- The value of a flag after a change. -/
def FlagChange.after (change : FlagChange) (flag : Flag) (value : Bool) : Bool :=
  change.on.contains flag || (value && !change.off.contains flag)

/-- A character and whether it is written as a code of two hexadecimal digits, which then names a
byte where characters of other scripts are switched off. -/
structure Literal where
  char : Char
  isByte : Bool := false
  deriving DecidableEq, Repr

/-- The places that an assertion can name. -/
inductive Anchor where
  | lineStart
  | lineEnd
  | textStart
  | textEnd
  | wordBoundary
  | notWordBoundary
  | wordStart
  | wordEnd
  | wordStartHalf
  | wordEndHalf
  deriving DecidableEq, Repr

/-- The classes with a one-letter escape. -/
inductive LetterClass where
  | digit
  | space
  | word
  deriving DecidableEq, Repr

/-- What one escape or one plain character stands for. -/
inductive Atom where
  | literal (literal : Literal)
  | dot
  | anchor (anchor : Anchor)
  | letterClass (kind : LetterClass) (negated : Bool)
  | property (name : List Char) (value : Option (List Char)) (negated : Bool)
  deriving DecidableEq, Repr

inductive SetOperation where
  | intersection
  | difference
  | symmetricDifference
  deriving DecidableEq, Repr

/-- What stands inside brackets. -/
inductive SetPhrase where
  | range (first last : Literal)
  | ascii (members : CharSet) (negated : Bool)
  | letterClass (kind : LetterClass) (negated : Bool)
  | property (name : List Char) (value : Option (List Char)) (negated : Bool)
  | bracket (negated : Bool) (body : SetPhrase)
  | union (items : List SetPhrase)
  | combine (operation : SetOperation) (left right : SetPhrase)

inductive GroupKind where
  | capture (name : Option String)
  | plain (change : FlagChange)
  deriving DecidableEq, Repr

/-- The flags that the head of a group changes inside it. -/
def GroupKind.change : GroupKind → FlagChange
  | capture _ => {}
  | plain change => change

/-- A pattern as written. -/
inductive Phrase where
  | atom (atom : Atom)
  | bracket (negated : Bool) (body : SetPhrase)
  | directive (change : FlagChange)
  | group (kind : GroupKind) (body : Phrase)
  | repetition (body : Phrase) (least : Nat) (most : Option Nat)
  | concat (items : List Phrase)
  | branches (options : List Phrase)

/-- Several items in a row; one alone stands for itself. -/
def SetPhrase.ofItems : List SetPhrase → SetPhrase
  | [only] => only
  | items => .union items

/-- Several phrases in a row; one alone stands for itself. -/
def Phrase.ofItems : List Phrase → Phrase
  | [only] => only
  | items => .concat items

/-- Several phrases to choose from; one alone stands for itself. -/
def Phrase.ofBranches : List Phrase → Phrase
  | [only] => only
  | options => .branches options

mutual

/-- How many brackets, rows and operations are nested in each other. -/
def SetPhrase.height : SetPhrase → Nat
  | bracket _ body => body.height + 1
  | union items => if items.isEmpty then 0 else heightItems items + 1
  | combine _ left right => max left.height right.height + 1
  | _ => 0

/-- The greatest height among several items. -/
def SetPhrase.heightItems : List SetPhrase → Nat
  | [] => 0
  | p :: ps => max p.height (heightItems ps)

end

mutual

/-- How many brackets, groups, repetitions, rows and choices are nested in each other. -/
def Phrase.height : Phrase → Nat
  | bracket _ body => body.height + 1
  | group _ body => body.height + 1
  | repetition body _ _ => body.height + 1
  | concat items => if items.isEmpty then 0 else heightItems items + 1
  | branches options => heightItems options + 1
  | _ => 0

/-- The greatest height among several phrases. -/
def Phrase.heightItems : List Phrase → Nat
  | [] => 0
  | p :: ps => max p.height (heightItems ps)

end

end ManifestCheck.Pattern
