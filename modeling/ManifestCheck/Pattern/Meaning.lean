import ManifestCheck.Pattern.Expr
import ManifestCheck.Pattern.Phrase

/-!
# The meaning of patterns

What a phrase says under given flags. A directive holds from where it stands to the end of the group
around it. Where case is ignored, every set is closed under change of case before it is negated.
Where the characters of other scripts are switched off, no atom and no set may match one of them,
except for a character written out by itself.
-/

namespace ManifestCheck.Pattern

/-- The flags that decide what matches. -/
structure Flags where
  ignoreCase : Bool := false
  multiLine : Bool := false
  dotAll : Bool := false
  unicode : Bool := true
  crlf : Bool := false
  deriving DecidableEq, Repr

/-- The flags behind a directive. -/
def Flags.after (f : Flags) (change : FlagChange) : Flags where
  ignoreCase := change.after .ignoreCase f.ignoreCase
  multiLine := change.after .multiLine f.multiLine
  dotAll := change.after .dotAll f.dotAll
  unicode := change.after .unicode f.unicode
  crlf := change.after .crlf f.crlf

/-- The ASCII letters that are the same as a code point up to case. -/
def asciiCaseVariants (n : Nat) : List Nat :=
  if 65 ≤ n ∧ n ≤ 90 then [n + 32] else if 97 ≤ n ∧ n ≤ 122 then [n - 32] else []

/-- A set with the other case of each of its ASCII letters. -/
def closeUnderAsciiCase (s : CharSet) : CharSet :=
  CharSet.ofRanges (s.ranges ++
    (((List.range 128).filter s.hasCode).flatMap asciiCaseVariants).map fun n => (n, n))

namespace Flags

/-- A set as it is meant where case may be ignored. -/
def closeSet (f : Flags) (s : CharSet) : CharSet :=
  if !f.ignoreCase then s
  else if f.unicode then Unicode.closeUnderCase s
  else closeUnderAsciiCase s

/-- A set that may be matched. -/
def permit (f : Flags) (s : CharSet) : Except PatternError CharSet :=
  if f.unicode || s.isAscii then .ok s else .error .notUnicode

/-- A set as it is meant, then negated if asked. -/
def settle (f : Flags) (negated : Bool) (s : CharSet) : Except PatternError CharSet :=
  f.permit (if negated then (f.closeSet s).complement else f.closeSet s)

/-- The set of a one-letter class, which holds every case of its members already. -/
def letterClass (f : Flags) (kind : LetterClass) (negated : Bool) : Except PatternError CharSet :=
  let s : CharSet := match kind, f.unicode with
    | .digit, true => Unicode.digits
    | .space, true => Unicode.whiteSpace
    | .word, true => Unicode.wordCharacters
    | .digit, false => ⟨[(48, 57)]⟩
    | .space, false => ⟨[(9, 13), (32, 32)]⟩
    | .word, false => asciiWord
  f.permit (if negated then s.complement else s)

/-- The set of a property. -/
def property (f : Flags) (name : List Char) (value : Option (List Char)) (negated : Bool) :
    Except PatternError CharSet :=
  if !f.unicode then .error .notUnicode
  else
    let found := match value with
      | none => Unicode.named? name
      | some v => Unicode.valued? name v
    match found with
    | none => .error .unknownProperty
    | some s => f.settle negated s

/-- Every character that the dot stands for. -/
def dot (f : Flags) : Except PatternError CharSet :=
  f.permit <|
    if f.dotAll then .all
    else if f.crlf then CharSet.complement ⟨[(10, 10), (13, 13)]⟩
    else CharSet.complement ⟨[(10, 10)]⟩

/-- A character by itself. A byte must be ASCII where characters of other scripts are switched
off. -/
def literal (f : Flags) (l : Literal) : Except PatternError CharSet :=
  if f.unicode then .ok (f.closeSet (.single l.char))
  else if l.isByte && 128 ≤ l.char.toNat then .error .notUnicode
  else .ok (f.closeSet (.single l.char))

def wordKind (f : Flags) : WordKind := if f.unicode then .unicode else .ascii

def assertion (f : Flags) : Anchor → Assertion
  | .lineStart => if !f.multiLine then .textStart else if f.crlf then .lineStartCrlf else .lineStart
  | .lineEnd => if !f.multiLine then .textEnd else if f.crlf then .lineEndCrlf else .lineEnd
  | .textStart => .textStart
  | .textEnd => .textEnd
  | .wordBoundary => .wordBoundary f.wordKind
  | .notWordBoundary => .notWordBoundary f.wordKind
  | .wordStart => .wordStart f.wordKind
  | .wordEnd => .wordEnd f.wordKind
  | .wordStartHalf => .noWordBefore f.wordKind
  | .wordEndHalf => .noWordAfter f.wordKind

end Flags

/-- What an operation makes of two sets. -/
def SetOperation.apply : SetOperation → CharSet → CharSet → CharSet
  | intersection => .inter
  | difference => .difference
  | symmetricDifference => .symmetricDifference

mutual

/-- The set that stands inside brackets. -/
def SetPhrase.members (f : Flags) : SetPhrase → Except PatternError CharSet
  | range first last => f.permit (.range first.char last.char)
  | ascii s negated => f.settle negated s
  | letterClass kind negated => f.letterClass kind negated
  | property name value negated => f.property name value negated
  | bracket negated body => do f.settle negated (← body.members f)
  | union items => membersOfAll f items
  | combine operation left right => do
    let a ← left.members f
    let b ← right.members f
    return operation.apply (f.closeSet a) (f.closeSet b)

/-- The union of the sets of several items. -/
def SetPhrase.membersOfAll (f : Flags) : List SetPhrase → Except PatternError CharSet
  | [] => .ok .empty
  | p :: ps => do
    let s ← p.members f
    let t ← membersOfAll f ps
    return s.union t

end

def Atom.meaning (f : Flags) : Atom → Except PatternError Expr
  | literal l => (f.literal l).map .chars
  | dot => f.dot.map .chars
  | anchor a => .ok (.assertion (f.assertion a))
  | letterClass kind negated => (f.letterClass kind negated).map .chars
  | property name value negated => (f.property name value negated).map .chars

mutual

/-- What a phrase says under flags, and the flags behind it. -/
def Phrase.meaning (f : Flags) : Phrase → Except PatternError (Expr × Flags)
  | atom a => (a.meaning f).map fun e => (e, f)
  | bracket negated body => do
    let s ← f.settle negated (← body.members f)
    return (.chars s, f)
  | directive change => .ok (.empty, f.after change)
  | group kind body => do
    let (e, _) ← body.meaning (f.after kind.change)
    return (if kind matches .capture _ then .group e else e, f)
  | repetition body least most => do
    let (e, g) ← body.meaning f
    return (.rep e least most, g)
  | concat items => meaningOfRow f items
  | branches options => meaningOfBranches f options

/-- What several phrases say one after the other. -/
def Phrase.meaningOfRow (f : Flags) : List Phrase → Except PatternError (Expr × Flags)
  | [] => .ok (.empty, f)
  | p :: ps => do
    let (e, g) ← p.meaning f
    let (r, h) ← meaningOfRow g ps
    return (.seq e r, h)

/-- What several phrases say as a choice; the first one has the upper hand over the flags of the
others. -/
def Phrase.meaningOfBranches (f : Flags) : List Phrase → Except PatternError (Expr × Flags)
  | [] => .ok (.chars .empty, f)
  | [p] => p.meaning f
  | p :: ps => do
    let (e, g) ← p.meaning f
    let (r, h) ← meaningOfBranches g ps
    return (.alt e r, h)

end

end ManifestCheck.Pattern
