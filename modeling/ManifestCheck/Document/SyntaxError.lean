/-!
# Syntax errors

Why a text is not a document, and where reading stopped. Lines count from one. A column counts the
bytes since the last line feed, so it is zero right behind one.
-/

namespace ManifestCheck

/-- A place in a text. -/
structure Position where
  line : Nat
  column : Nat
  deriving DecidableEq, Repr

namespace Position

/-- The place in front of the first byte. -/
def start : Position := ⟨1, 0⟩

/-- The place behind one more byte. -/
def advance (p : Position) (b : UInt8) : Position :=
  if b = 10 then ⟨p.line + 1, 0⟩ else ⟨p.line, p.column + 1⟩

/-- The place behind several more bytes. -/
def after (p : Position) (bytes : List UInt8) : Position := bytes.foldl advance p

end Position

/-- What is wrong in general: the form, an early end, or a value that cannot be held. -/
inductive SyntaxCategory where
  | form
  | earlyEnd
  | data
  deriving DecidableEq, Repr

/-- The value found where the text of a number was wanted. -/
inductive FoundValue where
  | null
  | bool (value : Bool)
  | integer (literal : String)
  | number
  | sequence
  | map
  deriving DecidableEq, Repr

/-- What is wrong in particular. -/
inductive SyntaxReason where
  | endInList
  | endInObject
  | endInString
  | endInValue
  | expectedColon
  | expectedListCommaOrEnd
  | expectedObjectCommaOrEnd
  | expectedIdent
  | expectedValue
  | invalidEscape
  | invalidNumber
  | invalidCodePoint
  | controlCharacter
  | keyNotString
  | loneSurrogate
  | trailingComma
  | trailingCharacters
  | endInHexEscape
  | tooDeep
  | badNumberText (cause : SyntaxReason)
  | notNumberText (found : FoundValue)
  deriving DecidableEq, Repr

/-- A reason and the place where reading stopped. -/
structure SyntaxError where
  reason : SyntaxReason
  position : Position
  deriving DecidableEq, Repr

namespace FoundValue

def describe : FoundValue → String
  | null => "null"
  | bool true => "boolean `true`"
  | bool false => "boolean `false`"
  | integer literal => "integer `" ++ literal ++ "`"
  | number => "number"
  | sequence => "sequence"
  | map => "map"

end FoundValue

namespace SyntaxReason

def category : SyntaxReason → SyntaxCategory
  | endInList | endInObject | endInString | endInValue => .earlyEnd
  | badNumberText _ | notNumberText _ => .data
  | _ => .form

def message : SyntaxReason → String
  | endInList => "EOF while parsing a list"
  | endInObject => "EOF while parsing an object"
  | endInString => "EOF while parsing a string"
  | endInValue => "EOF while parsing a value"
  | expectedColon => "expected `:`"
  | expectedListCommaOrEnd => "expected `,` or `]`"
  | expectedObjectCommaOrEnd => "expected `,` or `\x7d`"
  | expectedIdent => "expected ident"
  | expectedValue => "expected value"
  | invalidEscape => "invalid escape"
  | invalidNumber => "invalid number"
  | invalidCodePoint => "invalid unicode code point"
  | controlCharacter => "control character (\\u0000-\\u001F) found while parsing a string"
  | keyNotString => "key must be a string"
  | loneSurrogate => "lone leading surrogate in hex escape"
  | trailingComma => "trailing comma"
  | trailingCharacters => "trailing characters"
  | endInHexEscape => "unexpected end of hex escape"
  | tooDeep => "recursion limit exceeded"
  | badNumberText cause => cause.message
  | notNumberText found =>
    "invalid type: " ++ found.describe ++ ", expected string containing a number"

end SyntaxReason

namespace SyntaxCategory

/-- The category in the wording of load errors. -/
def describe : SyntaxCategory → String
  | form => "syntax error"
  | earlyEnd => "unexpected end of input"
  | data => "unrepresentable data"

end SyntaxCategory

namespace SyntaxError

def category (e : SyntaxError) : SyntaxCategory := e.reason.category

/-- The place in words. -/
def place (e : SyntaxError) : String :=
  "line " ++ toString e.position.line ++ " column " ++ toString e.position.column

/-- The reason followed by the place. -/
def placed (e : SyntaxError) : String := e.reason.message ++ " at " ++ e.place

/-- The words in which the reader refuses to open one more container. -/
def refusalWords : String := "recursion limit exceeded"

/-- Whether an error is that refusal, by its words. -/
def isRefusal (e : SyntaxError) : Bool :=
  e.category = .form && refusalWords.toList.isPrefixOf e.placed.toList

end SyntaxError

end ManifestCheck
