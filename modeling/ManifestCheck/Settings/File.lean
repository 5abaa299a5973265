import ManifestCheck.Settings
import ManifestCheck.Text.Blank
import ManifestCheck.Yaml.Mapping

/-!
# Settings files

A settings file is a flat mapping with up to three entries, in any order and each once. A blank file
and an empty value state no preference.
-/

namespace ManifestCheck

namespace Yaml.Scalar

/-- The words for no value. -/
def nullWords : List String := ["~", "null", "Null", "NULL"]

/-- Whether a scalar states a value; it is wrong to give anything but a word for no value the tag of
no value. -/
def isPresent? (s : Scalar) : Option Bool :=
  let isNull := nullWords.contains s.text
  match s.style, s.tag with
  | .plain, none => some (s.text ≠ "" && !isNull)
  | .plain, some tag => if tag ≠ "!!null" then some true else if isNull then some false else none
  | _, _ => some true

/-- A row of digits of a base, below `2 ^ 64`. -/
def readBase? (base : Nat) (digit? : Char → Option Nat) (cs : List Char) : Option Nat :=
  if cs.isEmpty then none
  else match cs.mapM digit? with
    | none => none
    | some ds =>
      let n := ds.foldl (fun n d => base * n + d) 0
      if n < Nat.pow 2 64 then some n else none

/-- A decimal digit below a base. -/
def digitBelow? (base : Nat) (c : Char) : Option Nat :=
  if c.isDigit && Digits.digitValue c < base then some (Digits.digitValue c) else none

/-- A count without its sign: hexadecimal, octal or binary behind a mark, else decimal without
leading zeros. -/
def readMagnitude? : List Char → Option Nat
  | '0' :: 'x' :: cs => readBase? 16 Digits.hexValue? cs
  | '0' :: 'o' :: cs => readBase? 8 (digitBelow? 8) cs
  | '0' :: 'b' :: cs => readBase? 2 (digitBelow? 2) cs
  | ['0'] => some 0
  | '0' :: _ => none
  | cs => readBase? 10 (digitBelow? 10) cs

/-- Whether a scalar may be a count: it is plain, or a kept block with the tag of whole numbers. -/
def mayCount (s : Scalar) : Bool :=
  s.style = .plain || (s.style = .kept && s.tag = some "!!int")

/-- The count that a scalar is. -/
def count? (s : Scalar) : Option Nat :=
  if !s.mayCount then none
  else match s.text.toList with
    | '+' :: cs => readMagnitude? cs
    | cs => readMagnitude? cs

/-- The name that a scalar gives: its text, or its tag if that has no other use and there is no
text. -/
def name? (s : Scalar) : Option String :=
  match s.tag with
  | none => some s.text
  | some tag =>
    if tag.startsWith "!!" || !tag.startsWith "!" then some s.text
    else if s.style = .plain && (s.text = "" || nullWords.contains s.text) then
      some (tag.drop 1).toString
    else none

end Yaml.Scalar

namespace Preferences

/-- What a value adds to the preferences under a key. -/
def addValue (p : Preferences) (key : String) (value : Yaml.Scalar) : Option Preferences :=
  match key with
  | "max_depth" => value.count?.map fun n => { p with maxDepth := some n }
  | "default_media_type" => some { p with mediaType := some value.text }
  | "format" => (value.name?.bind OutputFormat.ofName?).map fun f => { p with format := some f }
  | _ => none

/-- The keys that may be used. -/
def keys : List String := ["max_depth", "default_media_type", "format"]

/-- What an entry adds to the preferences; `seen` are the keys before it. -/
def addEntry (seen : List String) (p : Preferences) (e : Yaml.Entry) : Option Preferences :=
  if seen.contains e.1.text || !keys.contains e.1.text then none
  else match e.2.isPresent? with
    | none => none
    | some false => some p
    | some true => addValue p e.1.text e.2

/-- The preferences that several entries state. -/
def ofEntries (seen : List String) (p : Preferences) : List Yaml.Entry → Option Preferences
  | [] => some p
  | e :: rest =>
    match addEntry seen p e with
    | none => none
    | some q => ofEntries (e.1.text :: seen) q rest

/-- The preferences that a file states, if it is a settings file. -/
def read? (text : String) : Option Preferences :=
  if Text.allBlank text then some {}
  else (Yaml.readMapping text).bind (ofEntries [] {})

end Preferences

end ManifestCheck
