/-!
# Quoted text

The written form of a string inside a document: quotation marks around it, a backslash before a
quotation mark or a backslash, a short or a four-digit escape for each control character below
the blank, and every other character as it is.
-/

namespace ManifestCheck.Quoted

/-- A hexadecimal digit in lower case. -/
def hexDigit (n : Nat) : Char :=
  if n < 10 then Char.ofNat (48 + n) else Char.ofNat (87 + n)

/-- How one character is written between the quotation marks. -/
def escape (c : Char) : List Char :=
  if c = '"' then ['\\', '"']
  else if c = '\\' then ['\\', '\\']
  else if c = '\x08' then ['\\', 'b']
  else if c = '\x0c' then ['\\', 'f']
  else if c = '\n' then ['\\', 'n']
  else if c = '\r' then ['\\', 'r']
  else if c = '\t' then ['\\', 't']
  else if c.toNat < 32 then
    ['\\', 'u', '0', '0', hexDigit (c.toNat / 16), hexDigit (c.toNat % 16)]
  else [c]

/-- The characters of a quoted string. -/
def chars (text : String) : List Char := '"' :: text.toList.flatMap escape ++ ['"']

/-- A quoted string. -/
def render (text : String) : String := String.ofList (chars text)

end ManifestCheck.Quoted
