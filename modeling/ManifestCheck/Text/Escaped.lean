import ManifestCheck.Unicode.Property

/-!
# Escaped text

How messages show a string that came from outside: between quotation marks, with a backslash before
a quotation mark or a backslash, short escapes for tab, line feed, carriage return and the null
character, and the code point in braces for every other character that would not show.
-/

namespace ManifestCheck.Escaped

/-- A number in lower case hexadecimal. -/
def hexDigits (n : Nat) : List Char := Nat.toDigits 16 n

/-- How one character is shown. -/
def escape (c : Char) : List Char :=
  if c = '\x00' then ['\\', '0']
  else if c = '\t' then ['\\', 't']
  else if c = '\r' then ['\\', 'r']
  else if c = '\n' then ['\\', 'n']
  else if c = '\\' then ['\\', '\\']
  else if c = '"' then ['\\', '"']
  else if 32 ≤ c.toNat && c.toNat < 127 then [c]
  else if Unicode.shownByCode.contains c then
    ['\\', 'u', '\x7b'] ++ hexDigits c.toNat ++ ['\x7d']
  else [c]

/-- A string between quotation marks, shown without ambiguity. -/
def render (text : String) : String :=
  String.ofList ('"' :: text.toList.flatMap escape ++ ['"'])

end ManifestCheck.Escaped
