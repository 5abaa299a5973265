/-!
# Blank characters

The characters with the white space property. Text is trimmed of all of them at both ends.
-/

namespace ManifestCheck.Text

/-- The white space characters of Unicode. -/
def isBlank (c : Char) : Bool :=
  let n := c.toNat
  (9 ≤ n && n ≤ 13) || n = 0x20 || n = 0x85 || n = 0xA0 || n = 0x1680 ||
    (0x2000 ≤ n && n ≤ 0x200A) || n = 0x2028 || n = 0x2029 || n = 0x202F || n = 0x205F ||
    n = 0x3000

/-- Characters without the blanks at both ends. -/
def trimChars (cs : List Char) : List Char :=
  ((cs.dropWhile isBlank).reverse.dropWhile isBlank).reverse

/-- Text without the blanks at both ends. -/
def trim (text : String) : String := String.ofList (trimChars text.toList)

/-- Whether there is nothing but blanks. -/
def allBlank (text : String) : Bool := text.toList.all isBlank

end ManifestCheck.Text
