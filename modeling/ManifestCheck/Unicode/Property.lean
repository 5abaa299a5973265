import ManifestCheck.CharSet
import ManifestCheck.Unicode.CategoryTable
import ManifestCheck.Unicode.ScriptTable
import ManifestCheck.Unicode.AttributeTable
import ManifestCheck.Unicode.FoldingTable

/-!
# Properties of characters

Sets of characters by the name of a property. Names are compared without regard to case, blanks,
underscores and hyphens, and a leading `is` does not count. A bare name is looked up among the
yes-or-no properties, then the general categories, then the scripts; a property with a value may be
the general category, the script or the script extensions.
-/

namespace ManifestCheck.Unicode

/-- A name in the form in which names are compared. -/
def looseName (name : List Char) : String :=
  let (body, stripped) := match name with
    | a :: b :: rest =>
      if (a = 'i' || a = 'I') && (b = 's' || b = 'S') then (rest, true) else (name, false)
    | _ => (name, false)
  let kept := (body.filter fun c => c.toNat < 128 && c ≠ ' ' && c ≠ '_' && c ≠ '-').map Char.toLower
  if stripped && kept = ['c'] then "isc" else String.ofList kept

/-- The code points of the row that carries a name. -/
def findRow? (table : List (List String × List String)) (name : String) : Option CharSet :=
  (table.find? fun row => row.1.contains name).map fun row => CharSet.ofTable row.2

/-- The union of several general categories. -/
def categories (names : List String) : CharSet :=
  CharSet.ofRanges (names.flatMap fun n => ((findRow? categoryTable n).getD .empty).ranges)

/-- General categories that are made of others: their names and their parts. -/
def categoryGroups : List (List String × List String) := [
  (["l", "letter"], ["lu", "ll", "lt", "lm", "lo"]),
  (["lc", "casedletter"], ["lu", "ll", "lt"]),
  (["m", "mark", "combiningmark"], ["mn", "mc", "me"]),
  (["n", "number"], ["nd", "nl", "no"]),
  (["p", "punctuation", "punct"], ["pc", "pd", "ps", "pe", "pi", "pf", "po"]),
  (["s", "symbol"], ["sm", "sc", "sk", "so"]),
  (["z", "separator"], ["zs", "zl", "zp"]),
  (["c", "other"], ["cc", "cf", "co", "cn"])]

/-- A general category, a group of them, or one of the names for all, all assigned and all ASCII
characters. -/
def category? (name : String) : Option CharSet :=
  if name = "any" then some .all
  else if name = "ascii" then some ⟨[(0, 127)]⟩
  else if name = "assigned" then some (categories ["cn"]).complement
  else match categoryGroups.find? fun g => g.1.contains name with
    | some g => some (categories g.2)
    | none => findRow? categoryTable name

def script? (name : String) : Option CharSet := findRow? scriptTable name

/-- The characters used with a script: those of its own unless the table says otherwise. -/
def scriptExtension? (name : String) : Option CharSet :=
  (scriptTable.find? fun row => row.1.contains name).map fun row =>
    match scriptExtensionTable.find? fun other => row.1.head? == some other.1 with
    | some other => CharSet.ofTable other.2
    | none => CharSet.ofTable row.2

/-- Names that are short for a general category although they also abbreviate other properties. -/
def categoryFirst (name : String) : Bool := name = "cf" || name = "sc" || name = "lc"

/-- The set for a bare property name. -/
def named? (name : List Char) : Option CharSet :=
  let loose := looseName name
  let binary := if categoryFirst loose then none else findRow? attributeTable loose
  (binary.or (category? loose)).or (script? loose)

/-- The set for a property name with a value. -/
def valued? (name value : List Char) : Option CharSet :=
  let loose := looseName name
  let wanted := looseName value
  if loose = "generalcategory" || loose = "gc" then category? wanted
  else if loose = "script" || loose = "sc" then script? wanted
  else if loose = "scriptextensions" || loose = "scx" then scriptExtension? wanted
  else none

/-- Decimal digits of every script. -/
def digits : CharSet := categories ["nd"]

def whiteSpace : CharSet := (findRow? attributeTable "whitespace").getD .empty

def alphabetic : CharSet := (findRow? attributeTable "alphabetic").getD .empty

/-- Letters, marks, decimal digits, connectors and joiners. -/
def wordCharacters : CharSet :=
  CharSet.ofRanges (alphabetic.ranges ++ (categories ["mn", "mc", "me", "nd", "pc"]).ranges ++
    ((findRow? attributeTable "joincontrol").getD .empty).ranges)

/-- Letters and numbers of every kind. -/
def alphanumeric : CharSet :=
  CharSet.ofRanges (alphabetic.ranges ++ (categories ["nd", "nl", "no"]).ranges)

/-- The groups of code points that are equal up to case. -/
def foldingGroups : List (List Nat) :=
  (foldingTable.flatMap fun line => Text.fields ' ' line.toList).map fun g =>
    (Text.fields '=' g).map Digits.hexNumber

/-- A set with every character that is equal up to case to one of its members. -/
def closeUnderCase (s : CharSet) : CharSet :=
  CharSet.ofRanges (s.ranges ++
    (foldingGroups.filter fun g => g.any s.hasCode).flatMap fun g => g.map fun n => (n, n))

/-- Characters that messages show by code point: those that print nothing of their own, the blank
apart, and those that extend the one before them. -/
def shownByCode : CharSet :=
  CharSet.difference
    (CharSet.ofRanges ((categories ["cc", "cf", "co", "cn", "zs", "zl", "zp"]).ranges ++
      ((findRow? attributeTable "graphemeextend").getD .empty).ranges))
    (.single ' ')

end ManifestCheck.Unicode
