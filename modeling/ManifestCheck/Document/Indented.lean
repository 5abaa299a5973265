import ManifestCheck.Document

/-!
# Indented documents

A document written over several lines: every element and every entry has a line of its own, two
blanks further in than the brackets around it. Empty containers stay on one line.
-/

namespace ManifestCheck.Document

/-- A line break and the blanks in front of what stands at a depth. -/
def newLine (depth : Nat) : List Char := '\n' :: List.replicate (2 * depth) ' '

mutual

/-- The characters of a document whose first line starts at a depth. -/
def indentedChars (depth : Nat) : Document → List Char
  | array [] => ['[', ']']
  | array (d :: ds) =>
    '[' :: newLine (depth + 1) ++ d.indentedChars (depth + 1) ++ indentedRest (depth + 1) ds ++
      newLine depth ++ [']']
  | object [] => ['\x7b', '\x7d']
  | object ((key, d) :: rest) =>
    '\x7b' :: newLine (depth + 1) ++ Quoted.chars key ++ ": ".toList ++
      d.indentedChars (depth + 1) ++ indentedEntries (depth + 1) rest ++ newLine depth ++ ['\x7d']
  | d => d.chars

/-- Further elements of a list, each behind a comma. -/
def indentedRest (depth : Nat) : List Document → List Char
  | [] => []
  | d :: ds => ',' :: newLine depth ++ d.indentedChars depth ++ indentedRest depth ds

/-- Further entries of an object, each behind a comma. -/
def indentedEntries (depth : Nat) : List (String × Document) → List Char
  | [] => []
  | (key, d) :: rest =>
    ',' :: newLine depth ++ Quoted.chars key ++ ": ".toList ++ d.indentedChars depth ++
      indentedEntries depth rest

end

def indented (d : Document) : String := String.ofList (d.indentedChars 0)

end ManifestCheck.Document
