import ManifestCheck.Kind
import ManifestCheck.Number
import ManifestCheck.Text.Quoted

/-!
# Documents

A document is a tree of scalars, lists and objects. The entries of an object keep the order in
which their keys came, and a repeated key keeps its first place and takes the last value. Equality
goes by value: numbers compare as numbers, and the order of entries does not count.
-/

namespace ManifestCheck

/-- A node of a document. -/
inductive Document where
  | null
  | bool (value : Bool)
  | number (value : Number)
  | string (value : String)
  | array (items : List Document)
  | object (entries : List (String × Document))
  deriving Inhabited

/-! Keyed entries in order of arrival. Values are found with `List.lookup`. -/
namespace Entries

variable {α : Type}

/-- The keys in their order. -/
def keys (entries : List (String × α)) : List String := entries.map Prod.fst

/-- Whether a key is present. -/
def contains (key : String) (entries : List (String × α)) : Bool := (entries.lookup key).isSome

/-- A new key goes to the end; a known one keeps its place and takes the new value. -/
def insert (key : String) (value : α) : List (String × α) → List (String × α)
  | [] => [(key, value)]
  | (k, v) :: rest => if k = key then (k, value) :: rest else (k, v) :: insert key value rest

/-- The value that a key has, if it has one, and the entries with the new value inserted. -/
def getThenInsert? (key : String) (value : α) :
    List (String × α) → Option α × List (String × α)
  | [] => (none, [(key, value)])
  | (k, v) :: rest =>
    if k = key then (some v, (k, value) :: rest)
    else
      let (found, changed) := getThenInsert? key value rest
      (found, (k, v) :: changed)

/-- The entries that result from inserting members one after the other. -/
def ofMembers (members : List (String × α)) : List (String × α) :=
  members.foldl (fun entries m => insert m.1 m.2 entries) []

end Entries

namespace Document

def kind : Document → Kind
  | null => .null
  | bool _ => .boolean
  | number n => if n.isInteger then .integer else .number
  | string _ => .string
  | array _ => .array
  | object _ => .object

/-- The entry of an object under a key; other nodes have none. -/
def get? (key : String) : Document → Option Document
  | object entries => entries.lookup key
  | _ => none

mutual

/-- Equality by value, whatever the order of entries. -/
def equal : Document → Document → Bool
  | null, null => true
  | bool a, bool b => a == b
  | number a, number b => a.equal b
  | string a, string b => a == b
  | array as, array bs => equalItems as bs
  | object as, object bs => as.length == bs.length && coveredBy as bs
  | _, _ => false

/-- Lists are equal element by element. -/
def equalItems : List Document → List Document → Bool
  | [], [] => true
  | a :: as, b :: bs => equal a b && equalItems as bs
  | _, _ => false

/-- Every entry has an equal one under the same key on the other side. -/
def coveredBy : List (String × Document) → List (String × Document) → Bool
  | [], _ => true
  | (key, a) :: as, bs =>
    (match bs.lookup key with
      | some b => equal a b
      | none => false) && coveredBy as bs

end

mutual

/-- The document put together from what was read, by inserting the entries of every object one after
the other. -/
def assemble : Document → Document
  | array items => array (assembleItems items)
  | object entries => object (Entries.ofMembers (assembleEntries entries))
  | d => d

def assembleItems : List Document → List Document
  | [] => []
  | d :: ds => assemble d :: assembleItems ds

def assembleEntries : List (String × Document) → List (String × Document)
  | [] => []
  | (key, d) :: rest => (key, assemble d) :: assembleEntries rest

end

mutual

/-- How many containers are nested in each other: none in a scalar, in a container one more than in
the deepest value it holds. -/
def nesting : Document → Nat
  | array items => nestingItems items + 1
  | object entries => nestingEntries entries + 1
  | _ => 0

/-- The deepest nesting among the elements of a list. -/
def nestingItems : List Document → Nat
  | [] => 0
  | d :: ds => max (nesting d) (nestingItems ds)

/-- The deepest nesting among the values of entries. -/
def nestingEntries : List (String × Document) → Nat
  | [] => 0
  | (_, d) :: rest => max (nesting d) (nestingEntries rest)

end

mutual

/-- The characters of a document written without blanks. -/
def chars : Document → List Char
  | null => "null".toList
  | bool true => "true".toList
  | bool false => "false".toList
  | number n => n.literal.toList
  | string s => Quoted.chars s
  | array items => '[' :: charsItems items ++ [']']
  | object entries => '\x7b' :: charsEntries entries ++ ['\x7d']

/-- Elements with commas between them. -/
def charsItems : List Document → List Char
  | [] => []
  | [d] => chars d
  | d :: ds => chars d ++ ',' :: charsItems ds

/-- Entries with commas between them and a colon behind each key. -/
def charsEntries : List (String × Document) → List Char
  | [] => []
  | [(key, d)] => Quoted.chars key ++ ':' :: chars d
  | (key, d) :: rest => Quoted.chars key ++ ':' :: chars d ++ ',' :: charsEntries rest

end

/-- A document written without blanks. -/
def render (d : Document) : String := String.ofList d.chars

end Document

end ManifestCheck
