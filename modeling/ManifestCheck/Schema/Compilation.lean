import ManifestCheck.Schema
import ManifestCheck.Schema.Library

/-!
# Compiling schemas

From a schema document to a schema. Keywords are taken in the order of the text, and the first fault
ends compilation; keywords that say nothing about validity are passed over, and so is whatever
stands beside a reference. A reference is replaced by what it leads to, compiled at the place where
that stands. Each place may be entered once on the way down: a reference to a place that is being
compiled already is a cycle, and so compilation ends.
-/

namespace ManifestCheck

/-- What a reference at a place stands for. -/
abbrev Follow := Location → String → Except SchemaError Schema

/-- The name of a kind of value in complaints; all numbers are alike. -/
def Document.jsonKind : Document → String
  | null => "null"
  | bool _ => "boolean"
  | number _ => "number"
  | string _ => "string"
  | array _ => "array"
  | object _ => "object"

/-- The truth value that a document is, if it is one. -/
def Document.truth? : Document → Option Bool
  | bool b => some b
  | _ => none

def Document.isArray : Document → Bool
  | array _ => true
  | _ => false

namespace Schema

/-- The strings of a list, or the complaint about an element that is none. -/
def allStrings (fault : SchemaError) : List Document → Except SchemaError (List String)
  | [] => .ok []
  | .string s :: rest =>
    match allStrings fault rest with
    | .ok more => .ok (s :: more)
    | .error e => .error e
  | _ :: _ => .error fault

/-- The kinds of several names. -/
def readKinds (at' : Location) : List String → Except SchemaError (List Kind)
  | [] => .ok []
  | name :: rest =>
    match Kind.ofName? name with
    | none => .error (.unknownType at' name)
    | some kind =>
      match readKinds at' rest with
      | .ok more => .ok (kind :: more)
      | .error e => .error e

/-- The kinds under the keyword `type`. -/
def readTypes (at' : Location) (d : Document) : Except SchemaError TypeSet := do
  let names ← match d with
    | .string name => .ok [name]
    | .array (item :: items) =>
      allStrings (.invalidKeyword at' "type" .onlyTypeNames) (item :: items)
    | _ => .error (.invalidKeyword at' "type" .typeNames)
  return TypeSet.ofList (← readKinds at' names)

def readStrings (at' : Location) (keyword : String) (d : Document) :
    Except SchemaError (List String) :=
  match d with
  | .array items => allStrings (.invalidKeyword at' keyword .strings) items
  | _ => .error (.invalidKeyword at' keyword .strings)

def readPattern (at' : Location) (d : Document) : Except SchemaError Pattern :=
  match d with
  | .string source =>
    match Pattern.compile source with
    | .ok p => .ok p
    | .error cause => .error (.invalidPattern at' source cause)
  | _ => .error (.invalidKeyword at' "pattern" .aString)

def readMembers (at' : Location) (d : Document) : Except SchemaError (List Document) :=
  match d with
  | .array (item :: items) => .ok (Document.assembleItems (item :: items))
  | _ => .error (.invalidKeyword at' "enum" .members)

def readNumber (at' : Location) (keyword : String) (d : Document) : Except SchemaError Number :=
  match d with
  | .number n => .ok n
  | _ => .error (.invalidKeyword at' keyword .aNumber)

def readCount (at' : Location) (keyword : String) (d : Document) : Except SchemaError Nat :=
  let fault := SchemaError.invalidKeyword at' keyword .aCount
  match d with
  | .number n =>
    match n.toUInt64? with
    | some k => .ok k
    | none => .error fault
  | _ => .error fault

/-- What a keyword without schemas inside it adds to the checks of a value. -/
def readCheck (at' : Location) (keyword : String) (d : Document) (c : Checks) :
    Except SchemaError Checks :=
  match keyword with
  | "type" => do return { c with types := some (← readTypes at' d) }
  | "required" => do return { c with required := ← readStrings at' keyword d }
  | "pattern" => do return { c with pattern := some (← readPattern at' d) }
  | "enum" => do return { c with enumeration := some (← readMembers at' d) }
  | "minimum" => do return { c with minimum := some (← readNumber at' keyword d) }
  | "maximum" => do return { c with maximum := some (← readNumber at' keyword d) }
  | "minLength" => do return { c with minLength := some (← readCount at' keyword d) }
  | "maxLength" => do return { c with maxLength := some (← readCount at' keyword d) }
  | "minItems" => do return { c with minItems := some (← readCount at' keyword d) }
  | "maxItems" => do return { c with maxItems := some (← readCount at' keyword d) }
  | _ => .ok c

/-- What a keyword adds to a schema, where it is known how the schemas for declared keys and the one
schema at a place come out of what the keyword holds. -/
def addKeyword (at' : Location) (declared : Unit → Except SchemaError (List (String × Schema)))
    (compiled : Location → Except SchemaError Schema) (keyword : String) (d : Document)
    (s : Schema) : Except SchemaError Schema :=
  if keyword = "properties" then (declared ()).map s.withProperties
  else if keyword = "additionalProperties" then
    match d.truth? with
    | some true => .ok (s.withAdditional none)
    | some false => .error (.invalidKeyword at' keyword .openObject)
    | none => (compiled (at'.child keyword)).map fun extra => s.withAdditional (some extra)
  else if keyword = "items" then
    if d.isArray then .error (.invalidKeyword at' keyword .oneSchema)
    else (compiled (at'.child keyword)).map fun each => s.withItems (some each)
  else (readCheck at' keyword d s.checks).map fun checks => s.withChecks fun _ => checks

mutual

/-- The schema that stands at a place. -/
def compileNode (follow : Follow) (at' : Location) : Document → Except SchemaError Schema
  | .bool true => .ok any
  | .object entries =>
    match entries.lookup "$ref" with
    | some (.string reference) => follow at' reference
    | some _ => .error (.invalidKeyword at' "$ref" .aString)
    | none => compileKeywords follow at' entries any
  | d => .error (.invalidKeyword at' "schema" (.schema d.jsonKind))

/-- A schema and what further keywords add to it. -/
def compileKeywords (follow : Follow) (at' : Location) :
    List (String × Document) → Schema → Except SchemaError Schema
  | [], s => .ok s
  | (keyword, d) :: rest, s =>
    match addKeyword at' (fun _ => compileDeclarations follow at' d)
        (fun inside => compileNode follow inside d) keyword d s with
    | .ok s => compileKeywords follow at' rest s
    | .error e => .error e

/-- The schemas for the declared keys, under the keyword that declares them. -/
def compileDeclarations (follow : Follow) (at' : Location) :
    Document → Except SchemaError (List (String × Schema))
  | .object entries => compileProperties follow (at'.child "properties") entries
  | _ => .error (.invalidKeyword at' "properties" .anObject)

/-- The schemas for the declared keys. -/
def compileProperties (follow : Follow) (at' : Location) :
    List (String × Document) → Except SchemaError (List (String × Schema))
  | [] => .ok []
  | (name, d) :: rest =>
    match compileNode follow (at'.child name) d with
    | .error e => .error e
    | .ok s =>
      match compileProperties follow at' rest with
      | .ok more => .ok ((name, s) :: more)
      | .error e => .error e

end

end Schema

namespace Library

/-- The places that remain when one has been entered. -/
def without (place : String) (places : List String) : List String := places.filter (· ≠ place)

theorem without_length_lt {place : String} {places : List String} (h : place ∈ places) :
    (without place places).length < places.length := by
  refine List.length_filter_lt_length_iff_exists.2 ⟨place, h, ?_⟩
  simp

/-- The schema that stands at a place, where references may still lead to the given places. -/
def compileAt (lib : Library) (allowed : List String) (at' : Location) (d : Document) :
    Except SchemaError Schema :=
  Schema.compileNode (fun here reference =>
    match lib.find? (here.target reference) with
    | none => .error (.unresolvedReference here reference)
    | some found =>
      if _h : (here.target reference).render ∈ allowed then
        lib.compileAt (without (here.target reference).render allowed) (here.target reference) found
      else .error (.cyclicReference here reference)) at' d
termination_by allowed.length
decreasing_by exact without_length_lt _h

/-- The schema of a document. -/
def compile (lib : Library) (name : String) : Except SchemaError Schema :=
  match lib.documents.lookup name with
  | none => .error (.unknownDocument name)
  | some d => lib.compileAt lib.targets ⟨name, ""⟩ d

/-- The name under which a document without references to others is compiled. -/
def inlineName : String := "<inline>"

/-- The schema of a document by itself. -/
def compileValue (d : Document) : Except SchemaError Schema :=
  (({} : Library).add inlineName d).compile inlineName

end Library

end ManifestCheck
