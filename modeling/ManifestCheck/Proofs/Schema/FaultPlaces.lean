import ManifestCheck.Proofs.Schema.CompilationFaults
import ManifestCheck.Proofs.Text.Fields

/-!
# The places that errors name

While a schema is compiled, a place is carried along with each value.  It is only written into
complaints, and nothing but care keeps the two together.  Here it is shown that the value stands at
the place (`Expands.find?_eq_some`): a step to a key is written with its tildes and slashes escaped,
and a pointer undoes that (`Pointer.unescape_escape`), so that one step more in a pointer is one
step further inside, whatever the key.

Therefore the place in an error can be looked up, and what stands there is the value that the error
is about (`compile_error_placed`).
-/

namespace ManifestCheck

open Document (lookup_of_keysDistinct)
open Relation

/-! ## One step further in a pointer -/

namespace Pointer

theorem unescape_cons {c : Char} (h : c ≠ '~') (rest : List Char) :
    unescape (c :: rest) = c :: unescape rest := by
  rw [unescape.eq_def]
  split
  · rename_i heq
    cases heq
    exact absurd rfl h
  · rename_i heq
    cases heq
    exact absurd rfl h
  · rename_i heq
    cases heq
    rfl
  · rename_i heq
    cases heq

theorem escape_cons (c : Char) (rest : List Char) : escape (c :: rest) =
    (if c = '~' then ['~', '0'] else if c = '/' then ['~', '1'] else [c]) ++ escape rest := rfl

/-- **Escaping is undone**, whatever stands in the step. -/
theorem unescape_escape (step : List Char) : unescape (escape step) = step := by
  induction step with
  | nil => rfl
  | cons c rest ih =>
    rw [escape_cons]
    by_cases htilde : c = '~'
    · rw [if_pos htilde, htilde]
      exact congrArg ('~' :: ·) ih
    · rw [if_neg htilde]
      by_cases hslash : c = '/'
      · rw [if_pos hslash, hslash]
        exact congrArg ('/' :: ·) ih
      · rw [if_neg hslash, List.singleton_append, unescape_cons htilde, ih]

theorem slash_not_mem_escape (step : List Char) : '/' ∉ escape step := by
  intro h
  obtain ⟨c, -, hc⟩ := List.mem_flatMap.mp h
  split at hc
  · revert hc
    decide
  · split at hc
    · revert hc
      decide
    · rename_i hslash
      exact hslash (List.mem_singleton.mp hc).symm

/-- A pointer with one step more, escaped, has one step more. -/
theorem steps?_append {pointer : List Char} {steps : List (List Char)}
    (h : steps? pointer = some steps) (step : List Char) :
    steps? (pointer ++ '/' :: escape step) = some (steps ++ [step]) := by
  have hfields : (Text.fields '/' (escape step)).map unescape = [step] := by
    rw [Text.fields_of_not_mem (slash_not_mem_escape step), List.map_singleton, unescape_escape]
  unfold steps? at h
  split at h
  · cases h
    rw [List.nil_append, steps?, hfields, List.nil_append]
  · cases h
    rw [List.cons_append, steps?, Text.fields_append, List.map_append, hfields]
  · cases h

end Pointer

namespace Document

theorem follow?_append (steps more : List (List Char)) (d : Document) :
    d.follow? (steps ++ more) = (d.follow? steps).bind (follow? more) := by
  induction steps generalizing d with
  | nil => rfl
  | cons step rest ih =>
    rw [List.cons_append, follow?, follow?, Option.bind_assoc]
    exact congrArg _ (funext ih)

end Document

/-! ## Places and what stands at them -/

/-- The place that an error names. -/
def SchemaError.place? : SchemaError → Option Location
  | invalidKeyword l _ _ => some l
  | unknownType l _ => some l
  | invalidPattern l _ _ => some l
  | unresolvedReference l _ => some l
  | cyclicReference l _ => some l
  | _ => none

namespace Library

variable {lib : Library} {name : String}

/-- **A place one step further inside holds what is one step inside.** -/
theorem find?_child {l : Location} {entries : List (String × Document)}
    (h : lib.find? l = some (.object entries)) (key : String) :
    lib.find? (l.child key) = entries.lookup key := by
  obtain ⟨root, hroot, hpointer⟩ := Option.bind_eq_some_iff.mp h
  obtain ⟨steps, hsteps, hfollow⟩ := Option.bind_eq_some_iff.mp hpointer
  have hchars : (l.child key).pointer.toList =
      l.pointer.toList ++ '/' :: Pointer.escape key.toList := by
    simp [Location.child]
  have hstep : (Document.object entries).follow? [key.toList] = entries.lookup key := by
    rw [Document.follow?, Document.step?, String.ofList_toList]
    exact Option.bind_fun_some _
  have hdocument : lib.documents.lookup (l.child key).document = some root := hroot
  rw [find?, hdocument, Option.bind_some, Document.pointer?, hchars, Pointer.steps?_append hsteps,
    Option.bind_some, Document.follow?_append, hfollow, Option.bind_some, hstep]

theorem find?_root {d : Document} (h : lib.documents.lookup name = some d) :
    lib.find? ⟨name, ""⟩ = some d := by
  rw [find?, h]
  rfl

/-- What is inside an object stands at its place. -/
theorem find?_inside {l l' : Location} {entries : List (String × Document)} {d : Document}
    (h : lib.find? l = some (.object entries))
    (hd : (Document.object entries).keysDistinct = true) (hi : Schema.Inside l entries l' d) :
    lib.find? l' = some d := by
  cases hi with
  | declared hp hm =>
    have hinner : (Document.object _).keysDistinct = true :=
      (Document.keysDistinct_object.mp hd).2 _ hp
    rw [find?_child ((find?_child h _).trans (lookup_of_keysDistinct hd hp)),
      lookup_of_keysDistinct hinner hm]
  | additional ha => rw [find?_child h, lookup_of_keysDistinct hd ha]
  | items hm => rw [find?_child h, lookup_of_keysDistinct hd hm]

/-- **A value that is compiled stands at the place that is carried along.** -/
theorem Expands.find?_eq_some (hlib : lib.KeysDistinct) {chain : List Location} {l : Location}
    {d : Document} (h : lib.Expands name chain l d) : lib.find? l = some d := by
  induction h with
  | root hr => exact find?_root hr
  | inside _ _ hi ih => exact find?_inside ih (keysDistinct_find? hlib ih) hi
  | reference _ _ hf => exact hf

theorem Expands.exists_root {chain : List Location} {l : Location} {d : Document}
    (h : lib.Expands name chain l d) : ∃ start, lib.documents.lookup name = some start := by
  induction h with
  | root hr => exact ⟨_, hr⟩
  | inside _ _ _ ih => exact ih
  | reference _ _ _ _ ih => exact ih

/-! ## What errors say of the value at their place -/

/-- A reference in the document of one name leads nowhere.  The text before the first number sign is
the name of no document, or the text behind it is a pointer to nothing in the document of that
name. -/
def LeadsNowhere (lib : Library) (name reference : String) : Prop :=
  ∃ before pointer : List Char, '#' ∉ before ∧
    (reference.toList = before ++ '#' :: pointer ∨ reference.toList = before ∧ pointer = []) ∧
    ∃ name', name' = (if before = [] then name else String.ofList before) ∧
      (lib.documents.lookup name' = none ∨
        ∃ root, lib.documents.lookup name' = some root ∧
          root.pointer? (String.ofList pointer) = none)

theorem leadsNowhere_of_find? {l : Location} {reference : String}
    (h : lib.find? (l.target reference) = none) : lib.LeadsNowhere l.document reference := by
  obtain ⟨before, pointer, hb, hs⟩ := exists_split reference
  rw [target_of_split hb hs] at h
  refine ⟨before, pointer, hb, hs, _, rfl, ?_⟩
  unfold find? at h
  cases hroot : lib.documents.lookup (if before = [] then l.document else String.ofList before) with
  | none => exact .inl rfl
  | some root =>
    rw [hroot] at h
    exact .inr ⟨root, rfl, h⟩

/-- An error is about a value in the document of a name: the value is as the error says. -/
def About (lib : Library) (name : String) (d : Document) : SchemaError → Prop
  | .invalidKeyword _ keyword _ =>
    if keyword = "schema" then d ≠ .bool true ∧ ∀ entries, d ≠ .object entries
    else ∃ value, d.get? keyword = some value ∧ value.fits keyword = false
  | .unknownType _ type => ∃ value names, d.get? "type" = some value ∧
      value.typeNames? = some names ∧ type ∈ names ∧ Kind.ofName? type = none
  | .invalidPattern _ source cause =>
    d.get? "pattern" = some (.string source) ∧ Pattern.compile source = .error cause
  | .unresolvedReference _ reference =>
    d.get? "$ref" = some (.string reference) ∧ lib.LeadsNowhere name reference
  | .cyclicReference _ reference => d.get? "$ref" = some (.string reference) ∧
      ∃ name' found, lib.Leads name reference name' found
  | _ => False

theorem about_of_ownFault {l : Location} {d : Document} {e : SchemaError}
    (hd : d.keysDistinct = true) (h : Schema.OwnFault l d e) :
    e.place? = some l ∧ lib.About name d e := by
  cases h with
  | noSchema ht ho => exact ⟨rfl, ht, ho⟩
  | @misshapen _ keyword _ _ hm hf =>
    have hkeyword : keyword ≠ "schema" := by
      rintro rfl
      cases hf
    refine ⟨rfl, ?_⟩
    rw [About, if_neg hkeyword]
    exact ⟨_, lookup_of_keysDistinct hd hm, hf⟩
  | unknownType hm hn hname hu => exact ⟨rfl, _, _, lookup_of_keysDistinct hd hm, hn, hname, hu⟩
  | invalidPattern hm hc => exact ⟨rfl, lookup_of_keysDistinct hd hm, hc⟩

theorem FailsAt.about {chain : List Location} {l : Location} {d : Document} {e : SchemaError}
    (hd : d.keysDistinct = true) (h : lib.FailsAt chain l d e) :
    e.place? = some l ∧ lib.About l.document d e := by
  cases h with
  | own hown => exact about_of_ownFault hd hown
  | unresolved hr hf => exact ⟨rfl, hr, leadsNowhere_of_find? hf⟩
  | cyclic hr hf => exact ⟨rfl, hr, _, _, leads_iff.mpr ⟨rfl, hf⟩⟩

/-- **The place in an error can be looked up.**  If compiling the document of a name fails with an
error that names a place, then the place is written as the name of a document, a number sign and a
pointer that leads to a value in this document; the value is reached from the root, through
references and what is inside objects; and the error is about this value. -/
theorem compile_error_placed (hlib : lib.KeysDistinct) {e : SchemaError} {l : Location}
    (h : lib.compile name = .error e) (hl : e.place? = some l) :
    ∃ start root d, lib.documents.lookup name = some start ∧
      l.render = l.document ++ "#" ++ l.pointer ∧
      lib.documents.lookup l.document = some root ∧ root.pointer? l.pointer = some d ∧
      ReflTransGen lib.Needs (name, start) (l.document, d) ∧ lib.About l.document d e := by
  rcases expands_of_compile_error h with he | ⟨chain, k, d, hx, hfails⟩
  · rw [he] at hl
    cases hl
  · have hfound := hx.find?_eq_some hlib
    obtain ⟨root, hroot, hpointer⟩ := Option.bind_eq_some_iff.mp hfound
    obtain ⟨start, hstart⟩ := hx.exists_root
    obtain ⟨hd, hreach, -⟩ := hx.reaches hlib hstart
    obtain ⟨hplace, habout⟩ := hfails.about hd
    cases hl.symm.trans hplace
    exact ⟨start, root, d, hstart, rfl, hroot, hpointer, hreach, habout⟩

/-- The type name at which compilation ends because there is no such type, and where it stands. -/
def unknownType? (compiled : Except SchemaError Schema) : Option (Location × String) :=
  match compiled with
  | .error (.unknownType l type) => some (l, type)
  | _ => none

theorem eq_error_of_unknownType? {compiled : Except SchemaError Schema} {l : Location}
    {type : String} (h : unknownType? compiled = some (l, type)) :
    compiled = .error (.unknownType l type) := by
  unfold unknownType? at h
  split at h
  · cases h
    rfl
  · cases h

/-- Two documents: a reference leads from the one to the other, and there, under a key with a tilde
and a slash in it, is a type that does not exist. -/
def misnamed : Library := ⟨[
  ("a", .object [("properties", .object [("x", .object [("$ref", .string "b#/definitions/y")])])]),
  ("b", .object [("definitions", .object [("y", .object [("properties", .object [
    ("~/z", .object [("type", .array [.string "null", .string "nil"])])])])])])]⟩

theorem misnamed_placed : ∃ start root d, misnamed.documents.lookup "a" = some start ∧
    (⟨"b", "/definitions/y/properties/~0~1z"⟩ : Location).render =
      "b" ++ "#" ++ "/definitions/y/properties/~0~1z" ∧
    misnamed.documents.lookup "b" = some root ∧
    root.pointer? "/definitions/y/properties/~0~1z" = some d ∧
    ReflTransGen misnamed.Needs ("a", start) ("b", d) ∧
    misnamed.About "b" d (.unknownType ⟨"b", "/definitions/y/properties/~0~1z"⟩ "nil") := by
  have hlib : misnamed.KeysDistinct := by
    unfold KeysDistinct
    decide +kernel
  have h : misnamed.compile "a" =
      .error (.unknownType ⟨"b", "/definitions/y/properties/~0~1z"⟩ "nil") :=
    eq_error_of_unknownType? (by decide +kernel)
  exact compile_error_placed hlib h rfl

end Library

end ManifestCheck
