import ManifestCheck.Proofs.Document.RenderingRoundTrip
import ManifestCheck.Proofs.Schema.GoverningSchema

/-!
# Objects of a text in the loaded document

A path leads through a text as through a document, where of repeated keys the last one counts.  What
stands at its end in the text is kept at its end in the document (`Document.Readable.kept_at?`).  So
every object of a text is loaded as an object with the same keys, but for one whose first key is
`numberKey`: that one is loaded as a number, or the text is not loaded at all
(`Loader.load_object`).
-/

namespace ManifestCheck

namespace Entries

variable {α : Type}

/-- Of repeated keys the last value is found. -/
theorem lookup_ofMembers (key : String) (members : List (String × α)) :
    (ofMembers members).lookup key = members.reverse.lookup key := by
  have behind (entries : List (String × α)) :
      (members.foldl (fun es m => insert m.1 m.2 es) entries).lookup key =
        (members.reverse.lookup key).or (entries.lookup key) := by
    induction members generalizing entries with
    | nil => rfl
    | cons m rest ih =>
      rw [List.foldl_cons, ih, lookup_insert, List.reverse_cons, List.lookup_append,
        Option.or_assoc]
      congr 1
      rw [lookup_cons]
      split <;> rfl
  exact (behind []).trans Option.or_none

theorem lookup_map_snd {β : Type} (f : α → β) (key : String) (entries : List (String × α)) :
    (entries.map fun e => (e.1, f e.2)).lookup key = (entries.lookup key).map f := by
  induction entries with
  | nil => rfl
  | cons e rest ih =>
    rw [List.map_cons, lookup_cons, lookup_cons, ih]
    split <;> rfl

theorem mem_keys_ofMembers {key : String} {members : List (String × α)} :
    key ∈ keys (ofMembers members) ↔ key ∈ keys members := by
  have hnone : members.reverse.lookup key = none ↔ key ∉ keys members.reverse :=
    lookup_eq_none_iff_not_mem_keys
  rw [← lookup_ofMembers, lookup_eq_none_iff_not_mem_keys, not_iff_not] at hnone
  rw [hnone, keys, keys, List.map_reverse, List.mem_reverse]

end Entries

namespace Document

/-- The value one step inside a tree as it is written: of repeated keys the last one counts. -/
def writtenChild? : Segment → Document → Option Document
  | .key name, object members => members.reverse.lookup name
  | .index i, array items => items[i]?
  | _, _ => none

/-- The value that a path leads to in a tree as it is written. -/
def writtenAt? : Path → Document → Option Document
  | [], w => some w
  | step :: rest, w => (w.writtenChild? step).bind (writtenAt? rest)

/-- There is nothing inside a string. -/
theorem eq_string_of_writtenAt? {text : String} {v : Document} {p : Path}
    (h : (string text).writtenAt? p = some v) : v = string text := by
  cases p with
  | nil => exact (Option.some.inj h).symm
  | cons step rest =>
    have hnone : (string text).writtenChild? step = none := by cases step <;> rfl
    rw [writtenAt?, hnone] at h
    cases h

theorem mem_of_writtenChild? {members : List (String × Document)} {name : String}
    {inner : Document} (h : (object members).writtenChild? (.key name) = some inner) :
    (name, inner) ∈ members :=
  List.mem_reverse.mp (Entries.mem_of_lookup h)

theorem Readable.writtenChild? {w inner : Document} {step : Segment} (hw : w.Readable)
    (h : w.writtenChild? step = some inner) : inner.Readable := by
  cases hw with
  | object _ hmembers =>
    cases step with
    | key name => exact hmembers _ (mem_of_writtenChild? h)
    | index i => cases h
  | @numberObject text =>
    cases step with
    | key name =>
      cases List.mem_singleton.mp (mem_of_writtenChild? h)
      exact .string text
    | index i => cases h
  | array hitems =>
    cases step with
    | key name => cases h
    | index i => exact hitems _ (List.mem_of_getElem? h)
  | _ => cases step <;> cases h

/-- One step further in a tree whose value there is no string. -/
theorem Readable.kept_child? {w inner : Document} {step : Segment} (hw : w.Readable)
    (h : w.writtenChild? step = some inner) (hinner : ∀ text, inner ≠ .string text) :
    w.kept.child? step = some inner.kept := by
  cases hw with
  | object hfirst _ =>
    rw [kept_object hfirst]
    cases step with
    | key name =>
      rw [Document.writtenChild?] at h
      rw [child?, Entries.lookup_ofMembers, ← List.map_reverse, Entries.lookup_map_snd, h]
      rfl
    | index i => cases h
  | @numberObject text =>
    cases step with
    | key name =>
      cases List.mem_singleton.mp (mem_of_writtenChild? h)
      exact absurd rfl (hinner text)
    | index i => cases h
  | array _ =>
    rw [kept_array]
    cases step with
    | key name => cases h
    | index i =>
      rw [Document.writtenChild?] at h
      rw [child?, List.getElem?_map, h]
      rfl
  | _ => cases step <;> cases h

/-- A value that is no string is kept where it was written.  A string may also stand in an object
that is kept as a number. -/
theorem Readable.kept_at? {w v : Document} {p : Path} (hw : w.Readable)
    (hv : w.writtenAt? p = some v) (hstring : ∀ text, v ≠ .string text) :
    w.kept.at? p = some v.kept := by
  induction p generalizing w with
  | nil =>
    cases hv
    rfl
  | cons step rest ih =>
    obtain ⟨inner, hinner, hrest⟩ := Option.bind_eq_some_iff.mp hv
    have hno : ∀ text, inner ≠ .string text := by
      rintro text rfl
      exact hstring text (eq_string_of_writtenAt? hrest)
    rw [at?, hw.kept_child? hinner hno]
    exact ih (hw.writtenChild? hinner) hrest

theorem Readable.writtenAt? {w v : Document} {p : Path} (hw : w.Readable)
    (hv : w.writtenAt? p = some v) : v.Readable := by
  induction p generalizing w with
  | nil =>
    cases hv
    exact hw
  | cons step rest ih =>
    obtain ⟨inner, hinner, hrest⟩ := Option.bind_eq_some_iff.mp hv
    exact ih (hw.writtenChild? hinner) hrest

end Document

/-- **Objects are loaded as objects with their keys, but for those that stand for numbers.**  A text
that loads writes a tree, and for every tree that it writes: an object that no later repetition of
a key has replaced is loaded at its place as an object with just its keys, unless its first key is
`numberKey`.  With that key it holds the text of a number and nothing else, and is loaded as that
number. -/
theorem Loader.load_object {l : Loader} {bytes : List UInt8} {d : Document}
    (h : l.load bytes = .ok d) :
    (∃ w : Document, w.WrittenAs bytes) ∧
      ∀ w : Document, w.WrittenAs bytes → ∀ p members, w.writtenAt? p = some (.object members) →
        ((∀ m ∈ members.head?, m.1 ≠ numberKey) ∧ ∃ entries, d.at? p = some (.object entries) ∧
          ∀ key, key ∈ Entries.keys entries ↔ key ∈ Entries.keys members) ∨
        ∃ text, members = [(numberKey, .string text)] ∧ Number.IsNumeral text.toList ∧
          d.at? p = some (.number (Number.kept ⟨text⟩)) := by
  obtain ⟨hread, -⟩ := load_eq_ok_iff.mp h
  obtain ⟨w, hw, -⟩ := Document.exists_writtenAs_of_read hread
  refine ⟨⟨w, hw⟩, fun w hw p members hp => ?_⟩
  obtain ⟨⟨hreadable, -⟩, rfl⟩ := hw.read_eq_ok_iff.mp hread
  have hat := hreadable.kept_at? hp (fun text => nofun)
  cases hreadable.writtenAt? hp with
  | object hfirst _ =>
    rw [Document.kept_object hfirst] at hat
    refine .inl ⟨hfirst, _, hat, fun key => ?_⟩
    rw [Entries.mem_keys_ofMembers, Entries.keys, Entries.keys, List.map_map]
    rfl
  | @numberObject text htext =>
    rw [Document.kept_numberObject] at hat
    exact .inr ⟨text, rfl, htext, hat⟩

theorem Loader.load_object_size :
    ∃ d entries, (Loader.mk 64).load (Utf8.encode
        "\x7b\"size\":\x7b\"a\":\"b\",\"c\":null\x7d\x7d") = .ok d ∧
      d.at? [.key "size"] = some (.object entries) ∧
      ∀ key, key ∈ Entries.keys entries ↔ key ∈ ["a", "c"] := by
  have hwritten := Document.writtenAs_render (d := .object [("size",
    .object [("a", .string "b"), ("c", .null)])]) (.object (by
      simpa using .object (by simpa using ⟨.string "b", .null⟩)))
  obtain ⟨d, hload, -⟩ := exists_ok_of_map (e := (Loader.mk 64).load (Utf8.encode
    "\x7b\"size\":\x7b\"a\":\"b\",\"c\":null\x7d\x7d")) (f := Document.kind) (b := .object)
    (by decide +kernel)
  obtain ⟨-, hobjects⟩ := Loader.load_object hload
  rcases hobjects _ hwritten [.key "size"] _ rfl with ⟨-, entries, hat, hkeys⟩ | ⟨text, hmembers, -⟩
  · exact ⟨d, entries, hload, hat, hkeys⟩
  · cases (List.cons.inj hmembers).2

/-- An object that stands for a number is an integer to whatever looks at the document. -/
theorem Loader.load_numberKey :
    (Document.object [(numberKey, .string "1")]).WrittenAs
        (Utf8.encode "\x7b\"$serde_json::private::Number\":\"1\"\x7d") ∧
      (Loader.mk 64).load (Utf8.encode "\x7b\"$serde_json::private::Number\":\"1\"\x7d") =
        .ok (.number ⟨"1"⟩) ∧
      (Document.number ⟨"1"⟩).kind = .integer := by
  have hwritten := Document.writtenAs_render (d := .object [(numberKey, .string "1")])
    (.object (by simpa using .string "1"))
  have hwhole : Number.IsWhole ['1'] := ⟨⟨by simp, by simp⟩, by simp⟩
  have hnumeral : Number.IsNumeral "1".toList :=
    ⟨[], ['1'], [], [], .inl rfl, hwhole, .inl rfl, .inl rfl, rfl⟩
  have hread := hwritten.read_eq_ok_iff.mpr
    ⟨⟨.numberObject hnumeral, by decide⟩, (Document.kept_numberObject "1").symm⟩
  exact ⟨hwritten, Loader.load_eq_ok_iff.mpr ⟨hread, by decide⟩, by decide⟩

end ManifestCheck
