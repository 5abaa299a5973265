import ManifestCheck.Proofs.Document.DepthLimit
import ManifestCheck.Proofs.Document.DistinctKeys
import ManifestCheck.Proofs.Document.TextReading

/-!
# What holds of every document that was read

A document that was read is what is kept of a tree that was written, so it comes about in four ways:
as a scalar, as a list of what is kept of values, as an object whose entries result from inserting
such members, and as a number that an object stands for.  A property that these ways keep holds of
every document that was read (`read_induction`).

Two properties follow, and hold of documents that were loaded: no object has a key twice, and every
number has a literal of the grammar.
-/

namespace ManifestCheck

/-! ## The induction -/

section Induction

variable {P : Document → Prop} (null : P .null) (bool : ∀ b, P (.bool b))
  (number : ∀ n : Number, n.IsLiteral → P (.number n)) (string : ∀ s, P (.string s))
  (array : ∀ items, (∀ d ∈ items, P d) → P (.array items))
  (object : ∀ members : List (String × Document), (∀ m ∈ members, P m.2) →
    P (.object (Entries.ofMembers members)))

include null bool number string array object

/-- What is kept of a tree that is written and that the reader lets in. -/
theorem Document.Readable.kept_induction {w : Document} {own : List UInt8} (h : w.Readable)
    (hw : Grammar.Value w own) : P w.kept := by
  induction h generalizing own with
  | null => exact null
  | bool b => exact bool b
  | number n =>
    cases hw with
    | number hn => exact number _ (Number.isLiteral_kept hn)
  | string text => exact string text
  | @array items _ ih =>
    cases hw with
    | array hparts =>
      rw [kept_array]
      refine array _ (List.forall_mem_map.mpr fun d hd => ?_)
      obtain ⟨inner, hinner, -⟩ := hparts.exists_of_mem hd
      exact ih d hd hinner
  | @object members hfirst _ ih =>
    cases hw with
    | object hparts =>
      rw [kept_object hfirst]
      refine object _ (List.forall_mem_map.mpr fun m hm => ?_)
      obtain ⟨inner, hinner, -⟩ := hparts.exists_of_mem hm
      cases hinner with
      | colon _ _ _ hvalue => exact ih _ hm hvalue
  | @numberObject text htext =>
    rw [kept_numberObject]
    exact number _ (Number.isLiteral_kept htext)

/-- **Induction on what was read.**  A property of scalars whose numbers are literals, of lists of
such documents and of objects made by inserting such members is one of every document read. -/
theorem read_induction {bytes : List UInt8} {d : Document} (h : Document.read bytes = .ok d) :
    P d := by
  obtain ⟨w, ⟨before, own, behind, -, hw, -⟩, ⟨hreadable, -⟩, rfl⟩ :=
    Document.exists_writtenAs_of_read h
  exact hreadable.kept_induction null bool number string array object hw

end Induction

/-! ## Distinct keys and literals -/

namespace Document

/-- The numbers in a document all have literals of the grammar. -/
inductive NumbersLiteral : Document → Prop
  | null : NumbersLiteral .null
  | bool (b : Bool) : NumbersLiteral (.bool b)
  | number {n : Number} : n.IsLiteral → NumbersLiteral (.number n)
  | string (s : String) : NumbersLiteral (.string s)
  | array {items : List Document} : (∀ d ∈ items, NumbersLiteral d) → NumbersLiteral (.array items)
  | object {entries : List (String × Document)} :
    (∀ e ∈ entries, NumbersLiteral e.2) → NumbersLiteral (.object entries)

theorem NumbersLiteral.get? {d v : Document} {key : String} (h : d.NumbersLiteral)
    (hv : d.get? key = some v) : v.NumbersLiteral := by
  cases h with
  | object he => exact he _ (Entries.mem_of_lookup hv)
  | _ => cases hv

theorem NumbersLiteral.element {elements : List Document} {e : Document}
    (h : (Document.array elements).NumbersLiteral) (he : e ∈ elements) : e.NumbersLiteral := by
  cases h with
  | array hall => exact hall e he

theorem NumbersLiteral.entry {entries : List (String × Document)} {e : String × Document}
    (h : (Document.object entries).NumbersLiteral) (he : e ∈ entries) : e.2.NumbersLiteral := by
  cases h with
  | object hall => exact hall e he

theorem NumbersLiteral.child? {step : Segment} {d inner : Document} (h : d.NumbersLiteral)
    (hi : d.child? step = some inner) : inner.NumbersLiteral := by
  unfold Document.child? at hi
  split at hi
  · exact h.entry (Entries.mem_of_lookup hi)
  · exact h.element (List.mem_of_getElem? hi)
  · cases hi

theorem keysDistinct_ofMembers {members : List (String × Document)}
    (h : ∀ m ∈ members, m.2.keysDistinct = true) :
    (object (Entries.ofMembers members)).keysDistinct = true :=
  keysDistinct_object.mpr
    ⟨Entries.nodup_keys_ofMembers members, fun e he => h e (Entries.mem_of_mem_ofMembers he)⟩

theorem keysDistinct_of_read {bytes : List UInt8} {d : Document} (h : read bytes = .ok d) :
    d.keysDistinct = true :=
  read_induction (P := fun d => d.keysDistinct = true) rfl (fun _ => rfl) (fun _ _ => rfl)
    (fun _ => rfl) (fun _ h => keysDistinct_array.mpr h) (fun _ h => keysDistinct_ofMembers h) h

theorem numbersLiteral_of_read {bytes : List UInt8} {d : Document} (h : read bytes = .ok d) :
    d.NumbersLiteral :=
  read_induction .null .bool (fun _ => .number) .string (fun _ => .array)
    (fun _ h => .object fun e he => h e (Entries.mem_of_mem_ofMembers he)) h

theorem keysDistinct_of_load {l : Loader} {bytes : List UInt8} {d : Document}
    (h : l.load bytes = .ok d) : d.keysDistinct = true :=
  keysDistinct_of_read (Loader.load_eq_ok_iff.mp h).1

theorem numbersLiteral_of_load {l : Loader} {bytes : List UInt8} {d : Document}
    (h : l.load bytes = .ok d) : d.NumbersLiteral :=
  numbersLiteral_of_read (Loader.load_eq_ok_iff.mp h).1

end Document

end ManifestCheck
