import ManifestCheck.Proofs.Document.DepthLimit
import ManifestCheck.Proofs.Document.RenderingRoundTrip

/-!
# Two ways to make a document

What was read becomes a document in two ways.  A loader counts how deep it is and puts the entries
of an object behind each other without looking, because their keys are distinct; the members of a
list in a schema are assembled by inserting every entry, wherever its key may stand already, and
nobody counts.  Where keys are distinct inserting is putting behind each other, so that assembling
changes nothing (`Document.assemble_eq_self`), and both ways make the same document as long as the
limit is kept (`Loader.convert_eq_assemble`).
-/

namespace ManifestCheck

namespace Document

theorem assembleItems_eq_map (items : List Document) : assembleItems items = items.map assemble := by
  induction items with
  | nil => rfl
  | cons d ds ih => rw [assembleItems, ih, List.map_cons]

theorem assembleEntries_eq_map (entries : List (String × Document)) :
    assembleEntries entries = entries.map fun e => (e.1, e.2.assemble) := by
  induction entries with
  | nil => rfl
  | cons e rest ih => rw [assembleEntries, ih, List.map_cons]

theorem assemble_array (items : List Document) :
    (array items).assemble = array (items.map assemble) := by
  rw [assemble, assembleItems_eq_map]

theorem assemble_object (entries : List (String × Document)) :
    (object entries).assemble =
      object (Entries.ofMembers (entries.map fun e => (e.1, e.2.assemble))) := by
  rw [assemble, assembleEntries_eq_map]

/-- **Assembling changes nothing where keys are distinct.** -/
theorem assemble_eq_self {d : Document} (h : d.keysDistinct = true) : d.assemble = d := by
  induction d using Document.inductionOn with
  | null | bool _ | number _ | string _ => rfl
  | array items ih =>
    have hitems : items.map assemble = items.map id :=
      List.map_congr_left fun d hd => ih d hd (keysDistinct_array.mp h d hd)
    rw [assemble_array, hitems, List.map_id]
  | object entries ih =>
    obtain ⟨hkeys, hvalues⟩ := keysDistinct_object.mp h
    have hentries : (entries.map fun e => (e.1, e.2.assemble)) = entries.map id :=
      List.map_congr_left fun e he => Prod.ext rfl (ih e he (hvalues e he))
    rw [assemble_object, hentries, List.map_id, Entries.ofMembers_of_nodup hkeys]

theorem NumbersLiteral.assemble {d : Document} (h : d.NumbersLiteral) :
    d.assemble.NumbersLiteral := by
  induction h with
  | null => exact .null
  | bool b => exact .bool b
  | number hn => exact .number hn
  | string s => exact .string s
  | array _ ih =>
    rw [assemble_array]
    exact .array (List.forall_mem_map.mpr ih)
  | object _ ih =>
    rw [assemble_object]
    refine .object fun e he => ?_
    obtain ⟨e', he', rfl⟩ := List.mem_map.mp (Entries.mem_of_mem_ofMembers he)
    exact ih e' he'

end Document

/-- **Loading and assembling make the same document**, where the limit of the loader is kept. -/
theorem Loader.convert_eq_assemble (l : Loader) {d : Document} (h : d.keysDistinct = true) :
    l.convert 1 d =
      if d.nesting ≤ l.maxDepth then .ok d.assemble else .error (.tooDeep l.maxDepth) := by
  rw [Document.assemble_eq_self h]
  exact l.withinLimit_eq d

end ManifestCheck
