import ManifestCheck.Proofs.Document.DepthLimit
import ManifestCheck.Proofs.Document.ErrorReasons
import ManifestCheck.Proofs.Document.RenderingRoundTrip
import ManifestCheck.Proofs.Schema.LiteralNumbers
import ManifestCheck.Proofs.Text.EscapedTexts

/-!
# Messages on one line

No message holds a line break, whatever the document and the schema say.  A text from outside is
shown with escapes, a document in its written form, and a number by its literal; the rest is fixed
words and counts.  This is shown of the messages of faults (`Fault.oneLine_message`) and of the
reasons why a document was not loaded (`Loader.oneLine_message`).

A path is another matter: it shows its keys as they are (`Path.oneLine_render_iff`).
-/

namespace ManifestCheck

/-! ## Texts without a line break -/

namespace Text

/-- A text without a line break in it. -/
def OneLine (text : String) : Prop := '\n' ∉ text.toList

instance (text : String) : Decidable (OneLine text) := inferInstanceAs (Decidable (¬_))

theorem oneLine_append {a b : String} : OneLine (a ++ b) ↔ OneLine a ∧ OneLine b := by
  rw [OneLine, String.toList_append, List.mem_append, not_or]
  rfl

theorem OneLine.append {a b : String} (ha : OneLine a) (hb : OneLine b) : OneLine (a ++ b) :=
  oneLine_append.mpr ⟨ha, hb⟩

theorem oneLine_ofList {cs : List Char} : OneLine (String.ofList cs) ↔ '\n' ∉ cs := by
  rw [OneLine, String.toList_ofList]

theorem oneLine_toString (n : Nat) : OneLine (toString n) := by
  intro h
  have hdigit := Nat.isDigit_of_mem_toDigits (by decide) (by decide) (Nat.toList_repr ▸ h)
  cases hdigit

theorem mem_intercalate_iff {α : Type} {a : α} {separator : List α} (h : a ∉ separator)
    {parts : List (List α)} : a ∈ separator.intercalate parts ↔ ∃ part ∈ parts, a ∈ part := by
  induction parts with
  | nil => simp
  | cons part rest ih =>
    cases rest with
    | nil => simp
    | cons next rest =>
      rw [List.intercalate_cons_cons, List.mem_append, List.mem_append, or_iff_left h, ih,
        List.exists_mem_cons_iff (a := part)]

/-- Parts with a separator between them are on one line if each part is. -/
theorem oneLine_intercalate {separator : String} (h : OneLine separator) {parts : List String} :
    OneLine (separator.intercalate parts) ↔ ∀ part ∈ parts, OneLine part := by
  rw [OneLine, String.toList_intercalate, mem_intercalate_iff h]
  simp [OneLine]

end Text

open Text

/-! ## What is shown of texts, numbers and documents -/

theorem Escaped.not_mem_hexDigits (n : Nat) : '\n' ∉ hexDigits n := by
  intro h
  obtain ⟨d, hd, hc⟩ := exists_of_mem_hexDigits h
  exact (by decide : ∀ d < 16, '\n' ≠ Nat.digitChar d) d hd hc

theorem Escaped.oneLine_render (text : String) : OneLine (Escaped.render text) := by
  have escape : ∀ c, '\n' ∉ Escaped.escape c := by
    intro c
    unfold Escaped.escape
    split_ifs with h0 ht hr hn hs hq hshown hcode
    any_goals decide
    · exact fun h => hn (List.mem_singleton.mp h).symm
    · simp [not_mem_hexDigits]
    · exact fun h => hn (List.mem_singleton.mp h).symm
  rw [render, oneLine_ofList]
  simp [escape]

theorem Quoted.oneLine_render (text : String) : OneLine (Quoted.render text) := by
  have digit : ∀ d < 16, hexDigit d ≠ '\n' := by decide
  have escape : ∀ c, '\n' ∉ Quoted.escape c := by
    intro c
    unfold Quoted.escape
    split_ifs with hq hs hb hf hn hr ht hcontrol
    any_goals decide
    · have hhigh := (digit (c.toNat / 16) (by omega)).symm
      have hlow := (digit (c.toNat % 16) (by omega)).symm
      simp [hhigh, hlow]
    · exact fun h => hn (List.mem_singleton.mp h).symm
  rw [render, oneLine_ofList, chars]
  simp [escape]

theorem Number.IsLiteral.oneLine {n : Number} (h : n.IsLiteral) : OneLine n.literal := by
  have digits : ∀ {row : List Char}, IsRow row → '\n' ∉ row := fun hrow hm => by
    cases hrow.2 _ hm
  obtain ⟨minus, whole, fraction, exponent, hminus, hwhole, hfraction, hexponent, hn⟩ := h
  rw [OneLine, hn, List.mem_append, List.mem_append, List.mem_append, not_or, not_or, not_or]
  refine ⟨⟨⟨?_, digits hwhole.1⟩, ?_⟩, ?_⟩
  · rcases hminus with rfl | rfl <;> decide
  · rcases hfraction with rfl | ⟨row, hrow, rfl⟩
    · exact List.not_mem_nil
    · exact List.not_mem_cons_of_ne_of_not_mem (by decide) (digits hrow)
  · rcases hexponent with rfl | ⟨sign, row, hsign, hrow, rfl⟩
    · exact List.not_mem_nil
    · refine List.not_mem_cons_of_ne_of_not_mem (by decide)
        (List.not_mem_cons_of_ne_of_not_mem ?_ (digits hrow))
      rcases hsign with rfl | rfl <;> decide

theorem Document.NumbersLiteral.not_mem_chars {d : Document} (h : d.NumbersLiteral) :
    '\n' ∉ d.chars := by
  induction h with
  | null => decide
  | bool b => cases b <;> decide
  | number hn => exact hn.oneLine
  | string text => exact oneLine_ofList.mp (Quoted.oneLine_render text)
  | @array items _ ih =>
    cases items with
    | nil => decide
    | cons d ds =>
      obtain ⟨hd, hds⟩ := List.forall_mem_cons.mp ih
      have hrest : ∀ e ∈ ds, '\n' ∉ ',' :: e.chars := fun e he =>
        List.not_mem_cons_of_ne_of_not_mem (by decide) (hds e he)
      rw [chars, charsItems_cons]
      simpa [hd] using hds
  | @object entries _ ih =>
    cases entries with
    | nil => decide
    | cons e es =>
      have member : ∀ m ∈ e :: es, '\n' ∉ memberChars m := fun m hm => by
        have hkey := oneLine_ofList.mp (Quoted.oneLine_render m.1)
        simpa [memberChars, hkey] using ih m hm
      obtain ⟨he, hes⟩ := List.forall_mem_cons.mp member
      rw [chars, charsEntries_cons]
      simpa [he] using fun key d hd => hes (key, d) hd

theorem Document.NumbersLiteral.oneLine_render {d : Document} (h : d.NumbersLiteral) :
    OneLine d.render := oneLine_ofList.mpr h.not_mem_chars

theorem TypeSet.oneLine_render (s : TypeSet) : OneLine s.render := by
  have name : ∀ k : Kind, OneLine k.name := fun k => by cases k <;> decide
  unfold TypeSet.render
  split
  · exact name _
  · refine .append (.append (by decide) ((oneLine_intercalate (by decide)).mpr ?_)) (by decide)
    exact List.forall_mem_map.mpr fun k _ => name k

/-! ## Messages -/

/-- **The message of a fault is on one line.** -/
theorem Fault.oneLine_message {f : Fault} (h : f.NumbersLiteral) : OneLine f.message := by
  have unitName : ∀ unit : CountUnit, OneLine unit.name := fun unit => by cases unit <;> decide
  cases f with
  | wrongType expected actual =>
    have hkind : OneLine actual.name := by cases actual <;> decide
    exact .append (.append (.append (by decide) expected.oneLine_render) (by decide)) hkind
  | missing property => exact .append (by decide) (Escaped.oneLine_render property)
  | tooFew unit count bound | tooMany unit count bound =>
    exact .append (.append (.append (.append (.append (by decide) (oneLine_toString count))
      (by decide)) (unitName unit)) (by decide)) (oneLine_toString bound)
  | tooSmall value bound | tooLarge value bound =>
    exact .append (.append h.1.oneLine (by decide)) h.2.oneLine
  | unmatched value pattern =>
    exact .append (.append (Escaped.oneLine_render value) (by decide))
      (Escaped.oneLine_render pattern)
  | unlisted value options =>
    refine .append (.append (.append h.1.oneLine_render (by decide))
      ((oneLine_intercalate (by decide)).mpr ?_)) (by decide)
    exact List.forall_mem_map.mpr fun o ho => (h.2 o ho).oneLine_render

theorem SyntaxReason.QuotesLiterals.oneLine_message {reason : SyntaxReason}
    (h : reason.QuotesLiterals) : OneLine reason.message := by
  induction reason with
  | badNumberText cause ih => exact ih h
  | notNumberText found =>
    have hfound : OneLine found.describe := by
      cases found with
      | integer literal =>
        exact .append (.append (by decide) (Number.IsLiteral.oneLine h)) (by decide)
      | bool b => cases b <;> decide
      | _ => decide
    exact .append (.append (by decide) hfound) (by decide)
  | _ => decide

/-- **The message of a loader is on one line.** -/
theorem Loader.oneLine_message {l : Loader} {bytes : List UInt8} {e : LoadError}
    (h : l.load bytes = .error e) : OneLine e.message := by
  have tooDeep : OneLine (LoadError.tooDeep l.maxDepth).message :=
    .append (by decide) (oneLine_toString l.maxDepth)
  cases hread : Document.read bytes with
  | ok d =>
    rw [load, hread] at h
    dsimp only at h
    rw [withinLimit_eq] at h
    split at h
    · cases h
    · cases h
      exact tooDeep
  | error cause =>
    rw [load, hread] at h
    cases h
    unfold Loader.report
    split
    · exact tooDeep
    · have hreason : OneLine cause.reason.message :=
        ((Document.read_failsPlainly bytes).quotesLiterals cause hread).oneLine_message
      have hcategory : OneLine cause.category.describe := by cases cause.category <;> decide
      have hplace : OneLine cause.place :=
        .append (.append (.append (by decide) (oneLine_toString _)) (by decide))
          (oneLine_toString _)
      exact .append (.append (.append (.append (.append (by decide) hcategory) (by decide)) hplace)
        (by decide)) hreason

/-! ## Paths -/

/-- A path is on one line just if its keys are. -/
theorem Path.oneLine_render_iff {p : Path} :
    OneLine p.render ↔ ∀ key, .key key ∈ p → OneLine key := by
  rw [Path.render, oneLine_intercalate (by decide), List.forall_mem_map]
  constructor
  · exact fun h key hkey => h _ hkey
  · intro h step hstep
    cases step with
    | key key => exact h key hstep
    | index i => exact oneLine_toString i

theorem Violation.oneLine_render_iff {v : Violation} (h : v.fault.NumbersLiteral) :
    OneLine v.render ↔ ∀ key, .key key ∈ v.path → OneLine key := by
  have hmessage : OneLine v.message := Fault.oneLine_message h
  rw [render, oneLine_append, oneLine_append, and_iff_left hmessage, and_iff_left (by decide)]
  split
  · rename_i hempty
    rw [List.isEmpty_iff.mp hempty]
    exact iff_of_true (by decide) fun _ hkey => absurd hkey List.not_mem_nil
  · exact Path.oneLine_render_iff

end ManifestCheck
