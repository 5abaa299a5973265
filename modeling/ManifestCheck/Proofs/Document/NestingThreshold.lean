import ManifestCheck.Proofs.Document.RenderingRoundTrip

/-!
# The limit on nesting is one threshold

Two guards keep documents from being nested too deep: the reader opens no container inside
`maxOpenContainers` others, and the loader counts depths up to its own limit.  Together they act as
one threshold on the nesting of the document (`Loader.load_threshold`).  What the reader lets through
is never nested deeper than it can open containers, so for a loader whose limit is that number its
own count never decides anything.
-/

namespace ManifestCheck

/-- The reader lets through only what it has containers for. -/
theorem Document.nesting_le_of_read {bytes : List UInt8} {d : Document}
    (h : Document.read bytes = .ok d) : d.nesting ≤ maxOpenContainers := by
  obtain ⟨w, -, ⟨hreadable, hnesting⟩, rfl⟩ := Document.exists_writtenAs_of_read h
  exact hreadable.nesting_kept_le.trans hnesting

namespace Loader

/-- The loader with the greatest limit that the reader can reach. -/
def widest : Loader := ⟨maxOpenContainers⟩

variable {bytes : List UInt8}

theorem load_widest_eq_ok_iff {d : Document} :
    widest.load bytes = .ok d ↔ Document.read bytes = .ok d := by
  rw [load_eq_ok_iff]
  exact and_iff_left_of_imp Document.nesting_le_of_read

theorem load_widest_eq_tooDeep_iff {limit : Nat} :
    widest.load bytes = .error (.tooDeep limit) ↔
      limit = maxOpenContainers ∧ ∃ e, Document.read bytes = .error e ∧ e.reason = .tooDeep := by
  rw [load_eq_tooDeep_iff]
  refine and_congr_right fun _ => or_iff_left ?_
  intro h
  obtain ⟨d, hread, hdeep⟩ := h
  exact absurd (Document.nesting_le_of_read hread) (Nat.not_le.mpr hdeep)

/-- **Loading with a limit.**  A loader accepts what the widest one accepts and is nested no deeper
than its limit, and the document is the same.  It finds too deep, naming its own limit, what the
widest one finds too deep and what that one accepts with more nesting.  Syntax errors are the same
for every limit.  So no two limits lead to two documents, and a greater limit accepts all that a
smaller one does. -/
theorem load_threshold (l : Loader) (bytes : List UInt8) :
    (∀ d, l.load bytes = .ok d ↔ widest.load bytes = .ok d ∧ d.nesting ≤ l.maxDepth) ∧
      (∀ limit, l.load bytes = .error (.tooDeep limit) ↔ limit = l.maxDepth ∧
        (widest.load bytes = .error (.tooDeep maxOpenContainers) ∨
          ∃ d, widest.load bytes = .ok d ∧ l.maxDepth < d.nesting)) ∧
      (∀ (l' : Loader) e,
        l.load bytes = .error (.syntaxError e) ↔ l'.load bytes = .error (.syntaxError e)) ∧
      (∀ (l' : Loader) d d', l.load bytes = .ok d → l'.load bytes = .ok d' → d = d') ∧
      (∀ (l' : Loader) d, l.maxDepth ≤ l'.maxDepth → l.load bytes = .ok d →
        l'.load bytes = .ok d) := by
  refine ⟨fun d => ?_, fun limit => ?_, fun l' e => ?_, fun l' d d' hd hd' => ?_,
    fun l' d hle hd => ?_⟩
  · rw [load_eq_ok_iff, load_widest_eq_ok_iff]
  · rw [load_eq_tooDeep_iff, load_widest_eq_tooDeep_iff]
    simp only [true_and, load_widest_eq_ok_iff]
  · rw [load_eq_syntaxError_iff, load_eq_syntaxError_iff]
  · have hread := (load_eq_ok_iff.mp hd).1
    have hread' := (load_eq_ok_iff.mp hd').1
    exact Except.ok.inj (hread.symm.trans hread')
  · obtain ⟨hread, hnesting⟩ := load_eq_ok_iff.mp hd
    exact load_eq_ok_iff.mpr ⟨hread, hnesting.trans hle⟩

end Loader

end ManifestCheck
