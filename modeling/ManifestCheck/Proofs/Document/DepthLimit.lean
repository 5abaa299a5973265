import ManifestCheck.Loader

/-!
# Two guards on nesting

A loader has two ways to find a document too deep.  It counts depths from the root on while it
converts what was read, and it knows the reader's own refusal by its words.

Counting from the root finds just what `Document.nesting` says: a document that is nested no deeper
than the limit comes out as it is, and any other is refused (`Loader.withinLimit_eq`).  And no other
error of the reader begins with the words of its refusal (`SyntaxError.isRefusal_iff`).  With both,
each outcome of loading is one of reading (`Loader.load_eq_ok_iff` and behind it).
-/

namespace ManifestCheck

/-- Induction on a document: a property holds of one whenever it holds of all values inside. -/
theorem Document.inductionOn {motive : Document → Prop} (d : Document) (null : motive .null)
    (bool : ∀ b, motive (.bool b)) (number : ∀ n, motive (.number n))
    (string : ∀ s, motive (.string s))
    (array : ∀ items, (∀ d ∈ items, motive d) → motive (.array items))
    (object : ∀ entries, (∀ e ∈ entries, motive e.2) → motive (.object entries)) : motive d :=
  @Document.rec motive (fun ds => ∀ d ∈ ds, motive d) (fun es => ∀ e ∈ es, motive e.2)
    (fun e => motive e.2) null bool number string array object
    (fun _ h => absurd h List.not_mem_nil)
    (fun _ _ head tail d hd => by
      rcases List.mem_cons.mp hd with rfl | hd
      · exact head
      · exact tail d hd)
    (fun _ h => absurd h List.not_mem_nil)
    (fun _ _ head tail e he => by
      rcases List.mem_cons.mp he with rfl | he
      · exact head
      · exact tail e he)
    (fun _ _ h => h) d

/-! ## Counting from the root -/

namespace Loader

variable {l : Loader} {depth : Nat}

/-- What goes down to some depth, if that is at most one step below the limit: a container that is
empty there does not fit any more, a scalar does. -/
def held {α : Type} (l : Loader) (bottom : Nat) (x : α) : Except LoadError α :=
  if bottom ≤ l.maxDepth + 1 then .ok x else .error (.tooDeep l.maxDepth)

/-- Two parts held to the limit one after the other are held to it as the deeper one is. -/
theorem held_both {α β γ : Type} (l : Loader) (m n : Nat) (a : α) (b : β) (f : α → β → γ) :
    ((l.held m a).bind fun made => (l.held n b).map (f made)) = l.held (max m n) (f a b) := by
  unfold held
  by_cases hm : m ≤ l.maxDepth + 1
  · by_cases hn : n ≤ l.maxDepth + 1
    · rw [if_pos hm, if_pos hn, if_pos (Nat.max_le.mpr ⟨hm, hn⟩)]
      rfl
    · rw [if_pos hm, if_neg hn, if_neg fun h => hn (Nat.max_le.mp h).2]
      rfl
  · rw [if_neg hm, if_neg fun h => hm (Nat.max_le.mp h).1]
    rfl

theorem convertItems_eq (hdepth : depth ≤ l.maxDepth + 1) {items : List Document}
    (h : ∀ d ∈ items, l.convert depth d = l.held (depth + d.nesting) d) :
    l.convertItems depth items = l.held (depth + Document.nestingItems items) items := by
  induction items with
  | nil =>
    rw [convertItems, Document.nestingItems, held, Nat.add_zero, if_pos hdepth]
  | cons d ds ih =>
    obtain ⟨hd, hds⟩ := List.forall_mem_cons.mp h
    rw [convertItems, hd, ih hds, Document.nestingItems, ← Nat.add_max_add_left]
    exact held_both l _ _ d ds fun made more => made :: more

theorem convertEntries_eq (hdepth : depth ≤ l.maxDepth + 1) {entries : List (String × Document)}
    (h : ∀ e ∈ entries, l.convert depth e.2 = l.held (depth + e.2.nesting) e.2) :
    l.convertEntries depth entries = l.held (depth + Document.nestingEntries entries) entries := by
  induction entries with
  | nil =>
    rw [convertEntries, Document.nestingEntries, held, Nat.add_zero, if_pos hdepth]
  | cons e rest ih =>
    obtain ⟨key, d⟩ := e
    obtain ⟨hd, hrest⟩ := List.forall_mem_cons.mp h
    rw [convertEntries, hd, ih hrest, Document.nestingEntries, ← Nat.add_max_add_left]
    exact held_both l _ _ d rest fun made more => (key, made) :: more

/-- A container at a depth is held to the limit as its deepest part is: at a depth beyond the limit
it is refused at once, and otherwise what is inside decides. -/
theorem held_container {α β : Type} (l : Loader) (depth inside : Nat) (parts : α) (f : α → β) :
    (if l.maxDepth < depth then .error (.tooDeep l.maxDepth)
      else (l.held (depth + 1 + inside) parts).map f) = l.held (depth + (inside + 1)) (f parts) := by
  unfold held
  by_cases hlimit : l.maxDepth < depth
  · rw [if_pos hlimit, if_neg (by omega)]
  · rw [if_neg hlimit, Nat.add_assoc, Nat.add_comm 1]
    split
    · rfl
    · rfl

/-- A value comes out as it is if the deepest container in it keeps to the limit, and is refused
otherwise. -/
theorem convert_eq (hdepth : depth ≤ l.maxDepth + 1) (d : Document) :
    l.convert depth d = l.held (depth + d.nesting) d := by
  induction d using Document.inductionOn generalizing depth with
  | null | bool _ | number _ | string _ =>
    rw [convert, Document.nesting, held, Nat.add_zero, if_pos hdepth]
    all_goals exact nofun
  | array items ih =>
    rw [convert, Document.nesting, ← held_container]
    split
    · rfl
    · rename_i hlimit
      have hinside : depth + 1 ≤ l.maxDepth + 1 := Nat.succ_le_succ (Nat.not_lt.mp hlimit)
      rw [convertItems_eq hinside fun d hd => ih d hd hinside]
  | object entries ih =>
    rw [convert, Document.nesting, ← held_container]
    split
    · rfl
    · rename_i hlimit
      have hinside : depth + 1 ≤ l.maxDepth + 1 := Nat.succ_le_succ (Nat.not_lt.mp hlimit)
      rw [convertEntries_eq hinside fun e he => ih e he hinside]

/-- Counting depths from one at the root comes to a bound on nesting. -/
theorem withinLimit_eq (l : Loader) (d : Document) :
    l.withinLimit d =
      if d.nesting ≤ l.maxDepth then .ok d else .error (.tooDeep l.maxDepth) := by
  rw [withinLimit, convert_eq (Nat.succ_le_succ (Nat.zero_le _)), held, Nat.add_comm]
  simp only [Nat.add_le_add_iff_right]

end Loader

/-! ## Knowing a refusal by its words -/

namespace SyntaxError

/-- Other messages of its category begin with another letter. -/
theorem message_of_form {reason : SyntaxReason} (hform : reason.category = .form)
    (hother : reason ≠ .tooDeep) :
    ∃ letter letters, reason.message.toList = letter :: letters ∧ letter ≠ 'r' := by
  cases reason with
  | tooDeep => exact absurd rfl hother
  | endInList | endInObject | endInString | endInValue => cases hform
  | badNumberText _ | notNumberText _ => cases hform
  | _ =>
    dsimp only [SyntaxReason.message]
    rw [String.toList_ofList]
    exact ⟨_, _, rfl, by decide⟩

/-- Only a refusal is taken for one. -/
theorem isRefusal_iff (e : SyntaxError) : e.isRefusal = true ↔ e.reason = .tooDeep := by
  rw [isRefusal, Bool.and_eq_true, decide_eq_true_iff, List.isPrefixOf_iff_prefix, placed,
    String.toList_append (s := _ ++ _), String.toList_append (s := e.reason.message),
    List.append_assoc]
  constructor
  · intro h
    obtain ⟨hform, hwords⟩ := h
    refine Decidable.byContradiction fun hother => ?_
    obtain ⟨letter, letters, hmessage, hletter⟩ := message_of_form hform hother
    rw [hmessage, refusalWords, String.toList_ofList, List.cons_append,
      List.cons_prefix_cons] at hwords
    exact hletter hwords.1.symm
  · intro h
    rw [category, h]
    exact ⟨rfl, List.prefix_append _ _⟩

end SyntaxError

/-! ## Loading and reading -/

namespace Loader

variable {l : Loader} {bytes : List UInt8}

theorem load_eq_ok_iff {d : Document} :
    l.load bytes = .ok d ↔ Document.read bytes = .ok d ∧ d.nesting ≤ l.maxDepth := by
  unfold load
  cases Document.read bytes with
  | error e => simp
  | ok e =>
    simp only [withinLimit_eq]
    split
    · rename_i hdepth
      constructor
      · rintro ⟨⟩
        exact ⟨rfl, hdepth⟩
      · rintro ⟨⟨⟩, -⟩
        rfl
    · rename_i hdepth
      constructor
      · rintro ⟨⟩
      · rintro ⟨⟨⟩, h⟩
        exact absurd h hdepth

/-- An error is a syntax error just if it is one of the reader other than its refusal. -/
theorem load_eq_syntaxError_iff {e : SyntaxError} :
    l.load bytes = .error (.syntaxError e) ↔
      Document.read bytes = .error e ∧ e.reason ≠ .tooDeep := by
  unfold load
  cases Document.read bytes with
  | ok d =>
    simp only [withinLimit_eq]
    split <;> simp
  | error e' =>
    simp only [report, SyntaxError.isRefusal_iff]
    split
    · rename_i hrefusal
      constructor
      · rintro ⟨⟩
      · rintro ⟨⟨⟩, h⟩
        exact absurd hrefusal h
    · rename_i hother
      constructor
      · rintro ⟨⟩
        exact ⟨rfl, hother⟩
      · rintro ⟨⟨⟩, -⟩
        rfl

/-- A document is too deep either for the reader or for the limit, and the limit is what the error
names in both cases. -/
theorem load_eq_tooDeep_iff {limit : Nat} :
    l.load bytes = .error (.tooDeep limit) ↔ limit = l.maxDepth ∧
      ((∃ e, Document.read bytes = .error e ∧ e.reason = .tooDeep) ∨
        ∃ d, Document.read bytes = .ok d ∧ l.maxDepth < d.nesting) := by
  unfold load
  cases Document.read bytes with
  | ok d =>
    simp only [withinLimit_eq]
    split
    · rename_i hdepth
      simp [Nat.not_lt.mpr hdepth]
    · rename_i hdepth
      simp [Nat.not_le.mp hdepth, eq_comm]
  | error e' =>
    simp only [report, SyntaxError.isRefusal_iff]
    split
    · rename_i hrefusal
      simp [hrefusal, eq_comm]
    · rename_i hother
      simp [hother]

end Loader

end ManifestCheck
