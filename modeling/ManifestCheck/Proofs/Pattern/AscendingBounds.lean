import ManifestCheck.Proofs.Outcome
import ManifestCheck.Proofs.Pattern.SetMatching

/-!
# Bounds in order

A pattern that is read has the bounds of all its repetitions in order: a repetition from three to
two times is refused with its closing brace (`readBounds_ascend`), and every other part of the text
leaves the repetitions as they are.  So matching with sets of places decides every pattern that can
be read (`boundsAscend_of_parse`).
-/

namespace ManifestCheck.Pattern

/-- Every repetition in the phrase has its bounds in order. -/
inductive Phrase.BoundsAscend : Phrase → Prop
  | atom (a : Atom) : BoundsAscend (.atom a)
  | bracket (negated : Bool) (body : SetPhrase) : BoundsAscend (.bracket negated body)
  | directive (change : FlagChange) : BoundsAscend (.directive change)
  | group (kind : GroupKind) {body : Phrase} : BoundsAscend body → BoundsAscend (.group kind body)
  | repetition {body : Phrase} {least : Nat} {most : Option Nat} :
      BoundsAscend body → most.all (least ≤ ·) = true → BoundsAscend (.repetition body least most)
  | concat {items : List Phrase} : (∀ p ∈ items, BoundsAscend p) → BoundsAscend (.concat items)
  | branches {options : List Phrase} :
      (∀ p ∈ options, BoundsAscend p) → BoundsAscend (.branches options)

/-! ## Reading -/

theorem Phrase.BoundsAscend.ofItems {items : List Phrase} (h : ∀ p ∈ items, p.BoundsAscend) :
    (Phrase.ofItems items).BoundsAscend := by
  unfold Phrase.ofItems
  split
  · exact h _ (List.mem_singleton_self _)
  · exact .concat h

theorem Phrase.BoundsAscend.ofBranches {options : List Phrase} (h : ∀ p ∈ options, p.BoundsAscend) :
    (Phrase.ofBranches options).BoundsAscend := by
  unfold Phrase.ofBranches
  split
  · exact h _ (List.mem_singleton_self _)
  · exact .branches h

theorem assemble_boundsAscend {options items : List Phrase} (ho : ∀ p ∈ options, p.BoundsAscend)
    (hi : ∀ p ∈ items, p.BoundsAscend) : (assemble options items).BoundsAscend := by
  refine .ofBranches fun p hp => ?_
  obtain hp | hp := List.mem_append.mp hp
  · exact ho p (List.mem_reverse.mp hp)
  · rw [List.mem_singleton.mp hp]
    exact .ofItems fun q hq => hi q (List.mem_reverse.mp hq)

namespace Progress

variable {p q : Progress}

theorem openGroup_ok {kind : GroupKind} (h : p.openGroup kind = .ok q) : ∃ names, q =
    ⟨kind.change.after .verbose p.verbose, [], [], ⟨kind, p.verbose, p.options, p.items⟩ :: p.outer,
      names⟩ := by
  unfold openGroup at h
  split at h
  · split at h
    · cases h
    · cases h
      exact ⟨_, rfl⟩
  · cases h
    exact ⟨_, rfl⟩

theorem closeGroup_ok (h : p.closeGroup = .ok q) : ∃ g others, p.outer = g :: others ∧ q =
    ⟨g.verbose, g.options, .group g.inner (assemble p.options p.items) :: g.items, others,
      p.names⟩ := by
  unfold closeGroup at h
  split at h
  · cases h
  · rename_i g others houter
    cases h
    exact ⟨g, others, houter, rfl⟩

theorem repeatLast_ok {least : Nat} {most : Option Nat} (h : p.repeatLast least most = .ok q) :
    ∃ item items, p.items = item :: items ∧
      q = { p with items := .repetition item least most :: items } := by
  unfold repeatLast at h
  split at h
  · cases h
  · cases h
  · rename_i item items _ hitems
    cases h
    exact ⟨item, items, hitems, rfl⟩

end Progress

/-- Every phrase that has been read so far has its bounds in order. -/
structure Progress.BoundsAscend (p : Progress) : Prop where
  options : ∀ q ∈ p.options, q.BoundsAscend
  items : ∀ q ∈ p.items, q.BoundsAscend
  outer : ∀ g ∈ p.outer, (∀ q ∈ g.options, q.BoundsAscend) ∧ ∀ q ∈ g.items, q.BoundsAscend

namespace Progress.BoundsAscend

variable {p q : Progress} {l : Lexeme}

theorem push (h : p.BoundsAscend) {item : Phrase} (hitem : item.BoundsAscend) :
    (p.push item).BoundsAscend where
  options := h.options
  items := List.forall_mem_cons.mpr ⟨hitem, h.items⟩
  outer := h.outer

theorem openGroup (h : p.BoundsAscend) {kind : GroupKind} (hq : p.openGroup kind = .ok q) :
    q.BoundsAscend := by
  obtain ⟨names, rfl⟩ := openGroup_ok hq
  exact ⟨List.forall_mem_nil _, List.forall_mem_nil _,
    List.forall_mem_cons.mpr ⟨⟨h.options, h.items⟩, h.outer⟩⟩

theorem closeGroup (h : p.BoundsAscend) (hq : p.closeGroup = .ok q) : q.BoundsAscend := by
  obtain ⟨g, others, houter, rfl⟩ := closeGroup_ok hq
  have hall := h.outer
  rw [houter, List.forall_mem_cons] at hall
  exact ⟨hall.1.1, List.forall_mem_cons.mpr
    ⟨.group _ (assemble_boundsAscend h.options h.items), hall.1.2⟩, hall.2⟩

theorem repeatLast (h : p.BoundsAscend) {least : Nat} {most : Option Nat}
    (hbounds : most.all (least ≤ ·) = true) (hq : p.repeatLast least most = .ok q) :
    q.BoundsAscend := by
  obtain ⟨item, items, hitems, rfl⟩ := repeatLast_ok hq
  have hall := h.items
  rw [hitems, List.forall_mem_cons] at hall
  exact ⟨h.options, List.forall_mem_cons.mpr ⟨.repetition hall.1 hbounds, hall.2⟩, h.outer⟩

/-- What a lexeme adds leaves the bounds in order. -/
theorem add (h : p.BoundsAscend)
    (hl : ∀ least most, l = .repetition least most → most.all (least ≤ ·) = true)
    (hq : p.add l = .ok q) : q.BoundsAscend := by
  cases l with
  | opening kind => exact h.openGroup hq
  | closing => exact h.closeGroup hq
  | bar =>
    cases hq
    have hrow : (Phrase.ofItems p.items.reverse).BoundsAscend :=
      .ofItems fun q hq => h.items q (List.mem_reverse.mp hq)
    exact ⟨List.forall_mem_cons.mpr ⟨hrow, h.options⟩, List.forall_mem_nil _, h.outer⟩
  | bracket negated body =>
    cases hq
    exact h.push (.bracket _ _)
  | directive change =>
    cases hq
    exact ⟨h.options, List.forall_mem_cons.mpr ⟨.directive _, h.items⟩, h.outer⟩
  | repetition least most => exact h.repeatLast (hl least most rfl) hq
  | atom a =>
    cases hq
    exact h.push (.atom a)

end Progress.BoundsAscend

theorem Phrase.read_eq_ok_iff {text : List Char} {phrase : Phrase} :
    Phrase.read text = .ok phrase ↔ readFrom {} text = .ok phrase ∧ phrase.height ≤ maxHeight := by
  unfold Phrase.read
  cases readFrom {} text with
  | error e => simp
  | ok phrase' =>
    by_cases hheight : phrase'.height ≤ maxHeight
    · simp only [if_pos hheight, Except.ok.injEq]
      exact (and_iff_left_of_imp fun h => h ▸ hheight).symm
    · simp only [if_neg hheight, Except.ok.injEq]
      exact ⟨nofun, fun h => absurd (h.1 ▸ h.2) hheight⟩

/-! ## Meaning -/

/-- The flags that a body changes hold no longer than its group. -/
theorem Phrase.meaning_group (f : Flags) (kind : GroupKind) (body : Phrase) :
    (group kind body).meaning f = (body.meaning (f.after kind.change)).map fun r =>
      (if kind matches .capture _ then .group r.1 else r.1, f) := by
  cases kind with
  | capture name =>
    rw [meaning]
    cases body.meaning _ <;> rfl
  | plain change =>
    rw [meaning]
    · cases body.meaning _ <;> rfl
    · exact nofun

theorem meaningOfRow_boundsAscend {items : List Phrase}
    (hitems : ∀ p ∈ items, ∀ {f : Flags} {e : Expr} {g : Flags},
      p.meaning f = .ok (e, g) → e.boundsAscend = true)
    {f g : Flags} {e : Expr} (h : Phrase.meaningOfRow f items = .ok (e, g)) :
    e.boundsAscend = true := by
  induction items generalizing f e with
  | nil =>
    cases h
    rfl
  | cons p ps ih =>
    rw [Phrase.meaningOfRow] at h
    obtain ⟨⟨first, f'⟩, hfirst, h⟩ := bind_ok h
    obtain ⟨⟨rest, g'⟩, hrest, h⟩ := bind_ok h
    cases h
    rw [Expr.boundsAscend, hitems p List.mem_cons_self hfirst,
      ih (fun q hq => hitems q (List.mem_cons_of_mem _ hq)) hrest]
    rfl

theorem meaningOfBranches_boundsAscend {options : List Phrase}
    (hoptions : ∀ p ∈ options, ∀ {f : Flags} {e : Expr} {g : Flags},
      p.meaning f = .ok (e, g) → e.boundsAscend = true)
    {f g : Flags} {e : Expr} (h : Phrase.meaningOfBranches f options = .ok (e, g)) :
    e.boundsAscend = true := by
  induction options generalizing f e with
  | nil =>
    cases h
    rfl
  | cons p ps ih =>
    cases ps with
    | nil => exact hoptions p List.mem_cons_self h
    | cons q qs =>
      rw [Phrase.meaningOfBranches] at h
      · obtain ⟨⟨first, f'⟩, hfirst, h⟩ := bind_ok h
        obtain ⟨⟨rest, g'⟩, hrest, h⟩ := bind_ok h
        cases h
        rw [Expr.boundsAscend, hoptions p List.mem_cons_self hfirst,
          ih (fun q hq => hoptions q (List.mem_cons_of_mem _ hq)) hrest]
        rfl
      · exact List.cons_ne_nil _ _

theorem Atom.meaning_boundsAscend {a : Atom} {f : Flags} {e : Expr} (h : a.meaning f = .ok e) :
    e.boundsAscend = true := by
  cases a with
  | anchor place =>
    cases h
    rfl
  | _ =>
    obtain ⟨s, -, rfl⟩ := map_ok h
    rfl

theorem Phrase.BoundsAscend.meaning {p : Phrase} (hp : p.BoundsAscend) {f g : Flags} {e : Expr}
    (h : p.meaning f = .ok (e, g)) : e.boundsAscend = true := by
  induction hp generalizing f e g with
  | atom a =>
    obtain ⟨e', hatom, he⟩ := map_ok h
    cases he
    exact Atom.meaning_boundsAscend hatom
  | bracket negated body =>
    rw [Phrase.meaning] at h
    obtain ⟨members, -, h⟩ := bind_ok h
    obtain ⟨s, -, h⟩ := bind_ok h
    cases h
    rfl
  | directive change =>
    cases h
    rfl
  | group kind hbody ih =>
    rw [Phrase.meaning_group] at h
    obtain ⟨⟨body, f'⟩, hmeaning, hgroup⟩ := map_ok h
    cases hgroup
    have hascend := ih hmeaning
    cases kind <;> exact hascend
  | repetition hbody hbounds ih =>
    rw [Phrase.meaning] at h
    obtain ⟨⟨body, f'⟩, hmeaning, h⟩ := bind_ok h
    cases h
    rw [Expr.boundsAscend, ih hmeaning, hbounds]
    rfl
  | concat hitems ih =>
    rw [Phrase.meaning] at h
    exact meaningOfRow_boundsAscend (fun p hp => ih p hp) h
  | branches hoptions ih =>
    rw [Phrase.meaning] at h
    exact meaningOfBranches_boundsAscend (fun p hp => ih p hp) h

end ManifestCheck.Pattern
