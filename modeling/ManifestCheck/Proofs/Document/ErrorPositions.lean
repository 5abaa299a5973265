import Mathlib.Data.List.DropRight
import ManifestCheck.Proofs.Document.DepthLimit
import ManifestCheck.Proofs.Document.ContainerReading
import ManifestCheck.Proofs.Outcome

/-!
# The positions of syntax errors

A position is a line and a column, and one that is reported lies in the text: it is the place behind
some of its bytes (`Position.LiesIn`).  Every cursor of a reader stands in the text it started with
(`Cursor.StandsIn`), and what a reader reports is a place at its cursor or ahead of it.  So each reader
is an instance of `StaysIn`, found from the instances of the readers it uses, up to the one for values,
which is by induction on the depth.

One reader is at work on another text.  The string under `numberKey` is decoded and then read by
itself, and its errors are handed on with the line and the column that they have in there
(`SyntaxError.Placed`).  They need not be places of the document (`Loader.load_innerPosition`).
-/

namespace ManifestCheck

open Grammar

/-! ## Places -/

namespace Position

theorem after_append (p : Position) (front bytes : List UInt8) :
    p.after (front ++ bytes) = (p.after front).after bytes :=
  List.foldl_append

/-- What a position says of the bytes in front: how many of them are line feeds, and how many have come
since the last one. -/
theorem start_after (bytes : List UInt8) :
    start.after bytes = ⟨1 + bytes.count 10, (bytes.rtakeWhile (· ≠ 10)).length⟩ := by
  induction bytes using List.reverseRecOn with
  | nil => rfl
  | append_singleton bytes b ih =>
    rw [after_append, ih, List.count_append, List.rtakeWhile_concat]
    by_cases hb : b = 10
    · simp [after, advance, hb, Nat.add_assoc]
    · simp [after, advance, hb]

/-- A position is a place of a text: that behind some number of its bytes. -/
def LiesIn (p : Position) (text : List UInt8) : Prop :=
  ∃ k ≤ text.length, p.line = 1 + (text.take k).count 10 ∧
    p.column = ((text.take k).rtakeWhile (· ≠ 10)).length

theorem liesIn_of_append {text front behind : List UInt8} (h : text = front ++ behind) :
    (start.after front).LiesIn text := by
  refine ⟨front.length, ?_, ?_⟩
  · rw [h, List.length_append]
    exact Nat.le_add_right _ _
  · rw [h, List.take_left, start_after]
    exact ⟨rfl, rfl⟩

/-- A text has as many lines as its line feeds begin. -/
theorem LiesIn.line_le {p : Position} {text : List UInt8} (h : p.LiesIn text) :
    p.line ≤ 1 + text.count 10 := by
  obtain ⟨k, -, hline, -⟩ := h
  rw [hline]
  exact Nat.add_le_add_left ((List.take_sublist k text).count_le 10) 1

end Position

/-! ## Cursors in a text -/

/-- A cursor holds what is left of a text behind some of its bytes, and their end. -/
class Cursor.StandsIn (text : List UInt8) (c : Cursor) : Prop where
  exists_front : ∃ front, text = front ++ c.rest ∧ c.position = Position.start.after front

namespace Cursor

variable {text : List UInt8} {c : Cursor}

instance start_standsIn (text : List UInt8) : (start text).StandsIn text := ⟨⟨[], rfl, rfl⟩⟩

/-- A cursor moved over some bytes still stands in the text. -/
theorem StandsIn.after (h : c.StandsIn text) (front : List UInt8) {behind : List UInt8}
    (hc : c.rest = front ++ behind) : (⟨behind, c.position.after front⟩ : Cursor).StandsIn text := by
  obtain ⟨before, htext, hposition⟩ := h.exists_front
  refine ⟨before ++ front, ?_, ?_⟩
  · rw [htext, hc, List.append_assoc]
  · rw [hposition, Position.after_append]

theorem StandsIn.position (h : c.StandsIn text) : c.position.LiesIn text := by
  obtain ⟨front, htext, hposition⟩ := h.exists_front
  rw [hposition]
  exact Position.liesIn_of_append htext

theorem StandsIn.next (h : c.StandsIn text) : c.next.StandsIn text := by
  unfold Cursor.next
  split
  · exact h
  · rename_i b bs hc
    exact h.after [b] hc

instance next_standsIn [h : c.StandsIn text] : c.next.StandsIn text := h.next

theorem spanFrom_position (test : UInt8 → Bool) (bs : List UInt8) (p : Position) :
    (spanFrom test bs p).2.position = p.after (bs.takeWhile test) := by
  induction bs generalizing p with
  | nil => rfl
  | cons b bs ih =>
    by_cases h : test b
    · simp [spanFrom, h, ih, Position.after]
    · simp [spanFrom, h, Position.after]

instance span_standsIn [h : c.StandsIn text] (test : UInt8 → Bool) :
    (c.span test).2.StandsIn text := by
  have hspan : (c.span test).2 =
      ⟨c.rest.dropWhile test, c.position.after (c.rest.takeWhile test)⟩ := by
    rw [span, ← spanFrom_rest test c.rest c.position, ← spanFrom_position]
  rw [hspan]
  exact h.after _ List.takeWhile_append_dropWhile.symm

instance skipBlanks_standsIn [h : c.StandsIn text] : c.skipBlanks.StandsIn text :=
  inferInstanceAs ((c.span isBlankByte).2.StandsIn text)

end Cursor

/-! ## Errors in a text -/

/-- A string stands in a text under `numberKey`, the first key of its object. -/
def Grammar.HoldsNumberText (bytes : List UInt8) (text : String) : Prop :=
  ∃ front blanks own more, Blanks blanks ∧ Member Value (numberKey, .string text) own ∧
    bytes = front ++ byte '\x7b' :: (blanks ++ (own ++ more))

/-- An error is about a place of a text, and not about the string under `numberKey`. -/
structure SyntaxError.LiesIn (e : SyntaxError) (text : List UInt8) : Prop where
  plain : ∀ cause, e.reason ≠ .badNumberText cause
  position : e.position.LiesIn text

theorem SyntaxError.LiesIn.of_standsIn {c : Cursor} {text : List UInt8} {reason : SyntaxReason}
    (h : c.StandsIn text) (hplain : ∀ cause, reason ≠ .badNumberText cause := by intro _ h; cases h) :
    (⟨reason, c.position⟩ : SyntaxError).LiesIn text :=
  ⟨hplain, h.position⟩

/-- An error says where in a text reading stopped.  If what is wrong is the string under `numberKey`,
it says this of the characters of the string. -/
inductive SyntaxError.Placed (text : List UInt8) : SyntaxError → Prop
  | here {e : SyntaxError} : e.LiesIn text → Placed text e
  | numberText {cause : SyntaxReason} {p : Position} {inner : String} :
    HoldsNumberText text inner → readNumberText (Utf8.encode inner) = .error ⟨cause, p⟩ →
    Placed text ⟨.badNumberText cause, p⟩

/-- A number that breaks off leaves an error and a cursor, both of them in the text. -/
structure NumberFault.Placed (text : List UInt8) (f : NumberFault) : Prop where
  error : f.1.LiesIn text
  stopped : f.2.StandsIn text

/-- A reading in a text leaves a cursor there, or an error that is placed in the text.  What it is for
an error to be placed depends only on the kind of error. -/
class StaysIn {ε α : Type} {n : Nat} {c : Cursor} (placed : outParam (List UInt8 → ε → Prop))
    (text : List UInt8) (r : Except ε (Step n c α)) : Prop where
  cursor : ∀ s, r = .ok s → s.cursor.StandsIn text
  error : ∀ e, r = .error e → placed text e

namespace StaysIn

variable {ε α β : Type} {l m n : Nat} {c d : Cursor} {placed : List UInt8 → ε → Prop}
  {text : List UInt8}

theorem ok {s : Step n c α} (h : s.cursor.StandsIn text) :
    StaysIn placed text (.ok s : Except ε (Step n c α)) := by
  refine ⟨fun t ht => ?_, fun _ he => by cases he⟩
  cases ht
  exact h

theorem fault {e : ε} (h : placed text e) :
    StaysIn placed text (.error e : Except ε (Step n c α)) := by
  refine ⟨fun _ hs => (by cases hs), fun e' he => ?_⟩
  cases he
  exact h

/-- An error that is handed on. -/
theorem handed {r : Except ε (Step m d β)} {e : ε} [h : StaysIn placed text r]
    (he : r = .error e) : StaysIn placed text (.error e : Except ε (Step n c α)) :=
  .fault (h.error e he)

/-- A cursor that is handed on. -/
theorem carried {r : Except ε (Step m d β)} {s : Step m d β} [h : StaysIn placed text r]
    (hs : r = .ok s) {t : Step n c α} (ht : t.cursor = s.cursor := by rfl) :
    StaysIn placed text (.ok t : Except ε (Step n c α)) :=
  .ok (ht ▸ h.cursor s hs)

theorem andThen {k : Nat} {r : Except ε (Step m c α)}
    {f : (s : Step m c α) → Except ε (Step l s.cursor β)} {hk : k ≤ m + l}
    [h : StaysIn placed text r]
    (hf : ∀ s, r = .ok s → s.cursor.StandsIn text → StaysIn placed text (f s)) :
    StaysIn placed text (Step.andThen r f hk) := by
  unfold Step.andThen
  split
  · exact .fault (h.error _ rfl)
  · rename_i s
    have := hf s rfl (h.cursor s rfl)
    split
    · exact .handed ‹_›
    · exact .carried ‹_›

/-- An error about the place that a cursor has reached. -/
theorem stop {reason : SyntaxReason} (d : Cursor) [h : d.StandsIn text]
    (hplain : ∀ cause, reason ≠ .badNumberText cause := by intro _ h; cases h) :
    StaysIn SyntaxError.Placed text
      (.error ⟨reason, d.position⟩ : Except SyntaxError (Step n c α)) :=
  .fault (.here (.of_standsIn h hplain))

/-- The same for a number that breaks off. -/
theorem breakOff {reason : SyntaxReason} (d stopped : Cursor) [h : d.StandsIn text]
    [h' : stopped.StandsIn text] (hplain : ∀ cause, reason ≠ .badNumberText cause := by intro _ h; cases h) :
    StaysIn NumberFault.Placed text
      (.error (⟨reason, d.position⟩, stopped) : Except NumberFault (Step n c α)) :=
  .fault ⟨.of_standsIn h hplain, h'⟩

end StaysIn

section Readers

variable {text : List UInt8}

/-! ## Words and strings -/

instance readWord_staysIn (expected : List Char) (c : Cursor) [h : c.StandsIn text] :
    StaysIn SyntaxError.Placed text (readWord expected c) := by
  induction expected generalizing c with
  | nil => exact .ok h
  | cons e es ih =>
    unfold readWord
    split
    · exact .stop c
    · split
      · have := ih c.next
        split
        · exact .handed ‹_›
        · exact .carried ‹_›
      · exact .stop c.next

instance readHexQuad_staysIn (c : Cursor) [h : c.StandsIn text] :
    StaysIn SyntaxError.Placed text (readHexQuad c) := by
  unfold readHexQuad
  split
  · rename_i a b d e rest hc
    have behind := h.after [a, b, d, e] hc
    dsimp only
    split
    · exact .ok behind
    · exact .stop ⟨rest, c.position.after [a, b, d, e]⟩
  · have := h.after c.rest (List.append_nil _).symm
    exact .stop ⟨[], c.position.after c.rest⟩

instance readLowSurrogate_staysIn (high : Nat) (c : Cursor) [c.StandsIn text] :
    StaysIn SyntaxError.Placed text (readLowSurrogate high c) := by
  fun_cases readLowSurrogate high c with
  | case1 => exact .stop c
  | case2 => exact .stop c.next
  | case3 => exact .handed ‹_›
  | case4 _ _ s hs =>
    have : s.cursor.StandsIn text := StaysIn.cursor s hs
    exact .stop s.cursor
  | case5 => exact .carried ‹_›
  | case6 => exact .stop c.next.next
  | case7 => exact .stop c.next

instance readCodeEscape_staysIn (c : Cursor) [c.StandsIn text] :
    StaysIn SyntaxError.Placed text (readCodeEscape c) := by
  refine .andThen fun s _ _ => ?_
  split
  · exact .stop s.cursor
  · split
    · exact .ok ‹_›
    · split
      · exact .handed ‹_›
      · exact .carried ‹_›

instance readEscape_staysIn (c : Cursor) [c.StandsIn text] :
    StaysIn SyntaxError.Placed text (readEscape c) := by
  fun_cases readEscape c with
  | case1 => exact .stop c
  | case2 => exact .ok (inferInstanceAs (c.next.StandsIn text))
  | case3 => exact .handed ‹_›
  | case4 => exact .carried ‹_›
  | case5 => exact .stop c.next

instance readStringBytes_staysIn (c : Cursor) [h : c.StandsIn text] :
    StaysIn SyntaxError.Placed text (readStringBytes c) := by
  revert h
  fun_induction readStringBytes c <;> intro h
  case case1 c _ => exact .stop c
  case case2 c _ _ => exact .ok (inferInstanceAs (c.next.StandsIn text))
  case case3 => exact .handed ‹_›
  case case4 s hs _ _ _ _ ih | case5 s hs _ _ _ _ ih =>
    have : s.cursor.StandsIn text := StaysIn.cursor s hs
    first | exact .handed ‹_› | exact .carried ‹_›
  case case6 c _ _ _ _ _ _ => exact .stop c.next
  case case7 => exact .handed ‹_›
  case case8 => exact .carried ‹_›

instance readString_staysIn (c : Cursor) [h : c.StandsIn text] :
    StaysIn SyntaxError.Placed text (readString c) := by
  fun_cases readString c with
  | case1 => exact .handed ‹_›
  | case2 => exact .carried ‹_›
  | case3 =>
    have behind := h.after _ (List.take_append_drop (Utf8.validLength c.rest + 1) c.rest).symm
    exact .stop _ (h := behind)

/-! ## Numbers -/

instance readDigits_standsIn (c : Cursor) [c.StandsIn text] : (readDigits c).cursor.StandsIn text :=
  inferInstanceAs ((c.span isDigitByte).2.StandsIn text)

instance readMinus_standsIn (c : Cursor) [c.StandsIn text] : (readMinus c).cursor.StandsIn text := by
  fun_cases readMinus c <;> exact inferInstance

instance readExponentSign_standsIn (c : Cursor) [c.StandsIn text] :
    (readExponentSign c).cursor.StandsIn text := by
  fun_cases readExponentSign c <;> exact inferInstance

instance readExponentDigits_staysIn (c : Cursor) [c.StandsIn text] :
    StaysIn NumberFault.Placed text (readExponentDigits c) := by
  fun_cases readExponentDigits c with
  | case1 => exact .breakOff c c
  | case2 => exact .ok inferInstance
  | case3 => exact .breakOff c.next c.next

instance readExponent_staysIn (c : Cursor) [h : c.StandsIn text] :
    StaysIn NumberFault.Placed text (readExponent c) := by
  fun_cases readExponent c with
  | case2 => exact .handed ‹_›
  | case3 => exact .carried ‹_›
  | case1 | case4 => exact .ok h

instance readFraction_staysIn (c : Cursor) [h : c.StandsIn text] :
    StaysIn NumberFault.Placed text (readFraction c) := by
  fun_cases readFraction c with
  | case2 => exact .breakOff (readDigits c.next).cursor (readDigits c.next).cursor
  | case3 => exact .breakOff (readDigits c.next).cursor.next (readDigits c.next).cursor
  | case4 => exact .ok (readDigits_standsIn c.next)
  | case1 | case5 => exact .ok h

instance readWhole_staysIn (c : Cursor) [c.StandsIn text] :
    StaysIn NumberFault.Placed text (readWhole c) := by
  fun_cases readWhole c with
  | case1 => exact .breakOff c c
  | case2 => exact .breakOff c.next.next c.next
  | case3 | case4 => exact .ok Cursor.next_standsIn
  | case5 => exact .ok (readDigits_standsIn c.next)
  | case6 => exact .breakOff c.next c.next

instance readNumber_staysIn (c : Cursor) [c.StandsIn text] :
    StaysIn NumberFault.Placed text (readNumber c) := by
  unfold readNumber
  dsimp only
  split
  · exact .handed ‹_›
  · rename_i whole hwhole
    have : whole.cursor.StandsIn text := StaysIn.cursor whole hwhole
    split
    · exact .handed ‹_›
    · rename_i fraction hfraction
      have : fraction.cursor.StandsIn text := StaysIn.cursor fraction hfraction
      split
      · exact .handed ‹_›
      · exact .carried ‹_›

/-- The text of a number is read by itself, and an error is about this text. -/
theorem readNumberText_liesIn {bytes : List UInt8} {e : SyntaxError}
    (h : readNumberText bytes = .error e) : e.LiesIn bytes := by
  have start : (Cursor.start bytes).StandsIn bytes := inferInstance
  revert h
  fun_cases readNumberText bytes with
  | case1 =>
    rintro ⟨⟩
    exact .of_standsIn start
  | case2 c b _ _ outcome behind hread _ | case3 c b _ _ outcome behind hread _ _ _ =>
    have number : (∀ e, outcome = .error e → e.LiesIn bytes) ∧ behind.StandsIn bytes := by
      split at hread
      · split at hread
        · rename_i e _ he
          cases hread
          obtain ⟨herror, hstopped⟩ : NumberFault.Placed bytes (e, behind) := StaysIn.error _ he
          refine ⟨?_, hstopped⟩
          rintro _ ⟨⟩
          exact herror
        · rename_i s hs
          cases hread
          exact ⟨fun _ he => (by cases he), StaysIn.cursor s hs⟩
      · cases hread
        refine ⟨?_, start⟩
        rintro _ ⟨⟩
        exact .of_standsIn start.next
    obtain ⟨houtcome, hbehind⟩ := number
    first
      | exact houtcome e
      | rintro ⟨⟩
        exact .of_standsIn hbehind.next

/-! ## Objects that stand for a number -/

instance readColon_staysIn (c : Cursor) [c.StandsIn text] :
    StaysIn SyntaxError.Placed text (readColon c) := by
  fun_cases readColon c with
  | case2 => exact .ok Cursor.next_standsIn
  | case1 | case3 => exact .stop c.skipBlanks.next

instance readNumberEnd_staysIn (c : Cursor) [c.StandsIn text] :
    StaysIn SyntaxError.Placed text (readNumberEnd c) := by
  fun_cases readNumberEnd c with
  | case2 => exact .ok Cursor.next_standsIn
  | case1 | case3 | case4 => exact .stop c.skipBlanks.next

theorem worded_placed {c : Cursor} [c.StandsIn text] (word : String) (found : FoundValue) :
    (rejectNumberValue.worded c word found).Placed text := by
  unfold rejectNumberValue.worded
  split
  · exact StaysIn.error _ ‹_›
  · rename_i s hs
    exact .here (.of_standsIn (StaysIn.cursor s hs))

theorem rejectNumberValue_placed (c : Cursor) [h : c.StandsIn text] :
    (rejectNumberValue c).Placed text := by
  fun_cases rejectNumberValue c with
  | case2 | case3 | case4 => exact worded_placed _ _
  | case5 _ _ _ _ _ _ _ e stopped he =>
    obtain ⟨herror, -⟩ : NumberFault.Placed text (e, stopped) := StaysIn.error _ he
    exact .here herror
  | case6 _ _ _ _ _ _ _ s hs => exact .here (.of_standsIn (StaysIn.cursor s hs))
  | case1 | case9 => exact .here (.of_standsIn h.next)
  | case7 | case8 => exact .here (.of_standsIn h)

/-- The one place where a string is read a second time. -/
theorem readNumberValue_staysIn (c : Cursor) [c.StandsIn text]
    (held : ∀ inner own more, Value (.string inner) own → c.skipBlanks.rest = own ++ more →
      HoldsNumberText text inner) :
    StaysIn SyntaxError.Placed text (readNumberValue c) := by
  fun_cases readNumberValue c with
  | case1 => exact .stop c.skipBlanks.next
  | case2 => exact .handed ‹_›
  | case3 bs s hs e he hc =>
    obtain ⟨quoted, hquoted, hrest⟩ := reads_string_iff.mp ⟨s, hs, rfl, rfl⟩
    rw [Cursor.next_of_cons hc] at hrest
    have hstring : Value (.string s.value) (byte '"' :: quoted) := .string hquoted
    exact .fault (.numberText (held _ _ _ hstring (hc.trans (congrArg _ hrest))) he)
  | case4 => exact .carried ‹_›
  | case5 => exact .fault (rejectNumberValue_placed _)

theorem readNumberObject_staysIn (c : Cursor) [c.StandsIn text]
    (held : ∀ inner before behind own more, Blanks before → Blanks behind →
      Value (.string inner) own → c.rest = before ++ byte ':' :: (behind ++ (own ++ more)) →
      HoldsNumberText text inner) :
    StaysIn SyntaxError.Placed text (readNumberObject c) := by
  refine .andThen fun colon hcolon _ => ?_
  have value : StaysIn SyntaxError.Placed text (readNumberValue colon.cursor) := by
    refine readNumberValue_staysIn _ fun inner own more hown hmore => ?_
    obtain ⟨before, hbefore, hrest⟩ := c.exists_blanks
    obtain ⟨behind, hbehind, hrest'⟩ := colon.cursor.exists_blanks
    rw [reads_colon_iff.mp ⟨colon, hcolon, rfl, rfl⟩, hrest', hmore] at hrest
    exact held inner before behind own more hbefore hbehind hown hrest
  split
  · exact .handed ‹_›
  · rename_i n hn
    have : n.cursor.StandsIn text := StaysIn.cursor n hn
    split
    · exact .handed ‹_›
    · exact .carried ‹_›

/-! ## Containers and values -/

instance readKey_staysIn (first : Bool) (c : Cursor) [c.StandsIn text] :
    StaysIn SyntaxError.Placed text (readKey first c) := by
  fun_cases readKey first c with
  | case2 => exact .ok Cursor.next_standsIn
  | case3 | case7 => exact .handed ‹_›
  | case4 | case8 => exact .carried ‹_›
  | case1 | case5 | case11 => exact .stop c.skipBlanks.next
  | case6 | case9 | case10 => exact .stop c.skipBlanks.next.skipBlanks.next

section Containers

variable {element : (c : Cursor) → Reading c Document}
  (helement : ∀ c : Cursor, c.StandsIn text → StaysIn SyntaxError.Placed text (element c))

include helement

theorem readElements_staysIn (first : Bool) (c : Cursor) (h : c.StandsIn text) :
    StaysIn SyntaxError.Placed text (readElements element first c) := by
  revert h
  fun_induction readElements element first c <;> intro h
  case case1 c _ => exact .stop c.skipBlanks.next
  case case2 => exact .ok Cursor.next_standsIn
  case case3 c _ _ _ _ _ _ =>
    have := helement c.skipBlanks inferInstance
    exact .handed ‹_›
  case case4 c _ _ _ _ s hs _ _ ih | case5 c _ _ _ _ s hs _ _ ih =>
    have := helement c.skipBlanks inferInstance
    have := ih (StaysIn.cursor s hs)
    first | exact .handed ‹_› | exact .carried ‹_›
  case case8 c _ _ _ _ _ _ _ _ _ _ =>
    have := helement c.skipBlanks.next.skipBlanks inferInstance
    exact .handed ‹_›
  case case9 c _ _ _ _ _ _ s hs _ _ _ _ ih | case10 c _ _ _ _ _ _ s hs _ _ _ _ ih =>
    have := helement c.skipBlanks.next.skipBlanks inferInstance
    have := ih (StaysIn.cursor s hs)
    first | exact .handed ‹_› | exact .carried ‹_›
  case case6 c _ _ _ _ _ | case7 c _ _ _ _ _ _ => exact .stop c.skipBlanks.next.skipBlanks.next
  case case11 c _ _ _ _ _ _ => exact .stop c.skipBlanks.next

theorem readMember_staysIn (c : Cursor) [c.StandsIn text] :
    StaysIn SyntaxError.Placed text (readMember element c) :=
  .andThen fun s _ => helement s.cursor

theorem readMembers_staysIn (c : Cursor) (h : c.StandsIn text) :
    StaysIn SyntaxError.Placed text (readMembers element c) := by
  revert h
  fun_induction readMembers element c <;> intro h
  case case1 => exact .handed ‹_›
  case case2 => exact .carried ‹_›
  case case3 key hkey _ _ _ _ =>
    have : key.cursor.StandsIn text := StaysIn.cursor key hkey
    have := readMember_staysIn helement key.cursor
    exact .handed ‹_›
  case case4 key hkey _ _ s hs _ _ ih | case5 key hkey _ _ s hs _ _ ih =>
    have : key.cursor.StandsIn text := StaysIn.cursor key hkey
    have := readMember_staysIn helement key.cursor
    have := ih (StaysIn.cursor s hs)
    first | exact .handed ‹_› | exact .carried ‹_›

/-- An object stands behind a brace, so its key and the string behind it are in the text. -/
theorem readObject_staysIn (c : Cursor) [c.StandsIn text]
    (hopened : ∃ front, text = front ++ byte '\x7b' :: c.rest) :
    StaysIn SyntaxError.Placed text (readObject element c) := by
  unfold readObject
  split
  · exact .handed ‹_›
  · rename_i key hkey
    have : key.cursor.StandsIn text := StaysIn.cursor key hkey
    split
    · exact .ok ‹_›
    · rename_i name hname
      split
      · rename_i hnumber
        have number : StaysIn SyntaxError.Placed text (readNumberObject key.cursor) := by
          refine readNumberObject_staysIn _
            fun inner before behind own more hbefore hbehind hown hmore => ?_
          obtain ⟨front, hfront⟩ := hopened
          obtain ⟨blanks, hblanks, hrest⟩ := c.exists_blanks
          obtain ⟨quoted, hquoted, hrest'⟩ := reads_firstKey_iff.mp ⟨key, hkey, hname, rfl⟩
          rw [hnumber] at hquoted
          refine ⟨front, blanks, _, more, hblanks, .colon hquoted hbefore hbehind hown, ?_⟩
          rw [hfront, hrest, hrest', hmore]
          simp only [List.cons_append, List.append_assoc]
        split
        · exact .handed ‹_›
        · exact .carried ‹_›
      · have := readMember_staysIn helement key.cursor
        split
        · exact .handed ‹_›
        · rename_i s hs
          have := readMembers_staysIn helement s.cursor (StaysIn.cursor s hs)
          split
          · exact .handed ‹_›
          · exact .carried ‹_›

end Containers

theorem readValueWith_staysIn {inner : Option ((c : Cursor) → Reading c Document)}
    (hinner : ∀ element ∈ inner, ∀ c : Cursor, c.StandsIn text →
      StaysIn SyntaxError.Placed text (element c)) (c : Cursor) (h : c.StandsIn text) :
    StaysIn SyntaxError.Placed text (readValueWith inner c) := by
  have worded : ∀ word d h blanks,
      StaysIn SyntaxError.Placed text (readValueWith.worded c word d h blanks) := by
    intro word d h blanks
    unfold readValueWith.worded
    split
    · exact .handed ‹_›
    · exact .carried ‹_›
  fun_cases readValueWith inner c with
  | case2 | case3 | case4 => exact worded _ _ _ _
  | case5 _ _ _ _ _ _ _ _ _ _ e stopped he =>
    obtain ⟨herror, -⟩ : NumberFault.Placed text (e, stopped) := StaysIn.error _ he
    exact .fault (.here herror)
  | case6 _ _ _ _ _ _ _ _ _ _ s hs => exact .ok (StaysIn.cursor s hs)
  | case7 => exact .handed ‹_›
  | case8 => exact .carried ‹_›
  | case10 _ _ _ element | case11 _ _ _ element =>
    have := readElements_staysIn (hinner element rfl) true c.skipBlanks.next inferInstance
    first | exact .handed ‹_› | exact .carried ‹_›
  | case13 _ _ _ element _ _ hc | case14 _ _ _ element _ _ hc =>
    obtain ⟨front, htext, -⟩ := (Cursor.skipBlanks_standsIn (h := h)).exists_front
    have := readObject_staysIn (hinner element rfl) c.skipBlanks.next
      ⟨front, by rw [htext, hc, Cursor.next_of_cons hc]⟩
    first | exact .handed ‹_› | exact .carried ‹_›
  | case1 | case9 | case12 | case15 => exact .stop c.skipBlanks.next

theorem readValue_staysIn (depth : Nat) (c : Cursor) (h : c.StandsIn text) :
    StaysIn SyntaxError.Placed text (readValue depth c) := by
  induction depth generalizing c with
  | zero => exact readValueWith_staysIn (fun _ h => absurd h (Option.not_mem_none _)) c h
  | succ depth ih =>
    refine readValueWith_staysIn (fun element helement => ?_) c h
    cases helement
    exact ih

/-- Where the reading of a document stopped. -/
theorem Document.read_placed {e : SyntaxError} (h : read text = .error e) : e.Placed text := by
  unfold read at h
  split at h
  · cases h
    exact (readValue_staysIn _ _ (Cursor.start_standsIn text)).error _ ‹_›
  · rename_i s hs
    have value := (readValue_staysIn _ _ (Cursor.start_standsIn text)).cursor s hs
    split at h
    · cases h
    · cases h
      exact .here (.of_standsIn (Cursor.StandsIn.next Cursor.skipBlanks_standsIn))

end Readers

/-! ## Documents that are not loaded -/

namespace Loader

/-- **Positions.**  The position of a syntax error is a place of the text: a count of its bytes whose
line feeds give the line, and whose bytes since the last of them give the column.  The exception is an
error in the text of a number, which is a place of that text: it is the error that reading this text
by itself gives, and nothing is added for where in the document the text stands. -/
theorem load_error_position {l : Loader} {bytes : List UInt8} {e : SyntaxError}
    (h : l.load bytes = .error (.syntaxError e)) :
    ((∀ cause, e.reason ≠ .badNumberText cause) → e.position.LiesIn bytes) ∧
    ∀ cause, e.reason = .badNumberText cause → ∃ inner, HoldsNumberText bytes inner ∧
      readNumberText (Utf8.encode inner) = .error ⟨cause, e.position⟩ ∧
      e.position.LiesIn (Utf8.encode inner) := by
  cases Document.read_placed (load_eq_syntaxError_iff.mp h).1 with
  | here herror =>
    exact ⟨fun _ => herror.position, fun cause hcause => absurd hcause (herror.plain cause)⟩
  | numberText hheld hread =>
    refine ⟨fun hplain => absurd rfl (hplain _), ?_⟩
    rintro _ ⟨⟩
    exact ⟨_, hheld, hread, (readNumberText_liesIn hread).position⟩

/-- A value is missing in the second line, where the eighth byte is a brace. -/
theorem load_error_position_missing :
    load ⟨64⟩ (Utf8.encode "\x7b\n  \"a\": \x7d") =
        .error (.syntaxError ⟨.expectedValue, ⟨2, 8⟩⟩) ∧
      Position.LiesIn ⟨2, 8⟩ (Utf8.encode "\x7b\n  \"a\": \x7d") := by
  have h : load ⟨64⟩ (Utf8.encode "\x7b\n  \"a\": \x7d") =
      .error (.syntaxError ⟨.expectedValue, ⟨2, 8⟩⟩) :=
    map_error (f := fun _ => ()) (by decide +kernel)
  exact ⟨h, (load_error_position h).1 fun _ he => by cases he⟩

/-- A text of one line, with a line feed that is written as an escape. -/
def escapedFeed : List UInt8 := Utf8.encode "\x7b\"$serde_json::private::Number\":\"\\n\"\x7d"

/-- Its error is said to be in the second line. -/
theorem load_innerPosition :
    load ⟨64⟩ escapedFeed = .error (.syntaxError ⟨.badNumberText .invalidNumber, ⟨2, 0⟩⟩) ∧
      ¬ Position.LiesIn ⟨2, 0⟩ escapedFeed := by
  refine ⟨map_error (f := fun _ => ()) (by decide +kernel), fun h => ?_⟩
  have hline : 2 ≤ 1 + escapedFeed.count 10 := h.line_le
  revert hline
  decide +kernel

end Loader

end ManifestCheck
