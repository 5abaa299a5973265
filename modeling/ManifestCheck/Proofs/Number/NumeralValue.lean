import Mathlib.Algebra.Order.Field.Rat
import Mathlib.Data.List.TakeWhile
import Mathlib.Tactic.FieldSimp
import Mathlib.Tactic.Ring
import ManifestCheck.Proofs.Document.TextGrammar

/-!
# The value of a numeral

A numeral writes a rational number: the digits in front of the point are whole, those behind it are
parts of the whole, and the exponent scales both by a power of ten (`Number.Denotes`).  Every
numeral writes exactly one number (`Number.isNumeral_iff`, `Number.Writes.unique`).  The reader of
decimal fractions finds this number (`Number.Writes.readFraction?`), and the reader of integers
finds it where there is neither fraction nor exponent (`Number.Writes.readSigned?`).
-/

namespace ManifestCheck

namespace Digits

/-- The rational number that a decimal fraction stands for. -/
def Fraction.toRat (f : Fraction) : ℚ :=
  (if f.negative then -1 else 1) * (f.digits * 10 ^ f.exponent)

/-! ## Rows of digits -/

theorem foldl_value (n : Nat) (cs : List Char) :
    cs.foldl (fun n c => 10 * n + digitValue c) n = n * 10 ^ cs.length + value cs := by
  unfold value
  induction cs generalizing n with
  | nil => simp
  | cons c cs ih =>
    rw [List.foldl_cons, List.foldl_cons, ih, ih (10 * 0 + digitValue c), List.length_cons]
    ring

/-- Digits put behind a row move it to the left by so many places. -/
theorem value_append (front cs : List Char) :
    value (front ++ cs) = value front * 10 ^ cs.length + value cs := by
  rw [value, List.foldl_append, foldl_value]
  rfl

variable {row more : List Char}

/-- A row ends where no digit follows. -/
theorem span_row (hrow : ∀ c ∈ row, c.isDigit = true)
    (hmore : ∀ c ∈ more.head?, c.isDigit = false) :
    (row ++ more).takeWhile Char.isDigit = row ∧ (row ++ more).dropWhile Char.isDigit = more := by
  rw [List.takeWhile_append_of_pos hrow, List.dropWhile_append_of_pos hrow]
  cases more with
  | nil => simp
  | cons c cs => simp [hmore c rfl]

theorem splitSign_row (hrow : Number.IsRow row) (more : List Char) :
    splitSign (row ++ more) = (false, row ++ more) := by
  obtain ⟨hne, hdigits⟩ := hrow
  cases row with
  | nil => exact absurd rfl hne
  | cons c cs =>
    have hc : c.isDigit = true := hdigits c List.mem_cons_self
    rw [List.cons_append]
    unfold splitSign
    split
    · rename_i heq
      cases heq
      cases hc
    · rename_i heq
      cases heq
      cases hc
    · rfl

theorem read?_row (hrow : Number.IsRow row) : read? row = some (value row) := by
  have hall : row.all Char.isDigit = true := List.all_eq_true.mpr hrow.2
  rw [read?, if_neg (by simp [hall, hrow.1])]

theorem readSigned?_row (hrow : Number.IsRow row) : readSigned? row = some (value row : Int) := by
  have hs : splitSign row = (false, row) := by simpa using splitSign_row hrow []
  rw [readSigned?, hs]
  simp [read?_row hrow]

theorem readSigned?_plus (hrow : Number.IsRow row) :
    readSigned? ('+' :: row) = some (value row : Int) := by
  rw [readSigned?, splitSign]
  simp [read?_row hrow]

theorem readSigned?_minus (hrow : Number.IsRow row) :
    readSigned? ('-' :: row) = some (-(value row : Int)) := by
  rw [readSigned?, splitSign]
  simp [read?_row hrow]

end Digits

namespace Number

open Digits (value)

/-! ## What a numeral writes -/

/-- A fraction and what it adds to the whole part. -/
inductive WritesFraction : List Char → ℚ → Prop
  | nothing : WritesFraction [] 0
  | digits {row : List Char} : IsRow row →
    WritesFraction ('.' :: row) (value row / 10 ^ row.length)

/-- An exponent and the power of ten that it stands for. -/
inductive WritesExponent : List Char → Int → Prop
  | nothing : WritesExponent [] 0
  | unsigned {mark : Char} {row : List Char} : mark = 'e' ∨ mark = 'E' → IsRow row →
    WritesExponent (mark :: row) (value row)
  | plus {mark : Char} {row : List Char} : mark = 'e' ∨ mark = 'E' → IsRow row →
    WritesExponent (mark :: '+' :: row) (value row)
  | minus {mark : Char} {row : List Char} : mark = 'e' ∨ mark = 'E' → IsRow row →
    WritesExponent (mark :: '-' :: row) (-(value row : Int))

/-- A numeral without its sign and the number that it writes. -/
inductive WritesMagnitude : List Char → ℚ → Prop
  | parts {whole fraction exponent : List Char} {f : ℚ} {e : Int} : IsWhole whole →
    WritesFraction fraction f → WritesExponent exponent e →
    WritesMagnitude (whole ++ fraction ++ exponent) ((value whole + f) * 10 ^ e)

/-- A numeral and the rational number that it writes. -/
inductive Writes : List Char → ℚ → Prop
  | plain {cs : List Char} {q : ℚ} : WritesMagnitude cs q → Writes cs q
  | minus {cs : List Char} {q : ℚ} : WritesMagnitude cs q → Writes ('-' :: cs) (-q)

/-- The rational number that the literal of a number writes. -/
def Denotes (n : Number) (q : ℚ) : Prop := Writes n.literal.toList q

-- by the elements of the list: there also is an instance that tries all characters
instance (cs : List Char) : Decidable (IsRow cs) :=
  decidable_of_iff (cs ≠ [] ∧ cs.all Char.isDigit = true) (and_congr Iff.rfl List.all_eq_true)

instance (cs : List Char) : Decidable (IsWhole cs) :=
  inferInstanceAs (Decidable (IsRow cs ∧ (cs.head? = some '0' → cs = ['0'])))

theorem Writes.whole {whole : List Char} (h : IsWhole whole) : Writes whole (value whole) := by
  simpa using Writes.plain (.parts h .nothing .nothing)

theorem Denotes.of_whole {n : Number} {k : Nat} (h : IsWhole n.literal.toList)
    (hk : value n.literal.toList = k) : n.Denotes k :=
  hk ▸ Writes.whole h

theorem Writes.decimals {whole row : List Char} (h : IsWhole whole) (hrow : IsRow row) :
    Writes (whole ++ '.' :: row) (value whole + value row / 10 ^ row.length) := by
  simpa using Writes.plain (.parts h (.digits hrow) .nothing)

theorem isFraction_iff {cs : List Char} : IsFraction cs ↔ ∃ f, WritesFraction cs f := by
  constructor
  · intro h
    rcases h with rfl | ⟨row, hrow, rfl⟩
    · exact ⟨_, .nothing⟩
    · exact ⟨_, .digits hrow⟩
  · rintro ⟨f, h⟩
    cases h with
    | nothing => exact .inl rfl
    | digits hrow => exact .inr ⟨_, hrow, rfl⟩

theorem isWrittenExponent_iff {cs : List Char} :
    IsWrittenExponent cs ↔ ∃ e, WritesExponent cs e := by
  constructor
  · intro h
    rcases h with rfl | ⟨mark, sign, row, hmark, hsign, hrow, rfl⟩
    · exact ⟨_, .nothing⟩
    · rcases hsign with rfl | rfl | rfl
      · exact ⟨_, .unsigned hmark hrow⟩
      · exact ⟨_, .plus hmark hrow⟩
      · exact ⟨_, .minus hmark hrow⟩
  · rintro ⟨e, h⟩
    cases h with
    | nothing => exact .inl rfl
    | unsigned hmark hrow => exact .inr ⟨_, [], _, hmark, .inl rfl, hrow, rfl⟩
    | plus hmark hrow => exact .inr ⟨_, ['+'], _, hmark, .inr (.inl rfl), hrow, rfl⟩
    | minus hmark hrow => exact .inr ⟨_, ['-'], _, hmark, .inr (.inr rfl), hrow, rfl⟩

/-- **The numerals are just the texts that write a number.** -/
theorem isNumeral_iff {cs : List Char} : IsNumeral cs ↔ ∃ q, Writes cs q := by
  constructor
  · rintro ⟨minus, whole, fraction, exponent, hminus, hwhole, hfraction, hexponent, rfl⟩
    obtain ⟨f, hf⟩ := isFraction_iff.mp hfraction
    obtain ⟨e, he⟩ := isWrittenExponent_iff.mp hexponent
    rcases hminus with rfl | rfl
    · exact ⟨_, .plain (.parts hwhole hf he)⟩
    · exact ⟨_, .minus (.parts hwhole hf he)⟩
  · rintro ⟨q, h⟩
    cases h with
    | plain h =>
      obtain ⟨hwhole, hf, he⟩ := h
      exact ⟨[], _, _, _, .inl rfl, hwhole, isFraction_iff.mpr ⟨_, hf⟩,
        isWrittenExponent_iff.mpr ⟨_, he⟩, rfl⟩
    | minus h =>
      obtain ⟨hwhole, hf, he⟩ := h
      exact ⟨['-'], _, _, _, .inr rfl, hwhole, isFraction_iff.mpr ⟨_, hf⟩,
        isWrittenExponent_iff.mpr ⟨_, he⟩, rfl⟩

/-! ## What the readers find -/

section Reading

variable {cs whole fraction exponent : List Char} {f q : ℚ} {e : Int}

theorem WritesExponent.readExponent? (h : WritesExponent exponent e) :
    Digits.readExponent? exponent = some e := by
  cases h with
  | nothing => rfl
  | unsigned hmark hrow =>
    rcases hmark with rfl | rfl <;> exact Digits.readSigned?_row hrow
  | plus hmark hrow =>
    rcases hmark with rfl | rfl <;> exact Digits.readSigned?_plus hrow
  | minus hmark hrow =>
    rcases hmark with rfl | rfl <;> exact Digits.readSigned?_minus hrow

/-- An exponent starts with its mark. -/
theorem WritesExponent.eq_nil_or (h : WritesExponent exponent e) :
    exponent = [] ∨ ∃ rest, exponent = 'e' :: rest ∨ exponent = 'E' :: rest := by
  cases h with
  | nothing => exact .inl rfl
  | unsigned hmark _ | plus hmark _ | minus hmark _ =>
    rcases hmark with rfl | rfl
    · exact .inr ⟨_, .inl rfl⟩
    · exact .inr ⟨_, .inr rfl⟩

/-- A fraction is told from the whole part and from the exponent by its point. -/
theorem readFraction?_parts {negative : Bool} (hwhole : IsWhole whole)
    (hf : WritesFraction fraction f) (he : WritesExponent exponent e)
    (hs : Digits.splitSign cs = (negative, whole ++ fraction ++ exponent)) :
    ∃ (k : Nat) (x : Int), Digits.readFraction? cs = some ⟨negative, k, x⟩ ∧
      (k : ℚ) * 10 ^ x = (value whole + f) * 10 ^ e := by
  have hread := he.readExponent?
  have hbehind : ∀ c ∈ exponent.head?, c.isDigit = false := by
    rcases he.eq_nil_or with rfl | ⟨rest, rfl | rfl⟩ <;> rintro c ⟨⟩ <;> rfl
  have hne : whole ≠ [] := hwhole.1.1
  unfold Digits.readFraction?
  rw [hs]
  cases hf with
  | nothing =>
    obtain ⟨htake, hdrop⟩ := Digits.span_row hwhole.1.2 hbehind
    refine ⟨value whole, e, ?_, by ring⟩
    rw [List.append_nil]
    rcases he.eq_nil_or with rfl | ⟨rest, rfl | rfl⟩ <;> simp only [htake, hdrop] <;>
      simp [hne, hread]
  | @digits row hrow =>
    have hpoint : ∀ c ∈ ('.' :: (row ++ exponent)).head?, c.isDigit = false := by
      rintro c ⟨⟩
      rfl
    obtain ⟨htake, hdrop⟩ := Digits.span_row hwhole.1.2 hpoint
    obtain ⟨htake', hdrop'⟩ := Digits.span_row hrow.2 hbehind
    refine ⟨value (whole ++ row), e - row.length, ?_, ?_⟩
    · rw [List.append_assoc, List.cons_append]
      simp [htake, hdrop, htake', hdrop', hne, hread]
    · have hten : (10 : ℚ) ≠ 0 := by norm_num
      rw [Digits.value_append, zpow_sub₀ hten, zpow_natCast]
      push_cast
      field_simp

/-- **The reader of decimal fractions finds the number that a numeral writes.** -/
theorem Writes.readFraction? (h : Writes cs q) :
    ∃ fr, Digits.readFraction? cs = some fr ∧ fr.toRat = q := by
  cases h with
  | plain h =>
    obtain @⟨whole, fraction, exponent, _, _, hwhole, hf, he⟩ := h
    have hs := Digits.splitSign_row hwhole.1 (fraction ++ exponent)
    rw [← List.append_assoc] at hs
    obtain ⟨k, x, hread, hvalue⟩ := readFraction?_parts hwhole hf he hs
    exact ⟨_, hread, by simpa [Digits.Fraction.toRat] using hvalue⟩
  | minus h =>
    obtain @⟨whole, fraction, exponent, _, _, hwhole, hf, he⟩ := h
    have hs : Digits.splitSign ('-' :: (whole ++ fraction ++ exponent)) =
        (true, whole ++ fraction ++ exponent) := rfl
    obtain ⟨k, x, hread, hvalue⟩ := readFraction?_parts hwhole hf he hs
    exact ⟨_, hread, by simpa [Digits.Fraction.toRat] using hvalue⟩

/-- A text writes one number at most. -/
theorem Writes.unique {r : ℚ} (h : Writes cs q) (h' : Writes cs r) : q = r := by
  obtain ⟨fr, hread, rfl⟩ := h.readFraction?
  obtain ⟨fr', hread', rfl⟩ := h'.readFraction?
  rw [Option.some.inj (hread.symm.trans hread')]

/-! ## Numerals without fraction and exponent -/

/-- A numeral of an integer is a row of digits behind at most a minus sign. -/
theorem Writes.exists_row (h : Writes cs q) (hplain : ∀ c ∈ cs, marksFraction c = false) :
    ∃ row, IsRow row ∧ (cs = row ∧ q = value row ∨ cs = '-' :: row ∧ q = -value row) := by
  have magnitude : ∀ {cs : List Char} {q : ℚ}, WritesMagnitude cs q →
      (∀ c ∈ cs, marksFraction c = false) → IsRow cs ∧ q = value cs := by
    rintro _ _ @⟨whole, fraction, exponent, _, _, hwhole, hf, he⟩ hplain
    cases hf with
    | digits => exact absurd (hplain '.' (by simp)) (by decide)
    | nothing =>
      rcases he.eq_nil_or with rfl | ⟨rest, rfl | rfl⟩
      · cases he
        simpa using hwhole.1
      · exact absurd (hplain 'e' (by simp)) (by decide)
      · exact absurd (hplain 'E' (by simp)) (by decide)
  cases h with
  | plain h =>
    obtain ⟨hrow, hq⟩ := magnitude h hplain
    exact ⟨_, hrow, .inl ⟨rfl, hq⟩⟩
  | minus h =>
    obtain ⟨hrow, hq⟩ := magnitude h fun c hc => hplain c (List.mem_cons_of_mem _ hc)
    exact ⟨_, hrow, .inr ⟨rfl, congrArg _ hq⟩⟩

/-- **The reader of integers finds the number that such a numeral writes.** -/
theorem Writes.readSigned? (h : Writes cs q) (hplain : ∀ c ∈ cs, marksFraction c = false) :
    ∃ v : Int, Digits.readSigned? cs = some v ∧ q = v := by
  obtain ⟨row, hrow, ⟨rfl, rfl⟩ | ⟨rfl, rfl⟩⟩ := h.exists_row hplain
  · exact ⟨_, Digits.readSigned?_row hrow, by norm_cast⟩
  · exact ⟨_, Digits.readSigned?_minus hrow, by push_cast; rfl⟩

theorem isInteger_iff {n : Number} :
    n.isInteger = true ↔ ∀ c ∈ n.literal.toList, marksFraction c = false := by
  unfold isInteger kind
  split
  · rename_i h
    obtain ⟨c, hc, hm⟩ := List.any_eq_true.mp h
    simpa using ⟨c, hc, hm⟩
  · rename_i h
    simpa using h

end Reading

end Number

end ManifestCheck
