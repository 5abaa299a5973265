import ManifestCheck.Proofs.Document.TokenReading

/-!
# Reading numbers

A number is read exactly from the numerals of the grammar, and its literal is the numeral with the
exponent in the form that is kept (`exists_numeral_of_readNumber`, `reads_number`).  Reading goes on
as long as a number could go on, so a numeral is read in full only in front of a byte that ends it.
-/

namespace ManifestCheck

/-! ## Bytes of ASCII characters -/

theorem byte_toNat {c : Char} (h : c.toNat < 128) : (byte c).toNat = c.toNat := by
  rw [byte, UInt8.toNat_ofNat']
  omega

theorem ofNat_byte {c : Char} (h : c.toNat < 128) : Char.ofNat (byte c).toNat = c := by
  rw [byte_toNat h, Char.ofNat_toNat]

theorem toNat_ofNat {b : UInt8} (h : b.toNat < 128) : (Char.ofNat b.toNat).toNat = b.toNat := by
  rw [Char.ofNat, dif_pos (.inl (by omega))]
  rfl

theorem byte_ofNat {b : UInt8} (h : b.toNat < 128) : byte (Char.ofNat b.toNat) = b := by
  rw [byte, toNat_ofNat h, UInt8.ofNat_toNat]

theorem utf8EncodeChar_ascii {c : Char} (h : c.toNat < 128) :
    String.utf8EncodeChar c = [byte c] := by
  have hc : c.val.toNat ≤ 0x7f := Nat.le_of_lt_succ h
  rw [String.utf8EncodeChar]
  simp only [if_pos hc]
  rfl

theorem flatMap_utf8EncodeChar_ascii {cs : List Char} (h : ∀ c ∈ cs, c.toNat < 128) :
    cs.flatMap String.utf8EncodeChar = cs.map byte := by
  induction cs with
  | nil => rfl
  | cons c cs ih =>
    rw [List.flatMap_cons, utf8EncodeChar_ascii (h c List.mem_cons_self),
      ih fun d hd => h d (List.mem_cons_of_mem _ hd)]
    rfl

theorem isDigitByte_iff {b : UInt8} : isDigitByte b = true ↔ 48 ≤ b.toNat ∧ b.toNat ≤ 57 := by
  simp [isDigitByte, UInt8.le_iff_toNat_le]

theorem isDigit_ofNat {b : UInt8} (h : isDigitByte b = true) :
    (Char.ofNat b.toNat).isDigit = true := by
  have hb := isDigitByte_iff.mp h
  rw [Char.isDigit_iff_toNat, toNat_ofNat (by omega)]
  exact hb

theorem isDigitByte_byte {c : Char} (h : c.isDigit = true) : isDigitByte (byte c) = true := by
  have hc : 48 ≤ c.toNat ∧ c.toNat ≤ 57 := Char.isDigit_iff_toNat.mp h
  rw [isDigitByte_iff, byte_toNat (by omega)]
  exact hc

theorem ofNat_byte_of_isDigit {c : Char} (h : c.isDigit = true) :
    Char.ofNat (byte c).toNat = c := by
  have hc : 48 ≤ c.toNat ∧ c.toNat ≤ 57 := Char.isDigit_iff_toNat.mp h
  exact ofNat_byte (by omega)

theorem map_byte_asciiChars {bytes : List UInt8} (h : ∀ b ∈ bytes, isDigitByte b = true) :
    (asciiChars bytes).map byte = bytes := by
  have hid : ∀ b ∈ bytes, (byte ∘ fun b => Char.ofNat b.toNat) b = id b := fun b hb => by
    have := isDigitByte_iff.mp (h b hb)
    exact byte_ofNat (by omega)
  rw [asciiChars, List.map_map, List.map_congr_left hid, List.map_id]

theorem asciiChars_map_byte {cs : List Char} (h : ∀ c ∈ cs, c.isDigit = true) :
    asciiChars (cs.map byte) = cs := by
  have hid : ∀ c ∈ cs, ((fun b => Char.ofNat b.toNat) ∘ byte) c = id c := fun c hc =>
    ofNat_byte_of_isDigit (h c hc)
  rw [asciiChars, List.map_map, List.map_congr_left hid, List.map_id]

/-- Whether a number may go on with a byte. -/
def continuesNumber (b : UInt8) : Bool :=
  isDigitByte b || b = byte '.' || b = byte 'e' || b = byte 'E'

/-- A number ends in front of these bytes. -/
def EndsNumber (more : List UInt8) : Prop := ∀ b ∈ more.head?, continuesNumber b = false

theorem EndsNumber.digit {more : List UInt8} (h : EndsNumber more) :
    ∀ b ∈ more.head?, isDigitByte b = false := fun b hb => by
  have hb := h b hb
  simp only [continuesNumber, Bool.or_eq_false_iff] at hb
  exact hb.1.1.1

/-! ## The parts of a number -/

theorem readDigits_value (c : Cursor) :
    (readDigits c).value = asciiChars (c.rest.takeWhile isDigitByte) :=
  congrArg asciiChars (Cursor.spanFrom_fst isDigitByte c.rest c.position)

theorem readDigits_cursor (c : Cursor) :
    (readDigits c).cursor.rest = c.rest.dropWhile isDigitByte :=
  Cursor.spanFrom_rest isDigitByte c.rest c.position

theorem readDigits_rest (c : Cursor) :
    c.rest = (readDigits c).value.map byte ++ (readDigits c).cursor.rest := by
  rw [readDigits_value, readDigits_cursor, map_byte_asciiChars fun b => List.mem_takeWhile_imp,
    List.takeWhile_append_dropWhile]

theorem readDigits_isDigit (c : Cursor) : ∀ d ∈ (readDigits c).value, d.isDigit = true := by
  intro d hd
  rw [readDigits_value] at hd
  obtain ⟨b, hb, rfl⟩ := List.mem_map.mp hd
  exact isDigit_ofNat (List.mem_takeWhile_imp hb)

theorem readDigits_row {c : Cursor} {row : List Char} {more : List UInt8}
    (hrow : ∀ d ∈ row, d.isDigit = true) (hmore : ∀ b ∈ more.head?, isDigitByte b = false)
    (hc : c.rest = row.map byte ++ more) :
    (readDigits c).value = row ∧ (readDigits c).cursor.rest = more := by
  have hall : ∀ b ∈ row.map byte, isDigitByte b = true := by
    intro b hb
    obtain ⟨d, hd, rfl⟩ := List.mem_map.mp hb
    exact isDigitByte_byte (hrow d hd)
  have hstop : more.takeWhile isDigitByte = [] ∧ more.dropWhile isDigitByte = more := by
    cases more with
    | nil => exact ⟨rfl, rfl⟩
    | cons b bs => simp [hmore b rfl]
  constructor
  · rw [readDigits_value, hc, List.takeWhile_append_of_pos hall, hstop.1, List.append_nil,
      asciiChars_map_byte hrow]
  · rw [readDigits_cursor, hc, List.dropWhile_append_of_pos hall, hstop.2]

theorem minus_of_readMinus (c : Cursor) :
    ((readMinus c).value = [] ∨ (readMinus c).value = ['-']) ∧
      c.rest = (readMinus c).value.map byte ++ (readMinus c).cursor.rest := by
  unfold readMinus
  split
  · exact ⟨.inl rfl, rfl⟩
  · rename_i b bs hc
    split
    · rename_i hb
      refine ⟨.inr rfl, ?_⟩
      rw [c.next_rest, hc, hb]
      rfl
    · exact ⟨.inl rfl, rfl⟩

theorem readMinus_sign {c : Cursor} {minus : List Char} {more : List UInt8}
    (hminus : minus = [] ∨ minus = ['-']) (hmore : ∀ b ∈ more.head?, b ≠ byte '-')
    (hc : c.rest = minus.map byte ++ more) :
    (readMinus c).value = minus ∧ (readMinus c).cursor.rest = more := by
  obtain ⟨_, p⟩ := c
  rcases hminus with rfl | rfl
  · cases hc
    cases more with
    | nil => exact ⟨rfl, rfl⟩
    | cons b bs => simp [readMinus, hmore b rfl]
  · cases hc
    simp [readMinus, Cursor.next]

theorem whole_of_readWhole {c : Cursor} {s : Step 1 c (List Char)} (h : readWhole c = .ok s) :
    Number.IsWhole s.value ∧ c.rest = s.value.map byte ++ s.cursor.rest := by
  unfold readWhole at h
  split at h
  · cases h
  · rename_i b bs hc
    have hnext : c.next.rest = bs := Cursor.next_of_cons hc
    split at h
    · rename_i hb
      have zero : Number.IsWhole ['0'] ∧ c.rest = ['0'].map byte ++ c.next.rest := by
        refine ⟨⟨⟨by simp, by simp⟩, fun _ => rfl⟩, ?_⟩
        rw [hnext, hc, hb]
        rfl
      split at h
      · split at h
        · cases h
        · cases h
          exact zero
      · cases h
        exact zero
    · rename_i hzero
      split at h
      · rename_i hb
        cases h
        have hdigit := isDigitByte_iff.mp hb
        have hbyte : byte (Char.ofNat b.toNat) = b := byte_ofNat (by omega)
        have hrest := readDigits_rest c.next
        refine ⟨⟨⟨List.cons_ne_nil _ _, List.forall_mem_cons.mpr
          ⟨isDigit_ofNat hb, readDigits_isDigit _⟩⟩, fun hfirst => ?_⟩, ?_⟩
        · -- a leading zero was ruled out before the row was read
          exact absurd (hbyte.symm.trans (congrArg byte (Option.some.inj hfirst))) hzero
        · rw [hnext] at hrest
          rw [List.map_cons, hbyte, List.cons_append, ← hrest]
          exact hc
      · cases h

theorem reads_whole {c : Cursor} {whole : List Char} {more : List UInt8}
    (hwhole : Number.IsWhole whole) (hmore : ∀ b ∈ more.head?, isDigitByte b = false)
    (hc : c.rest = whole.map byte ++ more) : Reads (readWhole c) whole more := by
  obtain ⟨⟨hne, hdigits⟩, hzero⟩ := hwhole
  obtain ⟨d, ds, rfl⟩ := List.exists_cons_of_ne_nil hne
  rw [List.map_cons, List.cons_append] at hc
  have hnext : c.next.rest = ds.map byte ++ more := Cursor.next_of_cons hc
  have hd := hdigits d List.mem_cons_self
  obtain ⟨hvalue, hrest⟩ :=
    readDigits_row (fun e he => hdigits e (List.mem_cons_of_mem _ he)) hmore hnext
  obtain ⟨_, p⟩ := c
  cases hc
  by_cases h0 : d = '0'
  · subst h0
    cases hzero rfl
    cases more with
    | nil => simp [readWhole, Cursor.next]
    | cons b bs => simp [readWhole, Cursor.next, hmore b rfl]
  · have hb : byte d ≠ byte '0' := fun h => h0 (by
      rw [← ofNat_byte_of_isDigit hd, h]
      rfl)
    simp only [readWhole, if_neg hb, isDigitByte_byte hd, if_true, reads_ok]
    exact ⟨by rw [hvalue, ofNat_byte_of_isDigit hd], hrest⟩

theorem fraction_of_readFraction {c : Cursor} {s : Step 0 c (List Char)}
    (h : readFraction c = .ok s) :
    Number.IsFraction s.value ∧ c.rest = s.value.map byte ++ s.cursor.rest := by
  unfold readFraction at h
  split at h
  · cases h
    exact ⟨.inl rfl, rfl⟩
  · rename_i b bs hc
    split at h
    · rename_i hb
      simp only at h
      split at h
      · split at h <;> cases h
      · rename_i hne
        cases h
        have hrest := readDigits_rest c.next
        refine ⟨.inr ⟨_, ⟨fun hnil => hne ?_, readDigits_isDigit _⟩, rfl⟩, ?_⟩
        · rw [hnil, List.isEmpty_nil]
        · rw [Cursor.next_of_cons hc] at hrest
          rw [List.map_cons, List.cons_append, ← hrest, ← hb]
          exact hc
    · cases h
      exact ⟨.inl rfl, rfl⟩

theorem reads_fraction {c : Cursor} {fraction : List Char} {more : List UInt8}
    (hfraction : Number.IsFraction fraction)
    (hmore : ∀ b ∈ more.head?, isDigitByte b = false ∧ b ≠ byte '.')
    (hc : c.rest = fraction.map byte ++ more) : Reads (readFraction c) fraction more := by
  rcases hfraction with rfl | ⟨row, ⟨hne, hdigits⟩, rfl⟩
  · obtain ⟨_, p⟩ := c
    cases hc
    cases more with
    | nil => simp [readFraction]
    | cons b bs => simp [readFraction, (hmore b rfl).2]
  · rw [List.map_cons, List.cons_append] at hc
    have hnext : c.next.rest = row.map byte ++ more := Cursor.next_of_cons hc
    obtain ⟨hvalue, hrest⟩ := readDigits_row hdigits (fun b hb => (hmore b hb).1) hnext
    have hempty : row.isEmpty = false := by rw [List.isEmpty_eq_false_iff]; exact hne
    obtain ⟨_, p⟩ := c
    cases hc
    simp [readFraction, hvalue, hempty, hrest]

/-- The sign that is read, and what is kept of an exponent with it. -/
theorem exists_sign_of_readExponentSign (c : Cursor) :
    ∃ sign, (sign = [] ∨ sign = ['+'] ∨ sign = ['-']) ∧
      c.rest = sign.map byte ++ (readExponentSign c).cursor.rest ∧
      ∀ row, Number.IsRow row →
        Number.signed (sign ++ row) = (readExponentSign c).value :: row := by
  unfold readExponentSign
  split
  · exact ⟨[], .inl rfl, rfl, fun _ => Number.signed_row⟩
  · rename_i b bs hc
    split
    · rename_i hb
      exact ⟨['+'], .inr (.inl rfl), by rw [c.next_rest, hc, hb]; rfl, fun _ _ => rfl⟩
    · split
      · rename_i hb
        exact ⟨['-'], .inr (.inr rfl), by rw [c.next_rest, hc, hb]; rfl, fun _ _ => rfl⟩
      · exact ⟨[], .inl rfl, rfl, fun _ => Number.signed_row⟩

theorem readExponentSign_sign {c : Cursor} {sign row : List Char} {more : List UInt8}
    (hsign : sign = [] ∨ sign = ['+'] ∨ sign = ['-']) (hrow : Number.IsRow row)
    (hc : c.rest = sign.map byte ++ (row.map byte ++ more)) :
    (readExponentSign c).value :: row = Number.signed (sign ++ row) ∧
      (readExponentSign c).cursor.rest = row.map byte ++ more := by
  obtain ⟨_, p⟩ := c
  rcases hsign with rfl | rfl | rfl
  · obtain ⟨d, ds, rfl⟩ := List.exists_cons_of_ne_nil hrow.1
    have hdigit := isDigitByte_byte (hrow.2 d List.mem_cons_self)
    have hplus : byte d ≠ byte '+' := fun h => by
      rw [h] at hdigit
      cases hdigit
    have hminus : byte d ≠ byte '-' := fun h => by
      rw [h] at hdigit
      cases hdigit
    rw [List.nil_append, Number.signed_row hrow]
    cases hc
    simp [readExponentSign, hplus, hminus]
  · cases hc
    simp [readExponentSign, Cursor.next, Number.signed]
  · have hplus : byte '-' ≠ byte '+' := by decide
    cases hc
    simp [readExponentSign, Cursor.next, Number.signed, hplus]

theorem row_of_readExponentDigits {c : Cursor} {s : Step 0 c (List Char)}
    (h : readExponentDigits c = .ok s) :
    Number.IsRow s.value ∧ c.rest = s.value.map byte ++ s.cursor.rest := by
  unfold readExponentDigits at h
  split at h
  · cases h
  · rename_i b bs hc
    split at h
    · rename_i hb
      cases h
      refine ⟨⟨?_, readDigits_isDigit c⟩, readDigits_rest c⟩
      simp [readDigits_value, hc, hb, asciiChars]
    · cases h

theorem reads_exponentDigits {c : Cursor} {row : List Char} {more : List UInt8}
    (hrow : Number.IsRow row) (hmore : ∀ b ∈ more.head?, isDigitByte b = false)
    (hc : c.rest = row.map byte ++ more) : Reads (readExponentDigits c) row more := by
  have hdigits := readDigits_row hrow.2 hmore hc
  obtain ⟨d, ds, rfl⟩ := List.exists_cons_of_ne_nil hrow.1
  obtain ⟨_, p⟩ := c
  cases hc
  simp only [readExponentDigits, isDigitByte_byte (hrow.2 d List.mem_cons_self), if_true, reads_ok]
  exact hdigits

theorem exists_exponent_of_readExponent {c : Cursor} {s : Step 0 c (List Char)}
    (h : readExponent c = .ok s) :
    ∃ source, Number.IsWrittenExponent source ∧ s.value = Number.keptChars source ∧
      c.rest = source.map byte ++ s.cursor.rest := by
  unfold readExponent at h
  split at h
  · cases h
    exact ⟨[], .inl rfl, rfl, rfl⟩
  · rename_i b bs hc
    split at h
    · rename_i hb
      simp only at h
      split at h
      · cases h
      · rename_i digits hdigits
        cases h
        obtain ⟨sign, hsign, hrest, hkept⟩ := exists_sign_of_readExponentSign c.next
        obtain ⟨hrow, hrest'⟩ := row_of_readExponentDigits hdigits
        have mark : ∃ mark, (mark = 'e' ∨ mark = 'E') ∧ b = byte mark := by
          rcases Bool.or_eq_true_iff.mp hb with h | h
          · exact ⟨'e', .inl rfl, of_decide_eq_true h⟩
          · exact ⟨'E', .inr rfl, of_decide_eq_true h⟩
        obtain ⟨mark, hmark, rfl⟩ := mark
        refine ⟨mark :: (sign ++ digits.value), .inr ⟨mark, sign, _, hmark, hsign, hrow, rfl⟩, ?_, ?_⟩
        · rw [Number.keptChars_mark hmark, hkept _ hrow]
        · rw [Cursor.next_of_cons hc] at hrest
          rw [hrest'] at hrest
          simp only [hc, hrest, List.map_cons, List.map_append, List.cons_append,
            List.append_assoc]
    · cases h
      exact ⟨[], .inl rfl, rfl, rfl⟩

theorem reads_exponent {c : Cursor} {exponent : List Char} {more : List UInt8}
    (hexponent : Number.IsWrittenExponent exponent) (hmore : EndsNumber more)
    (hc : c.rest = exponent.map byte ++ more) :
    Reads (readExponent c) (Number.keptChars exponent) more := by
  rcases hexponent with rfl | ⟨mark, sign, row, hmark, hsign, hrow, rfl⟩
  · obtain ⟨_, p⟩ := c
    cases hc
    cases more with
    | nil => simp [readExponent, Number.keptChars]
    | cons b bs =>
      have hb := hmore b rfl
      simp only [continuesNumber, Bool.or_eq_false_iff, decide_eq_false_iff_not] at hb
      simp [readExponent, Number.keptChars, hb]
  · rw [List.map_cons, List.map_append, List.cons_append, List.append_assoc] at hc
    have hnext : c.next.rest = sign.map byte ++ (row.map byte ++ more) := Cursor.next_of_cons hc
    obtain ⟨hsigned, hrest⟩ := readExponentSign_sign hsign hrow hnext
    obtain ⟨s, hs, hvalue, hrest'⟩ := reads_exponentDigits hrow hmore.digit hrest
    have hb : (byte mark = byte 'e' || byte mark = byte 'E') = true := by
      rcases hmark with rfl | rfl <;> rfl
    rw [Number.keptChars_mark hmark, ← hsigned]
    obtain ⟨_, p⟩ := c
    cases hc
    simp only [readExponent, if_pos hb, hs, reads_ok]
    exact ⟨by rw [hvalue], hrest'⟩

/-! ## Numbers -/

theorem head_exponent {exponent : List Char} {more : List UInt8}
    (hexponent : Number.IsWrittenExponent exponent) (hmore : EndsNumber more) :
    ∀ b ∈ (exponent.map byte ++ more).head?, isDigitByte b = false ∧ b ≠ byte '.' := by
  rcases hexponent with rfl | ⟨mark, sign, row, hmark, -, -, rfl⟩
  · intro b hb
    have hb := hmore b hb
    simp only [continuesNumber, Bool.or_eq_false_iff, decide_eq_false_iff_not] at hb
    exact hb.1.1
  · intro b hb
    cases hb
    rcases hmark with rfl | rfl <;> decide

theorem head_fraction {fraction : List Char} {more : List UInt8}
    (hfraction : Number.IsFraction fraction) (hmore : ∀ b ∈ more.head?, isDigitByte b = false) :
    ∀ b ∈ (fraction.map byte ++ more).head?, isDigitByte b = false := by
  rcases hfraction with rfl | ⟨row, -, rfl⟩
  · exact hmore
  · intro b hb
    cases hb
    decide

theorem head_whole {whole : List Char} (hwhole : Number.IsWhole whole) (more : List UInt8) :
    ∃ b bs, whole.map byte ++ more = b :: bs ∧ isDigitByte b = true := by
  obtain ⟨d, ds, rfl⟩ := List.exists_cons_of_ne_nil hwhole.1.1
  exact ⟨byte d, _, rfl, isDigitByte_byte (hwhole.1.2 d List.mem_cons_self)⟩

/-- A numeral starts as numbers do. -/
theorem startsNumber_of_isNumeral {cs : List Char} (h : Number.IsNumeral cs) :
    ∃ b bs, cs.map byte = b :: bs ∧ startsNumber b = true := by
  obtain ⟨minus, whole, fraction, exponent, hminus, hwhole, -, -, rfl⟩ := h
  rcases hminus with rfl | rfl
  · obtain ⟨b, bs, hcons, hb⟩ := head_whole hwhole ((fraction ++ exponent).map byte)
    refine ⟨b, bs, ?_, by rw [startsNumber, hb, Bool.or_true]⟩
    rw [← hcons, List.nil_append, List.append_assoc, List.map_append]
  · exact ⟨byte '-', _, rfl, rfl⟩

theorem toNat_lt_of_isNumeral {cs : List Char} (h : Number.IsNumeral cs) :
    ∀ c ∈ cs, c.toNat < 128 := by
  have digit : ∀ row : List Char, (∀ c ∈ row, c.isDigit = true) → ∀ c ∈ row, c.toNat < 128 := by
    intro row hrow c hc
    have hdigit : 48 ≤ c.toNat ∧ c.toNat ≤ 57 := Char.isDigit_iff_toNat.mp (hrow c hc)
    omega
  obtain ⟨minus, whole, fraction, exponent, hminus, hwhole, hfraction, hexponent, rfl⟩ := h
  simp only [List.forall_mem_append]
  refine ⟨⟨⟨?_, digit whole hwhole.1.2⟩, ?_⟩, ?_⟩
  · rcases hminus with rfl | rfl <;> simp
  · rcases hfraction with rfl | ⟨row, hrow, rfl⟩
    · simp
    · exact List.forall_mem_cons.mpr ⟨by decide, digit row hrow.2⟩
  · rcases hexponent with rfl | ⟨mark, sign, row, hmark, hsign, hrow, rfl⟩
    · simp
    · refine List.forall_mem_cons.mpr ⟨?_, List.forall_mem_append.mpr ⟨?_, digit row hrow.2⟩⟩
      · rcases hmark with rfl | rfl <;> decide
      · rcases hsign with rfl | rfl | rfl <;> simp

theorem exists_numeral_of_readNumber {c : Cursor} {s : Step 1 c Number}
    (h : readNumber c = .ok s) :
    ∃ n : Number, Number.IsNumeral n.literal.toList ∧ s.value = n.kept ∧
      c.rest = n.literal.toList.map byte ++ s.cursor.rest := by
  unfold readNumber at h
  simp only at h
  split at h
  · cases h
  · rename_i whole hwhole
    split at h
    · cases h
    · rename_i fraction hfraction
      split at h
      · cases h
      · rename_i exponent hexponent
        cases h
        obtain ⟨hminus, hrest₁⟩ := minus_of_readMinus c
        obtain ⟨hwhole', hrest₂⟩ := whole_of_readWhole hwhole
        obtain ⟨hfraction', hrest₃⟩ := fraction_of_readFraction hfraction
        obtain ⟨source, hsource, hkept, hrest⟩ := exists_exponent_of_readExponent hexponent
        refine ⟨⟨String.ofList ((readMinus c).value ++ whole.value ++ fraction.value ++ source)⟩,
          ?_, ?_, ?_⟩
        · rw [String.toList_ofList]
          exact ⟨_, _, _, _, hminus, hwhole', hfraction', hsource, rfl⟩
        · rw [Number.kept, String.toList_ofList,
            Number.keptChars_append (Number.not_mark_of_mem hminus hwhole' hfraction'), hkept]
        · rw [String.toList_ofList, hrest₁, hrest₂, hrest₃, hrest]
          simp only [List.map_append, List.append_assoc]

/-- **Whatever is read as a number has a literal of the grammar.** -/
theorem readNumber_isLiteral {c : Cursor} {s : Step 1 c Number} (h : readNumber c = .ok s) :
    s.value.IsLiteral := by
  obtain ⟨n, hn, hkept, -⟩ := exists_numeral_of_readNumber h
  exact hkept ▸ Number.isLiteral_kept hn

theorem reads_number {c : Cursor} {n : Number} {more : List UInt8}
    (hn : Number.IsNumeral n.literal.toList) (hmore : EndsNumber more)
    (hc : c.rest = n.literal.toList.map byte ++ more) : Reads (readNumber c) n.kept more := by
  obtain ⟨minus, whole, fraction, exponent, hminus, hwhole, hfraction, hexponent, hparts⟩ := hn
  rw [hparts, List.map_append, List.map_append, List.map_append, List.append_assoc,
    List.append_assoc, List.append_assoc] at hc
  have hexponent' := head_exponent hexponent hmore
  have hfraction' := head_fraction hfraction fun b hb => (hexponent' b hb).1
  have hwhole' : ∀ b ∈ (whole.map byte ++ (fraction.map byte ++ (exponent.map byte ++ more))).head?,
      b ≠ byte '-' := by
    obtain ⟨d, ds, hcons, hd⟩ := head_whole hwhole (fraction.map byte ++ (exponent.map byte ++ more))
    rw [hcons]
    rintro b hb rfl
    cases hb
    cases hd
  obtain ⟨hvalue, hrest⟩ := readMinus_sign hminus hwhole' hc
  obtain ⟨s, hs, hwholeValue, hrest⟩ := reads_whole hwhole hfraction' hrest
  obtain ⟨t, ht, hfractionValue, hrest⟩ := reads_fraction hfraction hexponent' hrest
  obtain ⟨u, hu, hexponentValue, hrest⟩ := reads_exponent hexponent hmore hrest
  unfold readNumber
  simp only [hs, ht, hu, reads_ok]
  refine ⟨?_, hrest⟩
  rw [hvalue, hwholeValue, hfractionValue, hexponentValue, Number.kept, hparts,
    Number.keptChars_append (Number.not_mark_of_mem hminus hwhole hfraction)]

theorem encode_of_isNumeral {text : String} (h : Number.IsNumeral text.toList) :
    Utf8.encode text = text.toList.map byte :=
  flatMap_utf8EncodeChar_ascii (toNat_lt_of_isNumeral h)

/-- A text is a number if one can be read from it that leaves nothing behind. -/
theorem readNumberText_eq_ok_iff_reads {bytes : List UInt8} {n : Number} :
    readNumberText bytes = .ok n ↔ Reads (readNumber (Cursor.start bytes)) n [] := by
  constructor
  · intro h
    unfold readNumberText at h
    simp only at h
    split at h
    · cases h
    · rename_i b bs hc
      by_cases hb : startsNumber b = true
      · rw [if_pos hb] at h
        cases hs : readNumber (Cursor.start bytes) with
        | error e =>
          simp only [hs] at h
          split at h <;> cases h
        | ok s =>
          simp only [hs] at h
          split at h
          · rename_i hrest
            cases h
            exact ⟨s, rfl, rfl, hrest⟩
          · cases h
      · rw [if_neg hb] at h
        simp only at h
        split at h <;> cases h
  · rintro ⟨s, hs, rfl, hrest⟩
    obtain ⟨n, hn, -, hc⟩ := exists_numeral_of_readNumber hs
    obtain ⟨b, bs, hcons, hb⟩ := startsNumber_of_isNumeral hn
    rw [hrest, List.append_nil, hcons] at hc
    cases hc
    have hstart : (Cursor.start (b :: bs)).rest = b :: bs := rfl
    simp [readNumberText, hstart, hb, hs, hrest]

/-- **Texts of numbers.**  Just the numerals are taken for the text of a number. -/
theorem readNumberText_eq_ok_iff {text : String} {n : Number} :
    readNumberText (Utf8.encode text) = .ok n ↔
      Number.IsNumeral text.toList ∧ n = Number.kept ⟨text⟩ := by
  rw [readNumberText_eq_ok_iff_reads]
  constructor
  · rintro ⟨s, hs, rfl, hrest⟩
    obtain ⟨m, hm, hkept, hc⟩ := exists_numeral_of_readNumber hs
    rw [hrest, List.append_nil, ← encode_of_isNumeral hm] at hc
    cases Utf8.encode_injective hc
    exact ⟨hm, hkept⟩
  · rintro ⟨htext, rfl⟩
    refine reads_number (n := ⟨text⟩) htext (by simp [EndsNumber]) ?_
    rw [List.append_nil, ← encode_of_isNumeral htext]
    rfl

/-- A literal that reads as itself. -/
theorem Number.isLiteral_of_read {n : Number}
    (h : (readNumberText (Utf8.encode n.literal)).toOption = some n) : n.IsLiteral := by
  cases hread : readNumberText (Utf8.encode n.literal) with
  | error e =>
    rw [hread] at h
    cases h
  | ok m =>
    rw [hread] at h
    cases h
    obtain ⟨hn, hkept⟩ := readNumberText_eq_ok_iff.mp hread
    rw [hkept]
    exact isLiteral_kept hn

end ManifestCheck
