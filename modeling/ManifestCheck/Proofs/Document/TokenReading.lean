import ManifestCheck.Proofs.Document.TextGrammar
import Mathlib.Data.List.DropRight
import Mathlib.Data.List.TakeWhile

/-!
# Reading tokens

Each reader of a token succeeds exactly on the bytes that the grammar gives the token, whatever
follows them: words (`reads_word_iff`), escapes (`reads_escape_iff`) and strings
(`reads_string_iff`).
-/

namespace ManifestCheck

/-- A reading step succeeds with a value and leaves just these bytes. -/
def Reads {ε α : Type} {n : Nat} {c : Cursor} (r : Except ε (Step n c α)) (a : α)
    (more : List UInt8) : Prop :=
  ∃ s, r = .ok s ∧ s.value = a ∧ s.cursor.rest = more

section Reads

variable {ε α : Type} {n : Nat} {c : Cursor} {a : α} {more : List UInt8}

@[simp]
theorem reads_error {e : ε} : ¬ Reads (.error e : Except ε (Step n c α)) a more := by
  rintro ⟨s, h, -⟩
  cases h

@[simp]
theorem reads_ok {s : Step n c α} :
    Reads (.ok s : Except ε (Step n c α)) a more ↔ s.value = a ∧ s.cursor.rest = more := by
  constructor
  · rintro ⟨_, h, hs⟩
    cases h
    exact hs
  · exact fun hs => ⟨s, rfl, hs⟩

theorem Reads.unique {ε α : Type} {n : Nat} {c : Cursor} {r : Except ε (Step n c α)} {a b : α}
    {more rest : List UInt8} (h : Reads r a more) (h' : Reads r b rest) : a = b ∧ more = rest := by
  obtain ⟨s, rfl, rfl, rfl⟩ := h
  exact reads_ok.mp h'

end Reads

/-! ## Blanks and cursors -/

namespace Grammar

theorem dropWhile_blanks {blanks more : List UInt8} {b : UInt8} (hb : Blanks blanks)
    (h : Cursor.isBlankByte b = false) :
    (blanks ++ b :: more).dropWhile Cursor.isBlankByte = b :: more := by
  rw [List.dropWhile_append_of_pos hb, List.dropWhile_cons_of_neg (by rw [h]; decide)]

theorem exists_blanks (bytes : List UInt8) :
    ∃ blanks, Blanks blanks ∧ bytes = blanks ++ bytes.dropWhile Cursor.isBlankByte :=
  ⟨bytes.takeWhile Cursor.isBlankByte, fun _ hb => List.mem_takeWhile_imp hb, by
    rw [List.takeWhile_append_dropWhile]⟩

end Grammar

namespace Cursor

theorem next_rest (c : Cursor) : c.next.rest = c.rest.tail := by
  cases h : c.rest <;> simp [next, h]

theorem next_of_cons {c : Cursor} {b : UInt8} {bs : List UInt8} (hc : c.rest = b :: bs) :
    c.next.rest = bs := by
  rw [next_rest, hc, List.tail_cons]

theorem spanFrom_fst (test : UInt8 → Bool) (bs : List UInt8) (p : Position) :
    (spanFrom test bs p).1 = bs.takeWhile test := by
  induction bs generalizing p with
  | nil => rfl
  | cons b bs ih => by_cases h : test b <;> simp [spanFrom, h, ih]

theorem spanFrom_rest (test : UInt8 → Bool) (bs : List UInt8) (p : Position) :
    (spanFrom test bs p).2.rest = bs.dropWhile test := by
  induction bs generalizing p with
  | nil => rfl
  | cons b bs ih => by_cases h : test b <;> simp [spanFrom, h, ih]

theorem skipBlanks_rest (c : Cursor) : c.skipBlanks.rest = c.rest.dropWhile isBlankByte :=
  spanFrom_rest _ _ _

theorem skipBlanks_idem (c : Cursor) : c.skipBlanks.skipBlanks.rest = c.skipBlanks.rest := by
  rw [skipBlanks_rest, skipBlanks_rest, List.dropWhile_idempotent]

theorem isBlankByte_iff {b : UInt8} :
    isBlankByte b = true ↔ b = 32 ∨ b = 10 ∨ b = 9 ∨ b = 13 := by
  simp [isBlankByte, or_assoc]

theorem skipBlanks_of_append {c : Cursor} {blanks more : List UInt8} {b : UInt8}
    (hb : Grammar.Blanks blanks) (hc : c.rest = blanks ++ b :: more)
    (h : isBlankByte b = false) : c.skipBlanks.rest = b :: more := by
  rw [skipBlanks_rest, hc, Grammar.dropWhile_blanks hb h]

/-- Whatever was skipped is blank. -/
theorem exists_blanks (c : Cursor) :
    ∃ blanks, Grammar.Blanks blanks ∧ c.rest = blanks ++ c.skipBlanks.rest := by
  rw [skipBlanks_rest]
  exact Grammar.exists_blanks c.rest

end Cursor

/-! ## Words and strings -/

theorem reads_word_iff {expected : List Char} {c : Cursor} {more : List UInt8} :
    Reads (readWord expected c) () more ↔ c.rest = expected.map byte ++ more := by
  induction expected generalizing c with
  | nil => simp [readWord]
  | cons e es ih =>
    unfold readWord
    split
    · rename_i hc
      simp [hc]
    · rename_i b bs hc
      have ih : Reads (readWord es c.next) () more ↔ bs = es.map byte ++ more := by
        simpa [c.next_rest, hc] using ih (c := c.next)
      by_cases hb : b = byte e
      · rw [if_pos hb]
        cases hr : readWord es c.next with
        | error e =>
          rw [hr] at ih
          simpa [hc, hb] using ih
        | ok s =>
          rw [hr] at ih
          simpa [hc, hb] using ih
      · simp [hc, hb]

theorem reads_hexQuad_iff {c : Cursor} {n : Nat} {more : List UInt8} :
    Reads (readHexQuad c) n more ↔ ∃ quad, Grammar.HexQuad n quad ∧ c.rest = quad ++ more := by
  constructor
  · intro h
    unfold readHexQuad at h
    split at h
    · rename_i a b d e rest hc
      simp only at h
      split at h
      · rename_i w x y z hw hx hy hz
        obtain ⟨rfl, rfl⟩ := reads_ok.mp h
        exact ⟨_, .digits hw hx hy hz, hc⟩
      · exact absurd h reads_error
    · exact absurd h reads_error
  · rintro ⟨quad, hquad, hc⟩
    cases hquad with
    | digits hw hx hy hz =>
      unfold readHexQuad
      split
      · rename_i a' b' d' e' rest' hc'
        rw [hc] at hc'
        cases hc'
        simp [hw, hx, hy, hz]
      · rename_i hno
        exact absurd hc (hno _ _ _ _ _)

theorem reads_andThen_iff {ε α β : Type} {k m n : Nat} {c : Cursor} {r : Except ε (Step m c α)}
    {f : (s : Step m c α) → Except ε (Step n s.cursor β)} {h : k ≤ m + n} {b : β}
    {more : List UInt8} :
    Reads (Step.andThen r f h) b more ↔ ∃ s, r = .ok s ∧ Reads (f s) b more := by
  cases r with
  | error e => simp [Step.andThen]
  | ok s => cases hf : f s <;> simp [Step.andThen, hf]

/-! ### Escapes -/

/-- The second half of a surrogate pair, with its backslash and its mark. -/
theorem reads_lowSurrogate_iff {high : Nat} {c : Cursor} {bytes more : List UInt8} :
    Reads (readLowSurrogate high c) bytes more ↔
      ∃ low quad, Grammar.HexQuad low quad ∧ 0xDC00 ≤ low ∧ low ≤ 0xDFFF ∧
        bytes = codeBytes ((high - 0xD800) * 0x400 + (low - 0xDC00) + 0x10000) ∧
        c.rest = byte '\\' :: byte 'u' :: (quad ++ more) := by
  constructor
  · intro h
    unfold readLowSurrogate at h
    split at h
    · exact absurd h reads_error
    · rename_i b bs hc
      split at h
      · rename_i hb
        split at h
        · exact absurd h reads_error
        · rename_i b' bs' hc'
          split at h
          · rename_i hb'
            split at h
            · exact absurd h reads_error
            · rename_i s hs
              split at h
              · exact absurd h reads_error
              · rename_i hrange
                obtain ⟨quad, hquad, hrest⟩ := reads_hexQuad_iff.mp ⟨s, hs, rfl, rfl⟩
                simp only [reads_ok] at h
                obtain ⟨hbytes, rfl⟩ := h
                rw [Bool.or_eq_true, decide_eq_true_iff, decide_eq_true_iff] at hrange
                refine ⟨s.value, quad, hquad, by omega, by omega, hbytes.symm, ?_⟩
                rw [Cursor.next_of_cons hc'] at hrest
                have hbs : bs = b' :: bs' := (Cursor.next_of_cons hc).symm.trans hc'
                simp only [hc, hbs, hrest, hb, hb']
          · exact absurd h reads_error
      · exact absurd h reads_error
  · rintro ⟨low, quad, hquad, hlow, hhigh, hbytes, hc⟩
    have hc' : c.next.rest = byte 'u' :: (quad ++ more) := Cursor.next_of_cons hc
    have hrest : c.next.next.rest = quad ++ more := Cursor.next_of_cons hc'
    obtain ⟨s, hs, rfl, hmore⟩ := reads_hexQuad_iff.mpr ⟨quad, hquad, hrest⟩
    have hrange : ¬ (s.value < 0xDC00 ∨ 0xDFFF < s.value) := by omega
    obtain ⟨_, p⟩ := c
    cases hc
    simp only [Cursor.next] at hs hmore
    simp [readLowSurrogate, Cursor.next, hs, hrange, hbytes, hmore]

theorem reads_codeEscape_iff {c : Cursor} {bytes more : List UInt8} :
    Reads (readCodeEscape c) bytes more ↔
      ∃ own, Grammar.Escape bytes (byte 'u' :: own) ∧ c.rest = own ++ more := by
  unfold readCodeEscape
  rw [reads_andThen_iff]
  constructor
  · rintro ⟨s, hs, h⟩
    obtain ⟨quad, hquad, hrest⟩ := reads_hexQuad_iff.mp ⟨s, hs, rfl, rfl⟩
    split at h
    · exact absurd h reads_error
    · rename_i hlow
      rw [Bool.and_eq_true, decide_eq_true_iff, decide_eq_true_iff] at hlow
      split at h
      · rename_i hrange
        obtain ⟨rfl, rfl⟩ := reads_ok.mp h
        rw [Bool.or_eq_true, decide_eq_true_iff, decide_eq_true_iff] at hrange
        exact ⟨quad, .code hquad (by omega), hrest⟩
      · rename_i hrange
        split at h
        · exact absurd h reads_error
        · rename_i t ht
          obtain ⟨rfl, rfl⟩ := reads_ok.mp h
          obtain ⟨low, second, hsecond, hlow, hhigh, hbytes, hrest'⟩ :=
            reads_lowSurrogate_iff.mp ⟨t, ht, rfl, rfl⟩
          rw [Bool.or_eq_true, decide_eq_true_iff, decide_eq_true_iff] at hrange
          refine ⟨quad ++ byte '\\' :: byte 'u' :: second, ?_, ?_⟩
          · rw [hbytes]
            exact .pair hquad hsecond (by omega) (by omega) hlow hhigh
          · rw [hrest, hrest', List.append_assoc, List.cons_append, List.cons_append]
  · rintro ⟨own, hown, hc⟩
    cases hown with
    | short h =>
      rw [show shortEscape? (byte 'u') = none from by decide] at h
      cases h
    | code hquad hrange =>
      obtain ⟨s, hs, rfl, rfl⟩ := reads_hexQuad_iff.mpr ⟨own, hquad, hc⟩
      refine ⟨s, hs, ?_⟩
      have hlow : ¬ (0xDC00 ≤ s.value ∧ s.value ≤ 0xDFFF) := by omega
      have hhigh : s.value < 0xD800 ∨ 0xDBFF < s.value := by omega
      simp [hlow, hhigh]
    | @pair high low first second hfirst hsecond h₁ h₂ h₃ h₄ =>
      rw [List.append_assoc, List.cons_append, List.cons_append] at hc
      obtain ⟨s, hs, rfl, hrest⟩ := reads_hexQuad_iff.mpr ⟨first, hfirst, hc⟩
      obtain ⟨t, ht, hbytes, hrest'⟩ : Reads (readLowSurrogate s.value s.cursor) _ more :=
        reads_lowSurrogate_iff.mpr ⟨low, second, hsecond, h₃, h₄, rfl, hrest⟩
      refine ⟨s, hs, ?_⟩
      have hlow : ¬ (0xDC00 ≤ s.value ∧ s.value ≤ 0xDFFF) := by omega
      have hhigh : ¬ (s.value < 0xD800 ∨ 0xDBFF < s.value) := by omega
      simp [hlow, hhigh, ht, hbytes, hrest']

theorem reads_escape_iff {c : Cursor} {bytes more : List UInt8} :
    Reads (readEscape c) bytes more ↔ ∃ own, Grammar.Escape bytes own ∧ c.rest = own ++ more := by
  constructor
  · intro h
    unfold readEscape at h
    split at h
    · exact absurd h reads_error
    · rename_i b bs hc
      have hrest : c.next.rest = bs := Cursor.next_of_cons hc
      split at h
      · rename_i e he
        obtain ⟨rfl, rfl⟩ := reads_ok.mp h
        exact ⟨[b], .short he, by simp only [hc, hrest, List.singleton_append]⟩
      · split at h
        · rename_i hb
          split at h
          · exact absurd h reads_error
          · rename_i s hs
            obtain ⟨rfl, rfl⟩ := reads_ok.mp h
            obtain ⟨own, hown, hrest'⟩ := reads_codeEscape_iff.mp ⟨s, hs, rfl, rfl⟩
            exact ⟨byte 'u' :: own, hown, by simp only [hc, ← hrest, hrest', hb]; rfl⟩
        · exact absurd h reads_error
  · rintro ⟨own, hown, hc⟩
    have code {own : List UInt8} (hown : Grammar.Escape bytes (byte 'u' :: own))
        (hc : c.rest = byte 'u' :: (own ++ more)) : Reads (readEscape c) bytes more := by
      obtain ⟨s, hs, hvalue, hrest⟩ := reads_codeEscape_iff.mpr ⟨own, hown, Cursor.next_of_cons hc⟩
      have hno : shortEscape? (byte 'u') = none := by decide
      obtain ⟨_, p⟩ := c
      cases hc
      simp [readEscape, hno, hs, hvalue, hrest, Step.widen]
    cases hown with
    | @short b e he =>
      obtain ⟨_, p⟩ := c
      cases hc
      simp [readEscape, he, Cursor.next]
    | code hquad hrange => exact code (.code hquad hrange) hc
    | pair hfirst hsecond h₁ h₂ h₃ h₄ => exact code (.pair hfirst hsecond h₁ h₂ h₃ h₄) hc

/-! ### Strings -/

theorem reads_stringBytes_iff {c : Cursor} {meant more : List UInt8} :
    Reads (readStringBytes c) meant more ↔
      ∃ body, Grammar.StringBody meant body ∧ c.rest = body ++ byte '"' :: more := by
  constructor
  · intro h
    fun_induction readStringBytes c generalizing meant with
    | case2 c bs hc =>
      obtain ⟨rfl, rfl⟩ := reads_ok.mp h
      exact ⟨[], .empty, by simp only [hc, c.next_rest, List.tail_cons, List.nil_append]⟩
    | case5 c bs s hs t ht hc hb ih =>
      obtain ⟨rfl, rfl⟩ := reads_ok.mp h
      obtain ⟨own, hown, hrest⟩ := reads_escape_iff.mp ⟨s, hs, rfl, rfl⟩
      obtain ⟨body, hbody, hrest'⟩ := ih ⟨t, ht, rfl, rfl⟩
      rw [Cursor.next_of_cons hc] at hrest
      refine ⟨byte '\\' :: (own ++ body), .escape hown hbody, ?_⟩
      simp only [hc, hrest, hrest', List.cons_append, List.append_assoc]
    | case8 c b bs hc hquote hslash hcontrol t ht ih =>
      obtain ⟨rfl, rfl⟩ := reads_ok.mp h
      obtain ⟨body, hbody, hrest⟩ := ih ⟨t, ht, rfl, rfl⟩
      rw [Cursor.next_of_cons hc] at hrest
      refine ⟨b :: body, .plain hquote hslash (UInt8.not_lt.mp hcontrol) hbody, ?_⟩
      simp only [hc, hrest, List.cons_append]
    | _ => exact absurd h reads_error
  · rintro ⟨body, hbody, hc⟩
    induction hbody generalizing c with
    | empty =>
      rw [List.nil_append] at hc
      obtain ⟨_, p⟩ := c
      cases hc
      rw [readStringBytes]
      simp [Cursor.next]
    | plain hquote hslash hcontrol _ ih =>
      rw [List.cons_append] at hc
      obtain ⟨t, ht, hvalue, hrest⟩ := ih (c := c.next) (Cursor.next_of_cons hc)
      obtain ⟨_, p⟩ := c
      cases hc
      rw [readStringBytes]
      simp only [if_neg hquote, if_neg hslash, if_neg (UInt8.not_lt.mpr hcontrol), ht, reads_ok]
      exact ⟨by rw [hvalue], hrest⟩
    | escape hown _ ih =>
      rw [List.cons_append, List.append_assoc] at hc
      obtain ⟨s, hs, hvalue, hrest⟩ := reads_escape_iff.mpr ⟨_, hown, Cursor.next_of_cons hc⟩
      obtain ⟨t, ht, hvalue', hrest'⟩ := ih hrest
      have hslash : byte '\\' ≠ byte '"' := by decide
      obtain ⟨_, p⟩ := c
      cases hc
      rw [readStringBytes]
      simp only [if_neg hslash, if_pos, hs, ht, reads_ok]
      exact ⟨by rw [hvalue, hvalue'], hrest'⟩

namespace Utf8

theorem decode?_encode (text : String) : decode? (encode text) = some text := by
  have hb : (⟨(encode text).toArray⟩ : ByteArray) = text.toByteArray := by
    rw [← String.utf8Encode_toList, List.utf8Encode, ByteArray.ext_iff, List.data_toByteArray,
      encode]
  rw [decode?, hb, String.fromUTF8?, dif_pos text.isValidUTF8]
  rfl

theorem decode?_eq_some_iff {bytes : List UInt8} {text : String} :
    decode? bytes = some text ↔ bytes = encode text := by
  constructor
  · intro h
    unfold decode? String.fromUTF8? at h
    split at h
    · have hb : text.toByteArray = ⟨bytes.toArray⟩ := by
        rw [← Option.some.inj h]
        rfl
      rw [← String.utf8Encode_toList, List.utf8Encode, ByteArray.ext_iff,
        List.data_toByteArray] at hb
      exact (congrArg Array.toList hb).symm
    · cases h
  · rintro rfl
    exact decode?_encode text

theorem encode_injective {text text' : String} (h : encode text = encode text') : text = text' :=
  Option.some.inj (by rw [← decode?_encode, h, decode?_encode])

end Utf8

/-- **Strings.**  What is read of a string is the text that its bytes mean. -/
theorem reads_string_iff {c : Cursor} {text : String} {more : List UInt8} :
    Reads (readString c) text more ↔
      ∃ quoted, Grammar.Quoted text quoted ∧ c.rest = quoted ++ more := by
  constructor
  · intro h
    unfold readString at h
    split at h
    · exact absurd h reads_error
    · rename_i s hs
      split at h
      · rename_i text' htext
        obtain ⟨rfl, rfl⟩ := reads_ok.mp h
        obtain ⟨body, hbody, hrest⟩ := reads_stringBytes_iff.mp ⟨s, hs, rfl, rfl⟩
        rw [Utf8.decode?_eq_some_iff.mp htext] at hbody
        exact ⟨_, ⟨body, hbody, rfl⟩, by rw [hrest, List.append_assoc]; rfl⟩
      · exact absurd h reads_error
  · rintro ⟨_, ⟨body, hbody, rfl⟩, hc⟩
    rw [List.append_assoc] at hc
    obtain ⟨s, hs, hvalue, hrest⟩ := reads_stringBytes_iff.mpr ⟨body, hbody, hc⟩
    have htext : Utf8.decode? s.value = some text := by rw [hvalue, Utf8.decode?_encode]
    unfold readString
    simp only [hs, htext, reads_ok]
    exact ⟨rfl, hrest⟩

end ManifestCheck
