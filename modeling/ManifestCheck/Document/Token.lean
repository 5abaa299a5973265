import ManifestCheck.Document.Cursor
import ManifestCheck.Document.Utf8
import ManifestCheck.Number

/-!
# Words, strings and numbers

The tokens of a document. A string is decoded: escapes are resolved and its bytes must be
well-formed UTF-8, which is checked when its end is reached. A number keeps its literal, in which
the mark of the exponent becomes `e` and a missing sign of the exponent becomes `+`.
-/

namespace ManifestCheck

/-- A fixed word, byte by byte. -/
def readWord : (expected : List Char) → (c : Cursor) →
    Except SyntaxError (Step expected.length c Unit)
  | [], c => .ok ⟨(), c, by simp⟩
  | e :: es, c =>
    match h : c.rest with
    | [] => .error ⟨.endInValue, c.position⟩
    | b :: _ =>
      if b = byte e then
        match readWord es c.next with
        | .error e => .error e
        | .ok s => .ok ⟨(), s.cursor, by
            have := s.consumed
            have := Cursor.next_length_of_cons h
            simp only [List.length_cons]
            omega⟩
      else .error ⟨.expectedIdent, c.next.position⟩

/-! ## Strings -/

/-- The value of a hexadecimal digit. -/
def hexByte? (b : UInt8) : Option Nat :=
  if 48 ≤ b && b ≤ 57 then some (b.toNat - 48)
  else if 65 ≤ b && b ≤ 70 then some (b.toNat - 55)
  else if 97 ≤ b && b ≤ 102 then some (b.toNat - 87)
  else none

/-- Four hexadecimal digits. -/
def readHexQuad (c : Cursor) : Reading c Nat :=
  match h : c.rest with
  | a :: b :: d :: e :: rest =>
    let behind : Cursor := ⟨rest, c.position.after [a, b, d, e]⟩
    match hexByte? a, hexByte? b, hexByte? d, hexByte? e with
    | some w, some x, some y, some z =>
      .ok ⟨((w * 16 + x) * 16 + y) * 16 + z, behind, by simp [behind, h]⟩
    | _, _, _, _ => .error ⟨.invalidEscape, behind.position⟩
  | _ => .error ⟨.endInString, c.final⟩

/-- The bytes of the character of a code point. -/
def codeBytes (n : Nat) : List UInt8 := String.utf8EncodeChar (Char.ofNat n)

/-- The second half of a surrogate pair, behind the first one. -/
def readLowSurrogate (high : Nat) (c : Cursor) : Reading c (List UInt8) :=
  match h : c.rest with
  | [] => .error ⟨.endInString, c.position⟩
  | b :: _ =>
    if b = byte '\\' then
      match h' : c.next.rest with
      | [] => .error ⟨.endInString, c.next.position⟩
      | b' :: _ =>
        if b' = byte 'u' then
          match readHexQuad c.next.next with
          | .error e => .error e
          | .ok s =>
            if s.value < 0xDC00 || 0xDFFF < s.value then .error ⟨.loneSurrogate, s.cursor.position⟩
            else
              let code := (high - 0xD800) * 0x400 + (s.value - 0xDC00) + 0x10000
              .ok ⟨codeBytes code, s.cursor, by
              have := s.consumed
              have := Cursor.next_length_of_cons h
              have := Cursor.next_length_of_cons h'
              omega⟩
        else .error ⟨.endInHexEscape, c.next.next.position⟩
    else .error ⟨.endInHexEscape, c.next.position⟩

/-- A character by its code, behind `\u`. -/
def readCodeEscape (c : Cursor) : Reading c (List UInt8) :=
  Step.andThen (k := 1) (readHexQuad c) fun s =>
    if 0xDC00 ≤ s.value && s.value ≤ 0xDFFF then .error ⟨.loneSurrogate, s.cursor.position⟩
    else if s.value < 0xD800 || 0xDBFF < s.value then
      .ok (⟨codeBytes s.value, s.cursor, by simp⟩ : Step 0 s.cursor (List UInt8))
    else match readLowSurrogate s.value s.cursor with
      | .error e => .error e
      | .ok t => .ok ⟨t.value, t.cursor, by have := t.consumed; omega⟩

/-- The character behind a backslash that stands for one byte. -/
def shortEscape? (b : UInt8) : Option UInt8 :=
  if b = byte '"' then some 34
  else if b = byte '\\' then some 92
  else if b = byte '/' then some 47
  else if b = byte 'b' then some 8
  else if b = byte 'f' then some 12
  else if b = byte 'n' then some 10
  else if b = byte 'r' then some 13
  else if b = byte 't' then some 9
  else none

/-- What an escape stands for, from behind its backslash. -/
def readEscape (c : Cursor) : Reading c (List UInt8) :=
  match h : c.rest with
  | [] => .error ⟨.endInString, c.position⟩
  | b :: _ =>
    match shortEscape? b with
    | some e => .ok ⟨[e], c.next, by have := Cursor.next_length_of_cons h; omega⟩
    | none =>
      if b = byte 'u' then
        match readCodeEscape c.next with
        | .error e => .error e
        | .ok s => .ok (s.widen (Cursor.next_length_le c))
      else .error ⟨.invalidEscape, c.next.position⟩

/-- The decoded bytes of a string from behind its opening quotation mark. -/
def readStringBytes (c : Cursor) : Reading c (List UInt8) :=
  match h : c.rest with
  | [] => .error ⟨.endInString, c.position⟩
  | b :: _ =>
    if b = byte '"' then
      .ok ⟨[], c.next, by have := Cursor.next_length_of_cons h; omega⟩
    else if b = byte '\\' then
      match readEscape c.next with
      | .error e => .error e
      | .ok s =>
        match readStringBytes s.cursor with
        | .error e => .error e
        | .ok t => .ok ⟨s.value ++ t.value, t.cursor, by
            have := s.consumed
            have := t.consumed
            have := Cursor.next_length_of_cons h
            omega⟩
    else if b < 32 then .error ⟨.controlCharacter, c.next.position⟩
    else
      match readStringBytes c.next with
      | .error e => .error e
      | .ok t => .ok ⟨b :: t.value, t.cursor, by
          have := t.consumed
          have := Cursor.next_length_of_cons h
          omega⟩
termination_by c.rest.length
decreasing_by
  · have := s.consumed
    have := Cursor.next_length_of_cons h
    omega
  · have := Cursor.next_length_of_cons h
    omega

/-- A string from behind its opening quotation mark. Bytes that are not well-formed are reported at
the first of them. -/
def readString (c : Cursor) : Reading c String :=
  match readStringBytes c with
  | .error e => .error e
  | .ok s =>
    match Utf8.decode? s.value with
    | some text => .ok (s.map fun _ => text)
    | none =>
      .error ⟨.invalidCodePoint, c.position.after (c.rest.take (Utf8.validLength c.rest + 1))⟩

/-! ## Numbers

A number that breaks off is reported together with the cursor where reading stopped. -/

def isDigitByte (b : UInt8) : Bool := 48 ≤ b && b ≤ 57

/-- ASCII bytes as characters. -/
def asciiChars (bytes : List UInt8) : List Char := bytes.map fun b => Char.ofNat b.toNat

/-- A broken number: the error, and the cursor where reading stopped. -/
abbrev NumberFault := SyntaxError × Cursor

/-- As many decimal digits as there are. -/
def readDigits (c : Cursor) : Step 0 c (List Char) :=
  ⟨asciiChars (c.span isDigitByte).1, (c.span isDigitByte).2, Cursor.span_length_le _ _⟩

/-- The sign of an exponent; without one it is a plus. -/
def readExponentSign (c : Cursor) : Step 0 c Char :=
  match c.rest with
  | [] => ⟨'+', c, Nat.le_refl _⟩
  | b :: _ =>
    if b = byte '+' then ⟨'+', c.next, Cursor.next_length_le c⟩
    else if b = byte '-' then ⟨'-', c.next, Cursor.next_length_le c⟩
    else ⟨'+', c, Nat.le_refl _⟩

/-- The digits of an exponent, one at least. -/
def readExponentDigits (c : Cursor) : Except NumberFault (Step 0 c (List Char)) :=
  match c.rest with
  | [] => .error (⟨.endInValue, c.position⟩, c)
  | b :: _ =>
    if isDigitByte b then .ok (readDigits c)
    else .error (⟨.invalidNumber, c.next.position⟩, c.next)

/-- The exponent of a number, if a mark says that there is one. -/
def readExponent (c : Cursor) : Except NumberFault (Step 0 c (List Char)) :=
  match c.rest with
  | [] => .ok ⟨[], c, Nat.le_refl _⟩
  | b :: _ =>
    if b = byte 'e' || b = byte 'E' then
      let sign := readExponentSign c.next
      match readExponentDigits sign.cursor with
      | .error e => .error e
      | .ok s => .ok ⟨'e' :: sign.value :: s.value, s.cursor, by
          have := s.consumed
          have := sign.consumed
          have := Cursor.next_length_le c
          omega⟩
    else .ok ⟨[], c, Nat.le_refl _⟩

/-- The fraction of a number with its point, if there is one. -/
def readFraction (c : Cursor) : Except NumberFault (Step 0 c (List Char)) :=
  match c.rest with
  | [] => .ok ⟨[], c, Nat.le_refl _⟩
  | b :: _ =>
    if b = byte '.' then
      let digits := readDigits c.next
      if digits.value.isEmpty then
        match digits.cursor.rest with
        | [] => .error (⟨.endInValue, digits.cursor.position⟩, digits.cursor)
        | _ :: _ => .error (⟨.invalidNumber, digits.cursor.ahead⟩, digits.cursor)
      else .ok ⟨'.' :: digits.value, digits.cursor, by
          have := digits.consumed
          have := Cursor.next_length_le c
          omega⟩
    else .ok ⟨[], c, Nat.le_refl _⟩

/-- The digits in front of the point: a zero alone, or a row that starts with another digit. -/
def readWhole (c : Cursor) : Except NumberFault (Step 1 c (List Char)) :=
  match h : c.rest with
  | [] => .error (⟨.endInValue, c.position⟩, c)
  | b :: _ =>
    if b = byte '0' then
      match c.next.rest with
      | d :: _ =>
        if isDigitByte d then .error (⟨.invalidNumber, c.next.ahead⟩, c.next)
        else .ok ⟨['0'], c.next, by have := Cursor.next_length_of_cons h; omega⟩
      | [] => .ok ⟨['0'], c.next, by have := Cursor.next_length_of_cons h; omega⟩
    else if isDigitByte b then
      let digits := readDigits c.next
      .ok ⟨Char.ofNat b.toNat :: digits.value, digits.cursor, by
        have := digits.consumed
        have := Cursor.next_length_of_cons h
        omega⟩
    else .error (⟨.invalidNumber, c.next.position⟩, c.next)

/-- A minus sign, if there is one. -/
def readMinus (c : Cursor) : Step 0 c (List Char) :=
  match c.rest with
  | [] => ⟨[], c, Nat.le_refl _⟩
  | b :: _ =>
    if b = byte '-' then ⟨['-'], c.next, Cursor.next_length_le c⟩ else ⟨[], c, Nat.le_refl _⟩

/-- A number with its literal, from its first byte on. -/
def readNumber (c : Cursor) : Except NumberFault (Step 1 c Number) :=
  let minus := readMinus c
  match readWhole minus.cursor with
  | .error e => .error e
  | .ok whole =>
    match readFraction whole.cursor with
    | .error e => .error e
    | .ok fraction =>
      match readExponent fraction.cursor with
      | .error e => .error e
      | .ok exponent =>
        .ok ⟨⟨String.ofList (minus.value ++ whole.value ++ fraction.value ++ exponent.value)⟩,
          exponent.cursor, by
            have := minus.consumed
            have := whole.consumed
            have := fraction.consumed
            have := exponent.consumed
            omega⟩

/-- Whether a byte can start a number. -/
def startsNumber (b : UInt8) : Bool := b = byte '-' || isDigitByte b

/-- A text that is a number and nothing else. A number that breaks off in front of further bytes is
reported at the first of them. -/
def readNumberText (bytes : List UInt8) : Except SyntaxError Number :=
  let c := Cursor.start bytes
  match c.rest with
  | [] => .error ⟨.endInValue, c.position⟩
  | b :: _ =>
    let (outcome, behind) : Except SyntaxError Number × Cursor :=
      if startsNumber b then
        match readNumber c with
        | .error (e, stopped) => (.error e, stopped)
        | .ok s => (.ok s.value, s.cursor)
      else (.error ⟨.invalidNumber, c.ahead⟩, c)
    match behind.rest with
    | [] => outcome
    | _ :: _ => .error ⟨.invalidNumber, behind.ahead⟩

end ManifestCheck
