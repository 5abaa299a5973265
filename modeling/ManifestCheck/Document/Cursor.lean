import ManifestCheck.Document.SyntaxError

/-!
# Cursors

A cursor stands between two bytes of a text: it holds the bytes to come and the place it has
reached. A reading step returns a value, a later cursor, and the proof that the cursor has moved
over at least a given number of bytes, which is what makes the loops of the reader end.
-/

namespace ManifestCheck

/-- The bytes still to be read and the place reached. -/
structure Cursor where
  rest : List UInt8
  position : Position

/-- The byte of an ASCII character. -/
def byte (c : Char) : UInt8 := UInt8.ofNat c.toNat

namespace Cursor

/-- The cursor in front of a text. -/
def start (bytes : List UInt8) : Cursor := ⟨bytes, .start⟩

/-- One byte further, if there is one. -/
def next (c : Cursor) : Cursor :=
  match c.rest with
  | [] => c
  | b :: bs => ⟨bs, c.position.advance b⟩

/-- The place behind the byte to come, or the end of the text. -/
def ahead (c : Cursor) : Position := c.next.position

/-- The place at the end of the text. -/
def final (c : Cursor) : Position := c.position.after c.rest

/-- The bytes that satisfy a test, up to the first that does not, and the cursor behind them. -/
def spanFrom (test : UInt8 → Bool) : List UInt8 → Position → List UInt8 × Cursor
  | [], p => ([], ⟨[], p⟩)
  | b :: bs, p =>
    if test b then
      let (taken, c) := spanFrom test bs (p.advance b)
      (b :: taken, c)
    else ([], ⟨b :: bs, p⟩)

def span (test : UInt8 → Bool) (c : Cursor) : List UInt8 × Cursor :=
  spanFrom test c.rest c.position

/-- The bytes that may stand between the tokens of a document. -/
def isBlankByte (b : UInt8) : Bool := b = 32 || b = 10 || b = 9 || b = 13

/-- The cursor behind any blanks. -/
def skipBlanks (c : Cursor) : Cursor := (c.span isBlankByte).2

theorem next_length_of_cons {c : Cursor} {b : UInt8} {bs : List UInt8} (h : c.rest = b :: bs) :
    c.next.rest.length + 1 = c.rest.length := by
  simp [next, h]

theorem next_length_le (c : Cursor) : c.next.rest.length ≤ c.rest.length := by
  cases h : c.rest <;> simp [next, h]

theorem spanFrom_length (test : UInt8 → Bool) (bs : List UInt8) (p : Position) :
    (spanFrom test bs p).1.length + (spanFrom test bs p).2.rest.length = bs.length := by
  induction bs generalizing p with
  | nil => rfl
  | cons b bs ih =>
    by_cases h : test b
    · have := ih (p.advance b)
      simp only [spanFrom, h, ↓reduceIte, List.length_cons]
      omega
    · simp [spanFrom, h]

theorem span_length_le (test : UInt8 → Bool) (c : Cursor) :
    (c.span test).2.rest.length ≤ c.rest.length := by
  have := spanFrom_length test c.rest c.position
  simp only [span]
  omega

theorem skipBlanks_length_le (c : Cursor) : c.skipBlanks.rest.length ≤ c.rest.length :=
  span_length_le _ _

end Cursor

/-- A value read from a cursor on, the cursor behind it, and the count of bytes that lie between
them at least. -/
structure Step (least : Nat) (c : Cursor) (α : Type) where
  value : α
  cursor : Cursor
  consumed : cursor.rest.length + least ≤ c.rest.length

namespace Step

variable {α β ε : Type} {m n : Nat} {c : Cursor}

/-- The same bytes with another value. -/
def map (f : α → β) (s : Step n c α) : Step n c β := ⟨f s.value, s.cursor, s.consumed⟩

/-- A step from a later cursor is a step from an earlier one. -/
def widen {d : Cursor} (h : d.rest.length ≤ c.rest.length) (s : Step n d α) : Step n c α :=
  ⟨s.value, s.cursor, by have := s.consumed; omega⟩

/-- One reading after another; the second is told what the first has read. -/
def andThen {k : Nat} (r : Except ε (Step m c α))
    (f : (s : Step m c α) → Except ε (Step n s.cursor β)) (h : k ≤ m + n := by omega) :
    Except ε (Step k c β) :=
  match r with
  | .error e => .error e
  | .ok s =>
    match f s with
    | .error e => .error e
    | .ok t => .ok ⟨t.value, t.cursor, by have := s.consumed; have := t.consumed; omega⟩

end Step

/-- What a reader of at least one byte returns. -/
abbrev Reading (c : Cursor) (α : Type) := Except SyntaxError (Step 1 c α)

end ManifestCheck
