import ManifestCheck.Document
import ManifestCheck.Document.Token

/-!
# Reading documents

From bytes to a document. Containers may be opened inside each other up to a fixed depth; one more
stops reading. A repeated key keeps its first place and takes its last value. An object whose first
key is `numberKey` stands for a number, whose literal is the string under that key; it can have no
second entry.
-/

namespace ManifestCheck

/-- How many containers can be open at once. -/
def maxOpenContainers : Nat := 127

/-- The key that marks an object as standing for a number. -/
def numberKey : String := "$serde_json::private::Number"

/-- Elements of a list from behind its bracket or from behind an element, up to its closing
bracket. -/
def readElements (element : (c : Cursor) → Reading c Document) (first : Bool) (c : Cursor) :
    Reading c (List Document) :=
  match h : c.skipBlanks.rest with
  | [] => .error ⟨.endInList, c.skipBlanks.ahead⟩
  | b :: _ =>
    if b = byte ']' then
      .ok ⟨[], c.skipBlanks.next, by
        have := Cursor.next_length_of_cons h
        have := c.skipBlanks_length_le
        omega⟩
    else if first then
      match element c.skipBlanks with
      | .error e => .error e
      | .ok s =>
        match readElements element false s.cursor with
        | .error e => .error e
        | .ok t => .ok ⟨s.value :: t.value, t.cursor, by
            have := s.consumed
            have := t.consumed
            have := c.skipBlanks_length_le
            omega⟩
    else if b = byte ',' then
      match c.skipBlanks.next.skipBlanks.rest with
      | [] => .error ⟨.endInValue, c.skipBlanks.next.skipBlanks.ahead⟩
      | d :: _ =>
        if d = byte ']' then .error ⟨.trailingComma, c.skipBlanks.next.skipBlanks.ahead⟩
        else
          match element c.skipBlanks.next.skipBlanks with
          | .error e => .error e
          | .ok s =>
            match readElements element false s.cursor with
            | .error e => .error e
            | .ok t => .ok ⟨s.value :: t.value, t.cursor, by
                have := s.consumed
                have := t.consumed
                have := c.skipBlanks_length_le
                have := c.skipBlanks.next.skipBlanks_length_le
                have := c.skipBlanks.next_length_le
                omega⟩
    else .error ⟨.expectedListCommaOrEnd, c.skipBlanks.ahead⟩
termination_by c.rest.length
decreasing_by
  · have := s.consumed
    have := c.skipBlanks_length_le
    omega
  · have := s.consumed
    have := c.skipBlanks_length_le
    have := c.skipBlanks.next.skipBlanks_length_le
    have := c.skipBlanks.next_length_le
    omega

/-- The next key of an object, or nothing at its closing brace. -/
def readKey (first : Bool) (c : Cursor) : Reading c (Option String) :=
  match h : c.skipBlanks.rest with
  | [] => .error ⟨.endInObject, c.skipBlanks.ahead⟩
  | b :: _ =>
    if b = byte '\x7d' then
      .ok ⟨none, c.skipBlanks.next, by
        have := Cursor.next_length_of_cons h
        have := c.skipBlanks_length_le
        omega⟩
    else if first then
      if b = byte '"' then
        match readString c.skipBlanks.next with
        | .error e => .error e
        | .ok s => .ok ((s.map some).widen (by
            have := c.skipBlanks_length_le
            have := c.skipBlanks.next_length_le
            omega))
      else .error ⟨.keyNotString, c.skipBlanks.ahead⟩
    else if b = byte ',' then
      match c.skipBlanks.next.skipBlanks.rest with
      | [] => .error ⟨.endInValue, c.skipBlanks.next.skipBlanks.ahead⟩
      | d :: _ =>
        if d = byte '"' then
          match readString c.skipBlanks.next.skipBlanks.next with
          | .error e => .error e
          | .ok s => .ok ((s.map some).widen (by
              have := c.skipBlanks_length_le
              have := c.skipBlanks.next_length_le
              have := c.skipBlanks.next.skipBlanks_length_le
              have := c.skipBlanks.next.skipBlanks.next_length_le
              omega))
        else if d = byte '\x7d' then .error ⟨.trailingComma, c.skipBlanks.next.skipBlanks.ahead⟩
        else .error ⟨.keyNotString, c.skipBlanks.next.skipBlanks.ahead⟩
    else .error ⟨.expectedObjectCommaOrEnd, c.skipBlanks.ahead⟩

/-- The colon behind a key. -/
def readColon (c : Cursor) : Reading c Unit :=
  match h : c.skipBlanks.rest with
  | [] => .error ⟨.endInObject, c.skipBlanks.ahead⟩
  | b :: _ =>
    if b = byte ':' then
      .ok ⟨(), c.skipBlanks.next, by
        have := Cursor.next_length_of_cons h
        have := c.skipBlanks_length_le
        omega⟩
    else .error ⟨.expectedColon, c.skipBlanks.ahead⟩

/-- The value behind a key, colon included. -/
def readMember (element : (c : Cursor) → Reading c Document) (c : Cursor) : Reading c Document :=
  Step.andThen (k := 1) (readColon c) fun s => element s.cursor

/-- The members of an object from behind one of them, up to its closing brace. -/
def readMembers (element : (c : Cursor) → Reading c Document) (c : Cursor) :
    Reading c (List (String × Document)) :=
  match readKey false c with
  | .error e => .error e
  | .ok key =>
    match key.value with
    | none => .ok (key.map fun _ => [])
    | some name =>
      match readMember element key.cursor with
      | .error e => .error e
      | .ok s =>
        match readMembers element s.cursor with
        | .error e => .error e
        | .ok t => .ok ⟨(name, s.value) :: t.value, t.cursor, by
            have := key.consumed
            have := s.consumed
            have := t.consumed
            omega⟩
termination_by c.rest.length
decreasing_by
  have := key.consumed
  have := s.consumed
  omega

/-- What stands where the text of a number was wanted: an error in any case. -/
def rejectNumberValue (c : Cursor) : SyntaxError :=
  match c.rest with
  | [] => ⟨.endInValue, c.ahead⟩
  | b :: _ =>
    if b = byte 'n' then worded "null" .null
    else if b = byte 't' then worded "true" (.bool true)
    else if b = byte 'f' then worded "false" (.bool false)
    else if startsNumber b then
      match readNumber c with
      | .error (e, _) => e
      | .ok s => ⟨.notNumberText (foundNumber s.value), s.cursor.position⟩
    else if b = byte '[' then ⟨.notNumberText .sequence, c.position⟩
    else if b = byte '\x7b' then ⟨.notNumberText .map, c.position⟩
    else ⟨.expectedValue, c.ahead⟩
where
  worded (word : String) (found : FoundValue) : SyntaxError :=
    match readWord word.toList c with
    | .error e => e
    | .ok s => ⟨.notNumberText found, s.cursor.position⟩
  /-- Integers within 64 bits are quoted in the message. -/
  foundNumber (n : Number) : FoundValue :=
    match n.toInt128? with
    | some i =>
      if n.literal ≠ "-0" ∧ -(Nat.pow 2 63) ≤ i ∧ i < Nat.pow 2 64 then .integer n.literal else .number
    | none => .number

/-- The brace that must follow the only entry of an object that stands for a number. -/
def readNumberEnd (c : Cursor) : Reading c Unit :=
  match h : c.skipBlanks.rest with
  | [] => .error ⟨.endInObject, c.skipBlanks.ahead⟩
  | b :: _ =>
    if b = byte '\x7d' then
      .ok ⟨(), c.skipBlanks.next, by
        have := Cursor.next_length_of_cons h
        have := c.skipBlanks_length_le
        omega⟩
    else if b = byte ',' then .error ⟨.trailingComma, c.skipBlanks.ahead⟩
    else .error ⟨.trailingCharacters, c.skipBlanks.ahead⟩

/-- The string that holds the literal of a number. -/
def readNumberValue (c : Cursor) : Reading c Number :=
  match h : c.skipBlanks.rest with
  | [] => .error ⟨.endInValue, c.skipBlanks.ahead⟩
  | b :: _ =>
    if b = byte '"' then
      match readString c.skipBlanks.next with
      | .error e => .error e
      | .ok s =>
        match readNumberText (Utf8.encode s.value) with
        | .error e => .error ⟨.badNumberText e.reason, e.position⟩
        | .ok n => .ok ((s.map fun _ => n).widen (by
            have := c.skipBlanks_length_le
            have := c.skipBlanks.next_length_le
            omega))
    else .error (rejectNumberValue c.skipBlanks)

/-- The rest of an object that stands for a number, from behind its key. -/
def readNumberObject (c : Cursor) : Reading c Number :=
  Step.andThen (k := 1) (readColon c) fun colon =>
    match readNumberValue colon.cursor with
    | .error e => .error e
    | .ok n =>
      match readNumberEnd n.cursor with
      | .error e => .error e
      | .ok s => (.ok ⟨n.value, s.cursor, by
          have := n.consumed
          have := s.consumed
          omega⟩ : Reading colon.cursor Number)

/-- An object from behind its opening brace. -/
def readObject (element : (c : Cursor) → Reading c Document) (c : Cursor) : Reading c Document :=
  match readKey true c with
  | .error e => .error e
  | .ok key =>
    match key.value with
    | none => .ok (key.map fun _ => .object [])
    | some name =>
      if name = numberKey then
        match readNumberObject key.cursor with
        | .error e => .error e
        | .ok s => .ok ((s.map Document.number).widen (by have := key.consumed; omega))
      else
        match readMember element key.cursor with
        | .error e => .error e
        | .ok s =>
          match readMembers element s.cursor with
          | .error e => .error e
          | .ok t => .ok ⟨.object (Entries.ofMembers ((name, s.value) :: t.value)), t.cursor, by
              have := key.consumed
              have := s.consumed
              have := t.consumed
              omega⟩

/-- A value, given the reader for the values inside a container, or none if no further container
may be opened. -/
def readValueWith (inner : Option ((c : Cursor) → Reading c Document)) (c : Cursor) :
    Reading c Document :=
  match h : c.skipBlanks.rest with
  | [] => .error ⟨.endInValue, c.skipBlanks.ahead⟩
  | b :: _ =>
    have blanks := c.skipBlanks_length_le
    have skipped := Cursor.next_length_le c.skipBlanks
    if b = byte 'n' then worded "null" .null (by decide) blanks
    else if b = byte 't' then worded "true" (.bool true) (by decide) blanks
    else if b = byte 'f' then worded "false" (.bool false) (by decide) blanks
    else if startsNumber b then
      match readNumber c.skipBlanks with
      | .error (e, _) => .error e
      | .ok s => .ok ((s.map Document.number).widen blanks)
    else if b = byte '"' then
      match readString c.skipBlanks.next with
      | .error e => .error e
      | .ok s => .ok ((s.map Document.string).widen (by omega))
    else if b = byte '[' then
      match inner with
      | none => .error ⟨.tooDeep, c.skipBlanks.ahead⟩
      | some element =>
        match readElements element true c.skipBlanks.next with
        | .error e => .error e
        | .ok s => .ok ((s.map Document.array).widen (by omega))
    else if b = byte '\x7b' then
      match inner with
      | none => .error ⟨.tooDeep, c.skipBlanks.ahead⟩
      | some element =>
        match readObject element c.skipBlanks.next with
        | .error e => .error e
        | .ok s => .ok (s.widen (by omega))
    else .error ⟨.expectedValue, c.skipBlanks.ahead⟩
where
  worded (word : String) (d : Document) (h : 0 < word.toList.length)
      (blanks : c.skipBlanks.rest.length ≤ c.rest.length) : Reading c Document :=
    match readWord word.toList c.skipBlanks with
    | .error e => .error e
    | .ok s => .ok ⟨d, s.cursor, by have := s.consumed; omega⟩

/-- A value with at most so many further containers open inside each other. -/
def readValue : Nat → (c : Cursor) → Reading c Document
  | 0 => readValueWith none
  | depth + 1 => readValueWith (some (readValue depth))

/-- A document and nothing behind it but blanks. -/
def Document.read (bytes : List UInt8) : Except SyntaxError Document :=
  match readValue maxOpenContainers (Cursor.start bytes) with
  | .error e => .error e
  | .ok s =>
    match s.cursor.skipBlanks.rest with
    | [] => .ok s.value
    | _ :: _ => .error ⟨.trailingCharacters, s.cursor.skipBlanks.ahead⟩

end ManifestCheck
