import ManifestCheck.Proofs.Number.NumeralReading

/-!
# Reading containers

What the loops of a list and of an object do, one lemma for each byte that they stop at: the closer
ends a container, a comma or a key leads to a further part.  An object that stands for a number is
read from a key, a colon, the text of a number and a brace and from nothing else
(`reads_numberObject_iff`).  What a value is goes by its first byte (`reads_valueWith_iff`).
-/

namespace ManifestCheck

open Grammar

/-! ## Lists -/

section Elements

variable {element : (c : Cursor) → Reading c Document} {c : Cursor} {ds : List Document}
  {more : List UInt8}

theorem reads_elements_closer {first : Bool} {rest : List UInt8}
    (hc : c.skipBlanks.rest = byte ']' :: rest) :
    Reads (readElements element first c) ds more ↔ ds = [] ∧ more = rest := by
  have hnext : c.skipBlanks.next.rest = rest := Cursor.next_of_cons hc
  unfold readElements
  split
  · rename_i hnil
    cases hc.symm.trans hnil
  · rename_i b bs hcons
    cases hc.symm.trans hcons
    rw [if_pos rfl, reads_ok, hnext]
    exact and_congr eq_comm eq_comm

theorem reads_firstElement {b : UInt8} {bs : List UInt8} (hc : c.skipBlanks.rest = b :: bs)
    (hb : b ≠ byte ']') :
    Reads (readElements element true c) ds more ↔
      ∃ s rest, element c.skipBlanks = .ok s ∧
        Reads (readElements element false s.cursor) rest more ∧ ds = s.value :: rest := by
  conv_lhs => unfold readElements
  split
  · rename_i hnil
    cases hc.symm.trans hnil
  · rename_i b bs hcons
    cases hc.symm.trans hcons
    rw [if_neg hb, if_pos rfl]
    cases hs : element c.skipBlanks with
    | error e => simp
    | ok s =>
      simp only
      cases ht : readElements element false s.cursor with
      | error e => simp [ht]
      | ok t => simp [ht, eq_comm, and_comm]

theorem reads_furtherElement {rest : List UInt8} (hc : c.skipBlanks.rest = byte ',' :: rest)
    {b : UInt8} {bs : List UInt8} (hnext : c.skipBlanks.next.skipBlanks.rest = b :: bs)
    (hb : b ≠ byte ']') :
    Reads (readElements element false c) ds more ↔
      ∃ s rest, element c.skipBlanks.next.skipBlanks = .ok s ∧
        Reads (readElements element false s.cursor) rest more ∧ ds = s.value :: rest := by
  conv_lhs => unfold readElements
  split
  · rename_i hnil
    cases hc.symm.trans hnil
  · rename_i b bs hcons
    cases hc.symm.trans hcons
    rw [if_neg (by decide), if_neg (by decide), if_pos rfl]
    split
    · rename_i hnil
      cases hnext.symm.trans hnil
    · rename_i d ds hcons
      cases hnext.symm.trans hcons
      rw [if_neg hb]
      cases hs : element c.skipBlanks.next.skipBlanks with
      | error e => simp
      | ok s =>
        simp only
        cases ht : readElements element false s.cursor with
        | error e => simp [ht]
        | ok t => simp [ht, eq_comm, and_comm]

end Elements

/-! ## Objects -/

theorem reads_noKey_iff {first : Bool} {c : Cursor} {more : List UInt8} :
    Reads (readKey first c) none more ↔ c.skipBlanks.rest = byte '\x7d' :: more := by
  unfold readKey
  split
  · rename_i hnil
    simp [hnil]
  · rename_i b bs hc
    have hnext : c.skipBlanks.next.rest = bs := Cursor.next_of_cons hc
    by_cases hb : b = byte '\x7d'
    · rw [if_pos hb]
      simp [hnext, hc, hb]
    · -- a key has a text, so none of the other branches returns nothing
      have key_ne {k : Nat} {d : Cursor} (s : Step k d String) (h : d.rest.length ≤ c.rest.length) :
          ((s.map some).widen h : Step k c (Option String)).value ≠ none := Option.some_ne_none _
      rw [if_neg hb]
      simp only [hc, List.cons.injEq, hb, false_and, iff_false]
      split
      · split
        · split
          · exact reads_error
          · exact fun h => key_ne _ _ (reads_ok.mp h).1
        · exact reads_error
      · split
        · split
          · exact reads_error
          · split
            · split
              · exact reads_error
              · exact fun h => key_ne _ _ (reads_ok.mp h).1
            · split <;> exact reads_error
        · exact reads_error

theorem reads_firstKey_iff {c : Cursor} {key : String} {more : List UInt8} :
    Reads (readKey true c) (some key) more ↔
      ∃ quoted, Quoted key quoted ∧ c.skipBlanks.rest = byte '"' :: (quoted ++ more) := by
  have hne : byte '\x7d' ≠ byte '"' := by decide
  unfold readKey
  split
  · rename_i hnil
    simp [hnil]
  · rename_i b bs hc
    have hnext : c.skipBlanks.next.rest = bs := Cursor.next_of_cons hc
    by_cases hbrace : b = byte '\x7d'
    · rw [if_pos hbrace]
      simp [hc, hbrace, hne]
    · rw [if_neg hbrace, if_pos rfl]
      by_cases hquote : b = byte '"'
      · rw [if_pos hquote]
        have string : Reads (readString c.skipBlanks.next) key more ↔
            ∃ quoted, Quoted key quoted ∧ bs = quoted ++ more := by
          rw [reads_string_iff, hnext]
        cases hs : readString c.skipBlanks.next with
        | error e =>
          rw [hs] at string
          simpa [hc, hquote] using string
        | ok s =>
          rw [hs] at string
          simpa [hc, hquote, Step.widen, Step.map] using string
      · simp [hc, hquote]

theorem reads_furtherKey_iff {c : Cursor} {key : String} {more : List UInt8} :
    Reads (readKey false c) (some key) more ↔
      ∃ rest quoted, Quoted key quoted ∧ c.skipBlanks.rest = byte ',' :: rest ∧
        rest.dropWhile Cursor.isBlankByte = byte '"' :: (quoted ++ more) := by
  have hne : byte '\x7d' ≠ byte ',' := by decide
  unfold readKey
  split
  · rename_i hnil
    simp [hnil]
  · rename_i b bs hc
    have hnext : c.skipBlanks.next.skipBlanks.rest = bs.dropWhile Cursor.isBlankByte := by
      rw [Cursor.skipBlanks_rest, Cursor.next_of_cons hc]
    by_cases hbrace : b = byte '\x7d'
    · rw [if_pos hbrace]
      simp [hc, hbrace, hne]
    · rw [if_neg hbrace, if_neg (by decide)]
      by_cases hcomma : b = byte ','
      · rw [if_pos hcomma]
        split
        · rename_i hnil
          simp [hc, hcomma, ← hnext, hnil]
        · rename_i d ds hcons
          have hnext' : c.skipBlanks.next.skipBlanks.next.rest = ds := Cursor.next_of_cons hcons
          by_cases hquote : d = byte '"'
          · rw [if_pos hquote]
            have string : Reads (readString c.skipBlanks.next.skipBlanks.next) key more ↔
                ∃ quoted, Quoted key quoted ∧ ds = quoted ++ more := by
              rw [reads_string_iff, hnext']
            cases hs : readString c.skipBlanks.next.skipBlanks.next with
            | error e =>
              rw [hs] at string
              simpa [hc, hcomma, ← hnext, hcons, hquote] using string
            | ok s =>
              rw [hs] at string
              simpa [hc, hcomma, ← hnext, hcons, hquote, Step.widen, Step.map] using string
          · rw [if_neg hquote]
            split <;> simp [hc, hcomma, ← hnext, hcons, hquote]
      · simp [hc, hcomma]

theorem reads_colon_iff {c : Cursor} {more : List UInt8} :
    Reads (readColon c) () more ↔ c.skipBlanks.rest = byte ':' :: more := by
  unfold readColon
  split
  · rename_i hnil
    simp [hnil]
  · rename_i b bs hc
    have hnext : c.skipBlanks.next.rest = bs := Cursor.next_of_cons hc
    by_cases hb : b = byte ':'
    · rw [if_pos hb]
      simp [hnext, hc, hb]
    · simp [hc, hb]

theorem reads_member_iff {element : (c : Cursor) → Reading c Document} {c : Cursor} {d : Document}
    {more : List UInt8} :
    Reads (readMember element c) d more ↔
      ∃ s, readColon c = .ok s ∧ Reads (element s.cursor) d more :=
  reads_andThen_iff

section Members

variable {element : (c : Cursor) → Reading c Document} {c : Cursor}
  {ms : List (String × Document)} {more : List UInt8}

theorem reads_members_closer {rest : List UInt8} (hc : c.skipBlanks.rest = byte '\x7d' :: rest) :
    Reads (readMembers element c) ms more ↔ ms = [] ∧ more = rest := by
  obtain ⟨key, hkey, hnone, hrest⟩ : Reads (readKey false c) none rest := reads_noKey_iff.mpr hc
  rw [readMembers]
  simp only [hkey]
  split
  · rw [reads_ok, ← hrest]
    exact and_congr eq_comm eq_comm
  · rename_i name hname
    cases hnone.symm.trans hname

theorem reads_furtherMember {key : Step 1 c (Option String)} {name : String}
    (hkey : readKey false c = .ok key) (hname : key.value = some name) :
    Reads (readMembers element c) ms more ↔
      ∃ s rest, readMember element key.cursor = .ok s ∧
        Reads (readMembers element s.cursor) rest more ∧ ms = (name, s.value) :: rest := by
  conv_lhs => rw [readMembers]
  simp only [hkey]
  split
  · rename_i hnone
    cases hnone.symm.trans hname
  · rename_i name' hname'
    cases hname.symm.trans hname'
    cases hs : readMember element key.cursor with
    | error e => simp
    | ok s =>
      simp only
      cases ht : readMembers element s.cursor with
      | error e => simp [ht]
      | ok t => simp [ht, eq_comm, and_comm]

theorem reads_object_closer {d : Document} {rest : List UInt8}
    (hc : c.skipBlanks.rest = byte '\x7d' :: rest) :
    Reads (readObject element c) d more ↔ d = .object [] ∧ more = rest := by
  obtain ⟨key, hkey, hnone, rfl⟩ : Reads (readKey true c) none rest := reads_noKey_iff.mpr hc
  unfold readObject
  simp only [hkey]
  split
  · rw [reads_ok]
    exact and_congr eq_comm eq_comm
  · rename_i name hname
    cases hnone.symm.trans hname

theorem reads_object_key {d : Document} {key : Step 1 c (Option String)} {name : String}
    (hkey : readKey true c = .ok key) (hname : key.value = some name) (hne : name ≠ numberKey) :
    Reads (readObject element c) d more ↔
      ∃ ms, (∃ s rest, readMember element key.cursor = .ok s ∧
        Reads (readMembers element s.cursor) rest more ∧ ms = (name, s.value) :: rest) ∧
        d = .object (Entries.ofMembers ms) := by
  unfold readObject
  simp only [hkey]
  split
  · rename_i hnone
    cases hnone.symm.trans hname
  · rename_i name' hname'
    cases hname.symm.trans hname'
    rw [if_neg hne]
    cases hs : readMember element key.cursor with
    | error e => simp
    | ok s =>
      simp only
      cases ht : readMembers element s.cursor with
      | error e => simp [ht]
      | ok t => simp [ht, eq_comm, and_comm]

theorem reads_object_numberKey {d : Document} {key : Step 1 c (Option String)}
    (hkey : readKey true c = .ok key) (hname : key.value = some numberKey) :
    Reads (readObject element c) d more ↔
      ∃ n, Reads (readNumberObject key.cursor) n more ∧ d = .number n := by
  unfold readObject
  simp only [hkey]
  split
  · rename_i hnone
    cases hnone.symm.trans hname
  · rename_i name' hname'
    cases hname.symm.trans hname'
    rw [if_pos rfl]
    cases hs : readNumberObject key.cursor with
    | error e => simp
    | ok s => simp [Step.map, Step.widen, eq_comm, and_comm]

end Members

/-! ## Objects that stand for numbers -/

theorem reads_numberEnd_iff {c : Cursor} {more : List UInt8} :
    Reads (readNumberEnd c) () more ↔ c.skipBlanks.rest = byte '\x7d' :: more := by
  unfold readNumberEnd
  split
  · rename_i hnil
    simp [hnil]
  · rename_i b bs hc
    have hnext : c.skipBlanks.next.rest = bs := Cursor.next_of_cons hc
    by_cases hb : b = byte '\x7d'
    · rw [if_pos hb]
      simp [hnext, hc, hb]
    · rw [if_neg hb]
      split <;> simp [hc, hb]

theorem reads_numberValue_iff {c : Cursor} {n : Number} {more : List UInt8} :
    Reads (readNumberValue c) n more ↔ ∃ text quoted, Quoted text quoted ∧
      Number.IsNumeral text.toList ∧ n = Number.kept ⟨text⟩ ∧
      c.skipBlanks.rest = byte '"' :: (quoted ++ more) := by
  unfold readNumberValue
  split
  · rename_i hnil
    simp [hnil]
  · rename_i b bs hc
    have hnext : c.skipBlanks.next.rest = bs := Cursor.next_of_cons hc
    by_cases hb : b = byte '"'
    · rw [if_pos hb]
      constructor
      · intro h
        split at h
        · exact absurd h reads_error
        · rename_i s hs
          split at h
          · exact absurd h reads_error
          · rename_i m hm
            obtain ⟨rfl, rfl⟩ := reads_ok.mp h
            obtain ⟨quoted, hquoted, hrest⟩ := reads_string_iff.mp ⟨s, hs, rfl, rfl⟩
            obtain ⟨htext, hkept⟩ := readNumberText_eq_ok_iff.mp hm
            rw [hnext] at hrest
            exact ⟨s.value, quoted, hquoted, htext, hkept, by rw [hc, hb, hrest]; rfl⟩
      · rintro ⟨text, quoted, hquoted, htext, rfl, hrest⟩
        rw [hc, List.cons.injEq] at hrest
        obtain ⟨s, hs, rfl, rfl⟩ :=
          reads_string_iff.mpr ⟨quoted, hquoted, hnext.trans hrest.2⟩
        simp [hs, readNumberText_eq_ok_iff.mpr ⟨htext, rfl⟩, Step.widen, Step.map]
    · simp [hc, hb]

theorem reads_numberObject_iff {c : Cursor} {n : Number} {more : List UInt8} :
    Reads (readNumberObject c) n more ↔ ∃ text quoted rest behind, Quoted text quoted ∧
      Number.IsNumeral text.toList ∧ n = Number.kept ⟨text⟩ ∧
      c.skipBlanks.rest = byte ':' :: rest ∧
      rest.dropWhile Cursor.isBlankByte = byte '"' :: (quoted ++ behind) ∧
      behind.dropWhile Cursor.isBlankByte = byte '\x7d' :: more := by
  unfold readNumberObject
  rw [reads_andThen_iff]
  constructor
  · rintro ⟨colon, hcolon, h⟩
    split at h
    · exact absurd h reads_error
    · rename_i value hvalue
      split at h
      · exact absurd h reads_error
      · rename_i close hclose
        obtain ⟨rfl, rfl⟩ := reads_ok.mp h
        obtain ⟨text, quoted, hquoted, htext, hkept, hrest⟩ :=
          reads_numberValue_iff.mp ⟨value, hvalue, rfl, rfl⟩
        have hend := reads_numberEnd_iff.mp ⟨close, hclose, rfl, rfl⟩
        rw [Cursor.skipBlanks_rest] at hrest hend
        exact ⟨text, quoted, _, _, hquoted, htext, hkept,
          reads_colon_iff.mp ⟨colon, hcolon, rfl, rfl⟩, hrest, hend⟩
  · rintro ⟨text, quoted, rest, behind, hquoted, htext, rfl, hc, hrest, hbehind⟩
    obtain ⟨colon, hcolon, -, rfl⟩ := reads_colon_iff.mpr hc
    rw [← Cursor.skipBlanks_rest] at hrest
    obtain ⟨value, hvalue, hkept, rfl⟩ :=
      reads_numberValue_iff.mpr ⟨text, quoted, hquoted, htext, rfl, hrest⟩
    rw [← Cursor.skipBlanks_rest] at hbehind
    obtain ⟨close, hclose, -, rfl⟩ := reads_numberEnd_iff.mpr hbehind
    exact ⟨colon, hcolon, by simp [hvalue, hclose, hkept]⟩

/-! ## Values -/

theorem reads_worded_iff {text : String} {w d : Document} {htext : 0 < text.toList.length}
    {c : Cursor} {blanks : c.skipBlanks.rest.length ≤ c.rest.length} {more : List UInt8} :
    Reads (readValueWith.worded c text w htext blanks) d more ↔
      Reads (readWord text.toList c.skipBlanks) () more ∧ d = w := by
  unfold readValueWith.worded
  cases readWord text.toList c.skipBlanks with
  | error e => simp
  | ok s => simp [eq_comm, and_comm]

/-- What a value is goes by its first byte. -/
theorem reads_valueWith_iff {inner : Option ((c : Cursor) → Reading c Document)} {c : Cursor}
    {b : UInt8} {bs : List UInt8} (hc : c.skipBlanks.rest = b :: bs) {d : Document}
    {more : List UInt8} :
    Reads (readValueWith inner c) d more ↔
      if b = byte 'n' then Reads (readWord "null".toList c.skipBlanks) () more ∧ d = .null
      else if b = byte 't' then
        Reads (readWord "true".toList c.skipBlanks) () more ∧ d = .bool true
      else if b = byte 'f' then
        Reads (readWord "false".toList c.skipBlanks) () more ∧ d = .bool false
      else if startsNumber b then ∃ n, Reads (readNumber c.skipBlanks) n more ∧ d = .number n
      else if b = byte '"' then
        ∃ text, Reads (readString c.skipBlanks.next) text more ∧ d = .string text
      else if b = byte '[' then ∃ element ∈ inner, ∃ items,
        Reads (readElements element true c.skipBlanks.next) items more ∧ d = .array items
      else if b = byte '\x7b' then ∃ element ∈ inner,
        Reads (readObject element c.skipBlanks.next) d more
      else False := by
  unfold readValueWith
  split
  · rename_i hnil
    cases hc.symm.trans hnil
  · rename_i b' bs' hcons
    cases hc.symm.trans hcons
    dsimp only
    by_cases hn : b = byte 'n'
    · rw [if_pos hn, if_pos hn]
      exact reads_worded_iff
    rw [if_neg hn, if_neg hn]
    by_cases ht : b = byte 't'
    · rw [if_pos ht, if_pos ht]
      exact reads_worded_iff
    rw [if_neg ht, if_neg ht]
    by_cases hf : b = byte 'f'
    · rw [if_pos hf, if_pos hf]
      exact reads_worded_iff
    rw [if_neg hf, if_neg hf]
    by_cases hnumber : startsNumber b = true
    · rw [if_pos hnumber, if_pos hnumber]
      cases hs : readNumber c.skipBlanks with
      | error e => simp
      | ok s => simp [Step.map, Step.widen, eq_comm, and_comm]
    rw [if_neg hnumber, if_neg hnumber]
    by_cases hquote : b = byte '"'
    · rw [if_pos hquote, if_pos hquote]
      cases hs : readString c.skipBlanks.next with
      | error e => simp
      | ok s => simp [Step.map, Step.widen, eq_comm, and_comm]
    rw [if_neg hquote, if_neg hquote]
    by_cases hbracket : b = byte '['
    · rw [if_pos hbracket, if_pos hbracket]
      cases inner with
      | none => simp
      | some element =>
        simp only [Option.mem_some, exists_eq_left']
        cases hs : readElements element true c.skipBlanks.next with
        | error e => simp
        | ok s => simp [Step.map, Step.widen, eq_comm, and_comm]
    rw [if_neg hbracket, if_neg hbracket]
    by_cases hbrace : b = byte '\x7b'
    · rw [if_pos hbrace, if_pos hbrace]
      cases inner with
      | none => simp
      | some element =>
        simp only [Option.mem_some, exists_eq_left']
        cases hs : readObject element c.skipBlanks.next with
        | error e => simp
        | ok s => simp [Step.widen]
    · rw [if_neg hbrace, if_neg hbrace]
      simp

end ManifestCheck
