import ManifestCheck.Document.Reader

/-!
# The grammar of texts

Which bytes write which tree, said without the reader.  A text is related to the tree as it stands
there: a number has the literal of the text, and an object has all its members in their order,
repeated keys included (`Document.WrittenAs`).  What a reader keeps of such a tree is a function of
the tree alone: the exponent of a number takes one form, a repeated key keeps its first place and
takes its last value, and an object whose first key is `numberKey` becomes a number
(`Document.kept`).  Of the trees that are written, just those are kept whose objects with that first
key hold the text of a number and nothing else (`Document.Readable`).
-/

namespace ManifestCheck

/-! ## Numerals -/

namespace Number

/-- A row of decimal digits, one at least. -/
def IsRow (cs : List Char) : Prop := cs ≠ [] ∧ ∀ c ∈ cs, c.isDigit = true

/-- The part before the point: a row of digits that starts with a zero only if it is one. -/
def IsWhole (cs : List Char) : Prop := IsRow cs ∧ (cs.head? = some '0' → cs = ['0'])

/-- A point and a row of digits, or nothing. -/
def IsFraction (cs : List Char) : Prop := cs = [] ∨ ∃ row, IsRow row ∧ cs = '.' :: row

/-- A mark, a sign and a row of digits, or nothing. -/
def IsExponent (cs : List Char) : Prop :=
  cs = [] ∨ ∃ sign row, (sign = '+' ∨ sign = '-') ∧ IsRow row ∧ cs = 'e' :: sign :: row

/-- A number as it is kept when it has been read. -/
def IsLiteral (n : Number) : Prop :=
  ∃ minus whole fraction exponent, (minus = [] ∨ minus = ['-']) ∧ IsWhole whole ∧
    IsFraction fraction ∧ IsExponent exponent ∧
    n.literal.toList = minus ++ whole ++ fraction ++ exponent

/-- A mark, a row of digits and perhaps a sign between them, or nothing. -/
def IsWrittenExponent (cs : List Char) : Prop :=
  cs = [] ∨ ∃ mark sign row, (mark = 'e' ∨ mark = 'E') ∧ (sign = [] ∨ sign = ['+'] ∨ sign = ['-']) ∧
    IsRow row ∧ cs = mark :: (sign ++ row)

/-- A number as it may be written. -/
def IsNumeral (cs : List Char) : Prop :=
  ∃ minus whole fraction exponent, (minus = [] ∨ minus = ['-']) ∧ IsWhole whole ∧
    IsFraction fraction ∧ IsWrittenExponent exponent ∧ cs = minus ++ whole ++ fraction ++ exponent

theorem IsLiteral.isNumeral {n : Number} (h : n.IsLiteral) : IsNumeral n.literal.toList := by
  obtain ⟨minus, whole, fraction, exponent, hminus, hwhole, hfraction, hexponent, hn⟩ := h
  refine ⟨minus, whole, fraction, exponent, hminus, hwhole, hfraction, ?_, hn⟩
  rcases hexponent with rfl | ⟨sign, row, hsign, hrow, rfl⟩
  · exact .inl rfl
  · refine .inr ⟨'e', [sign], row, .inl rfl, .inr ?_, hrow, rfl⟩
    rcases hsign with rfl | rfl
    · exact .inl rfl
    · exact .inr rfl

/-- An exponent from behind its mark with its sign written out. -/
def signed : List Char → List Char
  | '+' :: row => '+' :: row
  | '-' :: row => '-' :: row
  | row => '+' :: row

/-- A literal whose exponent has the mark `e` and a sign. -/
def keptChars : List Char → List Char
  | [] => []
  | c :: cs => if c = 'e' || c = 'E' then 'e' :: signed cs else c :: keptChars cs

theorem signed_row {row : List Char} (h : IsRow row) : signed row = '+' :: row := by
  obtain ⟨d, ds, rfl⟩ := List.exists_cons_of_ne_nil h.1
  have hd := h.2 d List.mem_cons_self
  unfold signed
  split
  · rename_i hplus
    cases hplus
    cases hd
  · rename_i hminus
    cases hminus
    cases hd
  · rfl

theorem keptChars_mark {mark : Char} (h : mark = 'e' ∨ mark = 'E') (cs : List Char) :
    keptChars (mark :: cs) = 'e' :: signed cs := by
  rcases h with rfl | rfl <;> rfl

theorem keptChars_append {front : List Char} (h : ∀ c ∈ front, c ≠ 'e' ∧ c ≠ 'E')
    (cs : List Char) : keptChars (front ++ cs) = front ++ keptChars cs := by
  induction front with
  | nil => rfl
  | cons c front ih =>
    obtain ⟨he, hE⟩ := h c List.mem_cons_self
    rw [List.cons_append, keptChars, ih fun d hd => h d (List.mem_cons_of_mem _ hd)]
    simp [he, hE]

/-- What is kept of a number as it is written. -/
def kept (n : Number) : Number := ⟨String.ofList (keptChars n.literal.toList)⟩

/-- The part in front of an exponent has no mark in it. -/
theorem not_mark_of_mem {minus whole fraction : List Char} (hminus : minus = [] ∨ minus = ['-'])
    (hwhole : IsWhole whole) (hfraction : IsFraction fraction) :
    ∀ c ∈ minus ++ whole ++ fraction, c ≠ 'e' ∧ c ≠ 'E' := by
  have digit : ∀ c : Char, c.isDigit = true → c ≠ 'e' ∧ c ≠ 'E' := by
    rintro c hc
    constructor <;> rintro rfl <;> cases hc
  intro c hc
  rcases List.mem_append.mp hc with hc | hc
  · rcases List.mem_append.mp hc with hc | hc
    · rcases hminus with rfl | rfl
      · cases hc
      · rw [List.mem_singleton.mp hc]
        decide
    · exact digit c (hwhole.1.2 c hc)
  · rcases hfraction with rfl | ⟨row, hrow, rfl⟩
    · cases hc
    · rcases List.mem_cons.mp hc with rfl | hc
      · decide
      · exact digit c (hrow.2 c hc)

theorem isExponent_keptChars {cs : List Char} (h : IsWrittenExponent cs) :
    IsExponent (keptChars cs) := by
  rcases h with rfl | ⟨mark, sign, row, hmark, hsign, hrow, rfl⟩
  · exact .inl rfl
  · rw [keptChars_mark hmark]
    rcases hsign with rfl | rfl | rfl
    · exact .inr ⟨'+', row, .inl rfl, hrow, congrArg _ (signed_row hrow)⟩
    · exact .inr ⟨'+', row, .inl rfl, hrow, rfl⟩
    · exact .inr ⟨'-', row, .inr rfl, hrow, rfl⟩

/-- What is kept of a numeral is a literal. -/
theorem isLiteral_kept {n : Number} (h : IsNumeral n.literal.toList) : n.kept.IsLiteral := by
  obtain ⟨minus, whole, fraction, exponent, hminus, hwhole, hfraction, hexponent, hn⟩ := h
  refine ⟨minus, whole, fraction, keptChars exponent, hminus, hwhole, hfraction,
    isExponent_keptChars hexponent, ?_⟩
  rw [kept, String.toList_ofList, hn, keptChars_append (not_mark_of_mem hminus hwhole hfraction)]

end Number

/-! ## Tokens -/

namespace Grammar

/-- Bytes that may stand between tokens. -/
def Blanks (bytes : List UInt8) : Prop := ∀ b ∈ bytes, Cursor.isBlankByte b = true

/-- The bytes of a fixed word. -/
def word (text : String) : List UInt8 := text.toList.map byte

/-- Four hexadecimal digits and the number that they write. -/
inductive HexQuad : Nat → List UInt8 → Prop
  | digits {a b d e : UInt8} {w x y z : Nat} : hexByte? a = some w → hexByte? b = some x →
    hexByte? d = some y → hexByte? e = some z →
    HexQuad (((w * 16 + x) * 16 + y) * 16 + z) [a, b, d, e]

/-- An escape from behind its backslash, and the bytes that it stands for. -/
inductive Escape : List UInt8 → List UInt8 → Prop
  | short {b e : UInt8} : shortEscape? b = some e → Escape [e] [b]
  | code {n : Nat} {quad : List UInt8} : HexQuad n quad → n < 0xD800 ∨ 0xDFFF < n →
    Escape (codeBytes n) (byte 'u' :: quad)
  | pair {high low : Nat} {first second : List UInt8} : HexQuad high first → HexQuad low second →
    0xD800 ≤ high → high ≤ 0xDBFF → 0xDC00 ≤ low → low ≤ 0xDFFF →
    Escape (codeBytes ((high - 0xD800) * 0x400 + (low - 0xDC00) + 0x10000))
      (byte 'u' :: (first ++ byte '\\' :: byte 'u' :: second))

/-- What stands between quotation marks, and the bytes that are meant. -/
inductive StringBody : List UInt8 → List UInt8 → Prop
  | empty : StringBody [] []
  | plain {b : UInt8} {meant body : List UInt8} : b ≠ byte '"' → b ≠ byte '\\' → 32 ≤ b →
    StringBody meant body → StringBody (b :: meant) (b :: body)
  | escape {bytes own meant body : List UInt8} : Escape bytes own → StringBody meant body →
    StringBody (bytes ++ meant) (byte '\\' :: (own ++ body))

theorem StringBody.append {meant body meant' body' : List UInt8} (h : StringBody meant body)
    (h' : StringBody meant' body') : StringBody (meant ++ meant') (body ++ body') := by
  induction h with
  | empty => exact h'
  | plain hq hs hc _ ih => exact .plain hq hs hc ih
  | escape he _ ih =>
    rw [List.append_assoc, List.cons_append, List.append_assoc]
    exact .escape he ih

/-- A string from behind its opening quotation mark. -/
def Quoted (text : String) (bytes : List UInt8) : Prop :=
  ∃ body, StringBody (Utf8.encode text) body ∧ bytes = body ++ [byte '"']

/-! ## Containers and values -/

section Sequences

variable {α : Type} (U : α → List UInt8 → Prop) (closer : UInt8)

/-- The rest of a container from behind one of its parts: a comma in front of each further part,
and the closer. -/
inductive FurtherParts : List α → List UInt8 → Prop
  | close {blanks : List UInt8} : Blanks blanks → FurtherParts [] (blanks ++ [closer])
  | comma {a : α} {as : List α} {before behind own rest : List UInt8} : Blanks before →
    Blanks behind → U a own → FurtherParts as rest →
    FurtherParts (a :: as) (before ++ byte ',' :: (behind ++ (own ++ rest)))

/-- A container from behind its opening bracket. -/
inductive Parts : List α → List UInt8 → Prop
  | none {blanks : List UInt8} : Blanks blanks → Parts [] (blanks ++ [closer])
  | some {a : α} {as : List α} {blanks own rest : List UInt8} : Blanks blanks → U a own →
    FurtherParts U closer as rest → Parts (a :: as) (blanks ++ (own ++ rest))

end Sequences

section Parts

variable {α : Type} {U : α → List UInt8 → Prop} {closer : UInt8} {as : List α} {a : α}
  {bytes : List UInt8}

/-- A part of a container is written by a part of the text. -/
theorem FurtherParts.exists_of_mem (h : FurtherParts U closer as bytes) (ha : a ∈ as) :
    ∃ own, U a own ∧ own <:+: bytes := by
  induction h with
  | close => cases ha
  | @comma b bs before behind own rest _ _ hb _ ih =>
    rcases List.mem_cons.mp ha with rfl | ha
    · exact ⟨own, hb, before ++ byte ',' :: behind, rest, by simp⟩
    · obtain ⟨inner, hinner, hwithin⟩ := ih ha
      refine ⟨inner, hinner, hwithin.trans ?_⟩
      exact ⟨before ++ byte ',' :: (behind ++ own), [], by simp⟩

theorem Parts.exists_of_mem (h : Parts U closer as bytes) (ha : a ∈ as) :
    ∃ own, U a own ∧ own <:+: bytes := by
  cases h with
  | none => cases ha
  | @some b bs blanks own rest _ hb hrest =>
    rcases List.mem_cons.mp ha with rfl | ha
    · exact ⟨own, hb, blanks, rest, by simp⟩
    · obtain ⟨inner, hinner, hwithin⟩ := hrest.exists_of_mem ha
      refine ⟨inner, hinner, hwithin.trans ?_⟩
      exact ⟨blanks ++ own, [], by simp⟩

end Parts

/-- A key, a colon and a value. -/
inductive Member (U : Document → List UInt8 → Prop) : String × Document → List UInt8 → Prop
  | colon {key : String} {d : Document} {quoted before behind own : List UInt8} :
    Quoted key quoted → Blanks before → Blanks behind → U d own →
    Member U (key, d) (byte '"' :: (quoted ++ (before ++ byte ':' :: (behind ++ own))))

/-- The bytes of a value from its first to its last. -/
inductive Value : Document → List UInt8 → Prop
  | nullWord : Value .null (word "null")
  | trueWord : Value (.bool true) (word "true")
  | falseWord : Value (.bool false) (word "false")
  | number {n : Number} : Number.IsNumeral n.literal.toList →
    Value (.number n) (n.literal.toList.map byte)
  | string {text : String} {quoted : List UInt8} : Quoted text quoted →
    Value (.string text) (byte '"' :: quoted)
  | array {items : List Document} {bytes : List UInt8} : Parts Value (byte ']') items bytes →
    Value (.array items) (byte '[' :: bytes)
  | object {members : List (String × Document)} {bytes : List UInt8} :
    Parts (Member Value) (byte '\x7d') members bytes →
    Value (.object members) (byte '\x7b' :: bytes)

end Grammar

/-! ## What is kept of a tree -/

namespace Document

/-- The tree is what a text says, blanks around it left aside. -/
def WrittenAs (w : Document) (bytes : List UInt8) : Prop :=
  ∃ before own behind, Grammar.Blanks before ∧ Grammar.Value w own ∧ Grammar.Blanks behind ∧
    bytes = before ++ (own ++ behind)

/-- The text under `numberKey` in an object that has no other entry. -/
def numberText? : List (String × Document) → Option String
  | [(key, string text)] => if key = numberKey then some text else none
  | _ => none

mutual

/-- What is kept of a tree as it is written. -/
def kept : Document → Document
  | number n => number n.kept
  | array items => array (keptItems items)
  | object members =>
    match numberText? members with
    | some text => number (Number.kept ⟨text⟩)
    | none => object (Entries.ofMembers (keptMembers members))
  | d => d

def keptItems : List Document → List Document
  | [] => []
  | d :: ds => kept d :: keptItems ds

def keptMembers : List (String × Document) → List (String × Document)
  | [] => []
  | (key, d) :: rest => (key, kept d) :: keptMembers rest

end

theorem keptItems_eq_map (items : List Document) : keptItems items = items.map kept := by
  induction items with
  | nil => rfl
  | cons d ds ih => rw [keptItems, ih, List.map_cons]

theorem keptMembers_eq_map (members : List (String × Document)) :
    keptMembers members = members.map fun m => (m.1, m.2.kept) := by
  induction members with
  | nil => rfl
  | cons m rest ih => rw [keptMembers, ih, List.map_cons]

theorem kept_array (items : List Document) : (array items).kept = array (items.map kept) := by
  rw [kept, keptItems_eq_map]

theorem numberText?_eq_none {members : List (String × Document)}
    (h : ∀ m ∈ members.head?, m.1 ≠ numberKey) : numberText? members = none := by
  unfold numberText?
  split
  · exact if_neg (h _ rfl)
  · rfl

theorem kept_object {members : List (String × Document)}
    (h : ∀ m ∈ members.head?, m.1 ≠ numberKey) :
    (object members).kept =
      object (Entries.ofMembers (members.map fun m => (m.1, m.2.kept))) := by
  rw [kept, numberText?_eq_none h, keptMembers_eq_map]

theorem kept_numberObject (text : String) :
    (object [(numberKey, string text)]).kept = number (Number.kept ⟨text⟩) := by
  simp [kept, numberText?]

/-- The trees that the reader lets in: an object whose first key is `numberKey` holds the text of a
number and nothing else. -/
inductive Readable : Document → Prop
  | null : Readable null
  | bool (b : Bool) : Readable (bool b)
  | number (n : Number) : Readable (number n)
  | string (text : String) : Readable (string text)
  | array {items : List Document} : (∀ d ∈ items, Readable d) → Readable (array items)
  | object {members : List (String × Document)} : (∀ m ∈ members.head?, m.1 ≠ numberKey) →
    (∀ m ∈ members, Readable m.2) → Readable (object members)
  | numberObject {text : String} : Number.IsNumeral text.toList →
    Readable (object [(numberKey, string text)])

theorem readable_array {items : List Document} :
    (array items).Readable ↔ ∀ d ∈ items, d.Readable := by
  refine ⟨fun h => ?_, .array⟩
  cases h with
  | array h => exact h

theorem readable_object {members : List (String × Document)}
    (hfirst : ∀ m ∈ members.head?, m.1 ≠ numberKey) :
    (object members).Readable ↔ ∀ m ∈ members, m.2.Readable := by
  refine ⟨fun h => ?_, .object hfirst⟩
  cases h with
  | object _ h => exact h
  | numberObject => exact absurd rfl (hfirst _ rfl)

/-- Of an object whose first key is `numberKey` nothing is readable but the text of a number. -/
theorem readable_numberKey {d : Document} {rest : List (String × Document)} :
    (object ((numberKey, d) :: rest)).Readable ↔
      ∃ text, Number.IsNumeral text.toList ∧ d = string text ∧ rest = [] := by
  constructor
  · intro h
    cases h with
    | object hfirst => exact absurd rfl (hfirst _ rfl)
    | numberObject htext => exact ⟨_, htext, rfl, rfl⟩
  · rintro ⟨text, htext, rfl, rfl⟩
    exact .numberObject htext

/-! ### Nesting -/

theorem nesting_array_le {items : List Document} {depth : Nat} :
    (array items).nesting ≤ depth + 1 ↔ ∀ d ∈ items, d.nesting ≤ depth := by
  rw [nesting, Nat.add_le_add_iff_right]
  induction items with
  | nil => simp [nestingItems]
  | cons d ds ih => rw [nestingItems, Nat.max_le, ih, List.forall_mem_cons]

theorem nesting_object_le {members : List (String × Document)} {depth : Nat} :
    (object members).nesting ≤ depth + 1 ↔ ∀ m ∈ members, m.2.nesting ≤ depth := by
  rw [nesting, Nat.add_le_add_iff_right]
  induction members with
  | nil => simp [nestingEntries]
  | cons m rest ih => rw [nestingEntries, Nat.max_le, ih, List.forall_mem_cons]

/-- A tree that can be read where so many containers may be opened inside each other. -/
def ReadableWithin (depth : Nat) (w : Document) : Prop := w.Readable ∧ w.nesting ≤ depth

theorem readableWithin_array {items : List Document} {depth : Nat} :
    (array items).ReadableWithin (depth + 1) ↔ ∀ d ∈ items, d.ReadableWithin depth := by
  simp only [ReadableWithin, readable_array, nesting_array_le, forall_and]

theorem readableWithin_object {members : List (String × Document)} {depth : Nat}
    (hfirst : ∀ m ∈ members.head?, m.1 ≠ numberKey) :
    (object members).ReadableWithin (depth + 1) ↔ ∀ m ∈ members, m.2.ReadableWithin depth := by
  simp only [ReadableWithin, readable_object hfirst, nesting_object_le, forall_and]

theorem readableWithin_numberKey {d : Document} {rest : List (String × Document)} {depth : Nat} :
    (object ((numberKey, d) :: rest)).ReadableWithin (depth + 1) ↔
      ∃ text, Number.IsNumeral text.toList ∧ d = string text ∧ rest = [] := by
  rw [ReadableWithin, readable_numberKey, nesting_object_le, and_iff_left_iff_imp]
  rintro ⟨text, -, rfl, rfl⟩
  simp [nesting]

end Document

end ManifestCheck
