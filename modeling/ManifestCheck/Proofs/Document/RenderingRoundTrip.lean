import ManifestCheck.Proofs.Document.ReadingInduction
import ManifestCheck.Proofs.Outcome

/-!
# Rendering and reading back

A document that was loaded is rendered as a text that loads as the same document.  The rendering
writes the document as it is (`value_of_chars`), and nothing of a document that was kept is changed
by keeping it again (`Document.Readable.kept_kept`).
-/

namespace ManifestCheck

open Grammar

/-! ## What is kept stays as it is -/

namespace Number

theorem signed_signed (cs : List Char) : signed (signed cs) = signed cs := by
  fun_cases signed cs <;> rfl

theorem keptChars_keptChars (cs : List Char) : keptChars (keptChars cs) = keptChars cs := by
  induction cs with
  | nil => rfl
  | cons c cs ih =>
    by_cases h : c = 'e' ∨ c = 'E'
    · rw [keptChars_mark h, keptChars_mark (.inl rfl), signed_signed]
    · have hc : ∀ d ∈ [c], d ≠ 'e' ∧ d ≠ 'E' := by simpa using not_or.mp h
      have hcons (cs : List Char) : keptChars (c :: cs) = c :: keptChars cs :=
        keptChars_append hc cs
      rw [hcons, hcons, ih]

theorem kept_kept (n : Number) : n.kept.kept = n.kept := by
  rw [kept, kept, String.toList_ofList, keptChars_keptChars]

end Number

namespace Entries

variable {α : Type}

theorem head?_insert (key : String) (value : α) (entries : List (String × α)) :
    (insert key value entries).head?.map Prod.fst = (entries.head?.map Prod.fst).or (some key) := by
  cases entries with
  | nil => rfl
  | cons e rest => by_cases h : e.1 = key <;> simp [insert, h]

/-- The first key is the one that came first. -/
theorem head?_ofMembers (members : List (String × α)) :
    (ofMembers members).head?.map Prod.fst = members.head?.map Prod.fst := by
  have behind (entries : List (String × α)) :
      (members.foldl (fun es m => insert m.1 m.2 es) entries).head?.map Prod.fst =
        (entries.head?.map Prod.fst).or (members.head?.map Prod.fst) := by
    induction members generalizing entries with
    | nil => simp
    | cons m rest ih =>
      rw [List.foldl_cons, ih, head?_insert, Option.or_assoc]
      simp
  exact (behind []).trans (by simp)

theorem insert_of_not_mem {key : String} {value : α} {entries : List (String × α)}
    (h : key ∉ keys entries) : insert key value entries = entries ++ [(key, value)] := by
  induction entries with
  | nil => rfl
  | cons e rest ih =>
    rw [keys_cons, List.mem_cons, not_or] at h
    rw [insert, if_neg (Ne.symm h.1), ih h.2, List.cons_append]

theorem foldl_insert_of_nodup {members entries : List (String × α)}
    (h : (keys (entries ++ members)).Nodup) :
    members.foldl (fun es m => insert m.1 m.2 es) entries = entries ++ members := by
  induction members generalizing entries with
  | nil => simp
  | cons m rest ih =>
    have hm : m.1 ∉ keys entries := by
      intro hmem
      rw [keys, List.map_append, List.nodup_append] at h
      exact h.2.2 m.1 hmem m.1 (by simp) rfl
    rw [List.foldl_cons, insert_of_not_mem hm, ih (by simpa using h), List.append_assoc,
      List.singleton_append]

/-- Members with distinct keys are entries as they stand. -/
theorem ofMembers_of_nodup {members : List (String × α)} (h : (keys members).Nodup) :
    ofMembers members = members :=
  foldl_insert_of_nodup h

end Entries

namespace Document

/-- The members of an object that is no number are kept in an object that is none either. -/
theorem head?_keptMembers {members : List (String × Document)}
    (h : ∀ m ∈ members.head?, m.1 ≠ numberKey) :
    ∀ m ∈ (Entries.ofMembers (members.map fun m => (m.1, m.2.kept))).head?,
      m.1 ≠ numberKey := by
  have hfirst := Entries.head?_ofMembers (members.map fun m => (m.1, m.2.kept))
  intro m hm hkey
  rw [hm, List.head?_map, Option.map_map] at hfirst
  obtain ⟨m', hm', hkey'⟩ := Option.map_eq_some_iff.mp hfirst.symm
  exact h m' hm' (hkey'.trans hkey)

/-- What is kept of members is kept of one of them each. -/
theorem exists_of_mem_keptMembers {members : List (String × Document)} {e : String × Document}
    (h : e ∈ Entries.ofMembers (members.map fun m => (m.1, m.2.kept))) :
    ∃ m ∈ members, e = (m.1, m.2.kept) := by
  obtain ⟨m, hm, rfl⟩ := List.mem_map.mp (Entries.mem_of_mem_ofMembers h)
  exact ⟨m, hm, rfl⟩

theorem Readable.kept {w : Document} (h : w.Readable) : w.kept.Readable := by
  induction h with
  | null => exact .null
  | bool b => exact .bool b
  | number n => exact .number n.kept
  | string text => exact .string text
  | array _ ih =>
    rw [kept_array]
    exact .array (List.forall_mem_map.mpr ih)
  | object hfirst _ ih =>
    rw [kept_object hfirst]
    refine .object (head?_keptMembers hfirst) fun e he => ?_
    obtain ⟨m, hm, rfl⟩ := exists_of_mem_keptMembers he
    exact ih m hm
  | numberObject =>
    rw [kept_numberObject]
    exact .number _

theorem Readable.kept_kept {w : Document} (h : w.Readable) : w.kept.kept = w.kept := by
  induction h with
  | null => rfl
  | bool b => rfl
  | string text => rfl
  | number n => rw [Document.kept, Document.kept, Number.kept_kept]
  | array _ ih =>
    rw [kept_array, kept_array, List.map_map]
    exact congrArg Document.array (List.map_congr_left ih)
  | @object members hfirst _ ih =>
    rw [kept_object hfirst, kept_object (head?_keptMembers hfirst)]
    have hfix : (Entries.ofMembers (members.map fun m => (m.1, m.2.kept))).map
        (fun m => (m.1, m.2.kept)) = Entries.ofMembers (members.map fun m => (m.1, m.2.kept)) := by
      conv_rhs => rw [← List.map_id (Entries.ofMembers _)]
      refine List.map_congr_left fun e he => ?_
      obtain ⟨m, hm, rfl⟩ := exists_of_mem_keptMembers he
      rw [ih m hm, id]
    rw [hfix, Entries.ofMembers_of_nodup (Entries.nodup_keys_ofMembers _)]
  | numberObject => rw [kept_numberObject, Document.kept, Number.kept_kept]

theorem Readable.nesting_kept_le {w : Document} (h : w.Readable) : w.kept.nesting ≤ w.nesting := by
  induction h with
  | null => exact Nat.le_refl _
  | bool b => exact Nat.le_refl _
  | string text => exact Nat.le_refl _
  | number n => exact Nat.le_refl _
  | @array items _ ih =>
    have hitems := nesting_array_le.mp (Nat.le_refl (nestingItems items + 1))
    rw [kept_array]
    exact nesting_array_le.mpr (List.forall_mem_map.mpr fun d hd => (ih d hd).trans (hitems d hd))
  | @object members hfirst _ ih =>
    have hmembers := nesting_object_le.mp (Nat.le_refl (nestingEntries members + 1))
    rw [kept_object hfirst]
    refine nesting_object_le.mpr fun e he => ?_
    obtain ⟨m, hm, rfl⟩ := exists_of_mem_keptMembers he
    exact (ih m hm).trans (hmembers m hm)
  | numberObject =>
    rw [kept_numberObject]
    exact Nat.zero_le _

end Document

/-! ## What a rendering writes -/

/-- The bytes of characters. -/
def charsBytes (cs : List Char) : List UInt8 := cs.flatMap String.utf8EncodeChar

theorem charsBytes_append (cs ds : List Char) :
    charsBytes (cs ++ ds) = charsBytes cs ++ charsBytes ds :=
  List.flatMap_append

theorem charsBytes_cons {c : Char} (h : c.toNat < 128) (cs : List Char) :
    charsBytes (c :: cs) = byte c :: charsBytes cs := by
  rw [charsBytes, List.flatMap_cons, utf8EncodeChar_ascii h]
  rfl

/-- The bytes of a character beyond ASCII are themselves beyond ASCII. -/
theorem le_of_mem_utf8EncodeChar {c : Char} (h : 128 ≤ c.toNat) {b : UInt8}
    (hb : b ∈ String.utf8EncodeChar c) : 128 ≤ b.toNat := by
  have hc : ¬ c.val.toNat ≤ 0x7f := Nat.not_le.mpr h
  rw [String.utf8EncodeChar] at hb
  simp only [if_neg hc] at hb
  split at hb
  · rcases List.mem_pair.mp hb with rfl | rfl <;> rw [UInt8.toNat_ofNat'] <;> omega
  · split at hb
    · simp only [List.mem_cons, List.not_mem_nil, or_false] at hb
      rcases hb with rfl | rfl | rfl <;> rw [UInt8.toNat_ofNat'] <;> omega
    · simp only [List.mem_cons, List.not_mem_nil, or_false] at hb
      rcases hb with rfl | rfl | rfl | rfl <;> rw [UInt8.toNat_ofNat'] <;> omega

theorem stringBody_plain {bytes : List UInt8} (h : ∀ b ∈ bytes, b ≠ byte '"' ∧ b ≠ byte '\\' ∧ 32 ≤ b) :
    StringBody bytes bytes := by
  induction bytes with
  | nil => exact .empty
  | cons b bs ih =>
    obtain ⟨⟨hquote, hslash, hcontrol⟩, hbs⟩ := List.forall_mem_cons.mp h
    exact .plain hquote hslash hcontrol (ih hbs)

theorem stringBody_short {b e : UInt8} (h : shortEscape? b = some e) :
    StringBody [e] [byte '\\', b] :=
  .escape (.short h) .empty

theorem hexByte?_hexDigit : ∀ k < 16, String.utf8EncodeChar (Quoted.hexDigit k) =
    [byte (Quoted.hexDigit k)] ∧ hexByte? (byte (Quoted.hexDigit k)) = some k := by
  decide

/-- A control character is written by the last two of four digits. -/
theorem stringBody_control {c : Char} (h : c.toNat < 32) :
    StringBody (String.utf8EncodeChar c) (charsBytes
      ['\\', 'u', '0', '0', Quoted.hexDigit (c.toNat / 16), Quoted.hexDigit (c.toNat % 16)]) := by
  obtain ⟨hhigh, hhigh'⟩ := hexByte?_hexDigit (c.toNat / 16) (by omega)
  obtain ⟨hlow, hlow'⟩ := hexByte?_hexDigit (c.toNat % 16) (by omega)
  have hzero : hexByte? (byte '0') = some 0 := by decide
  have quad := HexQuad.digits hzero hzero hhigh' hlow'
  rw [show ((0 * 16 + 0) * 16 + c.toNat / 16) * 16 + c.toNat % 16 = c.toNat by omega] at quad
  have body := StringBody.escape (.code quad (.inl (by omega))) .empty
  rw [codeBytes, Char.ofNat_toNat, List.append_nil, List.append_nil] at body
  simp only [charsBytes, List.flatMap_cons, List.flatMap_nil, hhigh, hlow]
  exact body

theorem stringBody_escape (c : Char) :
    StringBody (String.utf8EncodeChar c) (charsBytes (Quoted.escape c)) := by
  unfold Quoted.escape
  split
  · subst c
    exact stringBody_short (b := byte '"') (by decide)
  split
  · subst c
    exact stringBody_short (b := byte '\\') (by decide)
  split
  · subst c
    exact stringBody_short (b := byte 'b') (by decide)
  split
  · subst c
    exact stringBody_short (b := byte 'f') (by decide)
  split
  · subst c
    exact stringBody_short (b := byte 'n') (by decide)
  split
  · subst c
    exact stringBody_short (b := byte 'r') (by decide)
  split
  · subst c
    exact stringBody_short (b := byte 't') (by decide)
  split
  · rename_i h
    exact stringBody_control h
  · rename_i hquote hslash _ _ _ _ _ hcontrol
    rw [charsBytes, List.flatMap_singleton]
    refine stringBody_plain fun b hb => ?_
    by_cases hascii : c.toNat < 128
    · rw [utf8EncodeChar_ascii hascii] at hb
      cases List.mem_singleton.mp hb
      refine ⟨fun h => hquote ?_, fun h => hslash ?_, ?_⟩
      · rw [← ofNat_byte hascii, h]
        rfl
      · rw [← ofNat_byte hascii, h]
        rfl
      · rw [UInt8.le_iff_toNat_le, byte_toNat hascii]
        exact Nat.not_lt.mp hcontrol
    · have hb := le_of_mem_utf8EncodeChar (Nat.not_lt.mp hascii) hb
      refine ⟨?_, ?_, UInt8.le_iff_toNat_le.mpr (Nat.le_trans (by decide) hb)⟩
      · rintro rfl
        exact absurd hb (by decide)
      · rintro rfl
        exact absurd hb (by decide)

/-- A quoted text is a string of the grammar. -/
theorem quoted_chars (text : String) :
    ∃ quoted, Quoted text quoted ∧ charsBytes (Quoted.chars text) = byte '"' :: quoted := by
  have body (cs : List Char) : StringBody (charsBytes cs) (charsBytes (cs.flatMap Quoted.escape)) := by
    induction cs with
    | nil => exact .empty
    | cons c cs ih =>
      rw [List.flatMap_cons, charsBytes_append]
      exact (stringBody_escape c).append ih
  refine ⟨charsBytes (text.toList.flatMap Quoted.escape) ++ [byte '"'], ⟨_, body text.toList, rfl⟩, ?_⟩
  rw [Quoted.chars, List.cons_append, charsBytes_cons (by decide), charsBytes_append,
    charsBytes_cons (by decide)]
  rfl

theorem blanks_nil : Blanks [] := fun _ h => absurd h List.not_mem_nil

section Joined

variable {α : Type} {U : α → List UInt8 → Prop} (text : α → List Char) (gap last : List Char)
  {closer : Char} (hcloser : closer.toNat < 128) (hgap : Blanks (charsBytes gap))
  (hlast : Blanks (charsBytes last))

include hcloser hgap hlast

/-- Parts with a comma and a gap in front of each, up to the closer and a gap in front of it. -/
theorem furtherParts_joined {as : List α} (h : ∀ a ∈ as, U a (charsBytes (text a))) :
    FurtherParts U (byte closer) as
      (charsBytes (as.flatMap (fun a => ',' :: (gap ++ text a)) ++ (last ++ [closer]))) := by
  induction as with
  | nil =>
    rw [List.flatMap_nil, List.nil_append, charsBytes_append, charsBytes_cons hcloser]
    exact .close hlast
  | cons a as ih =>
    obtain ⟨ha, has⟩ := List.forall_mem_cons.mp h
    rw [List.flatMap_cons, List.append_assoc, List.cons_append, charsBytes_cons (by decide),
      List.append_assoc, charsBytes_append, charsBytes_append]
    exact .comma blanks_nil hgap ha (ih has)

/-- Parts with commas and gaps between them, up to the closer. -/
theorem parts_joined {a : α} {as : List α} (h : ∀ b ∈ a :: as, U b (charsBytes (text b))) :
    Parts U (byte closer) (a :: as)
      (charsBytes (gap ++ text a ++ as.flatMap (fun a => ',' :: (gap ++ text a)) ++
        (last ++ [closer]))) := by
  obtain ⟨ha, has⟩ := List.forall_mem_cons.mp h
  rw [List.append_assoc, List.append_assoc, charsBytes_append, charsBytes_append]
  exact .some hgap ha (furtherParts_joined text gap last hcloser hgap hlast has)

end Joined

namespace Document

theorem charsItems_cons (d : Document) (ds : List Document) :
    charsItems (d :: ds) = d.chars ++ ds.flatMap (fun d => ',' :: d.chars) := by
  induction ds generalizing d with
  | nil => simp [charsItems]
  | cons e ds ih => simp [charsItems, ih e]

/-- The characters of a key and its value. -/
def memberChars (m : String × Document) : List Char := Quoted.chars m.1 ++ ':' :: m.2.chars

theorem charsEntries_cons (e : String × Document) (es : List (String × Document)) :
    charsEntries (e :: es) = memberChars e ++ es.flatMap (fun e => ',' :: memberChars e) := by
  induction es generalizing e with
  | nil => simp [charsEntries, memberChars]
  | cons f es ih => simp [charsEntries, memberChars, ih f]

/-- A document whose numbers are literals is written by its characters. -/
theorem value_of_chars {d : Document} (h : d.NumbersLiteral) : Value d (charsBytes d.chars) := by
  induction h with
  | null => exact .nullWord
  | bool b =>
    cases b with
    | true => exact .trueWord
    | false => exact .falseWord
  | number hn =>
    rw [chars, charsBytes, flatMap_utf8EncodeChar_ascii (toNat_lt_of_isNumeral hn.isNumeral)]
    exact .number hn.isNumeral
  | string text =>
    obtain ⟨quoted, hquoted, htext⟩ := quoted_chars text
    rw [chars, htext]
    exact .string hquoted
  | @array items _ ih =>
    cases items with
    | nil => exact .array (.none blanks_nil)
    | cons d ds =>
      rw [chars, List.cons_append, charsItems_cons, charsBytes_cons (by decide)]
      exact .array (parts_joined chars [] [] (by decide) blanks_nil blanks_nil ih)
  | @object entries _ ih =>
    cases entries with
    | nil => exact .object (.none blanks_nil)
    | cons e es =>
      have member : ∀ m ∈ e :: es, Member Value m (charsBytes (memberChars m)) := by
        intro m hm
        obtain ⟨quoted, hquoted, htext⟩ := quoted_chars m.1
        rw [memberChars, charsBytes_append, htext, charsBytes_cons (by decide)]
        exact .colon hquoted blanks_nil blanks_nil (ih m hm)
      rw [chars, List.cons_append, charsEntries_cons, charsBytes_cons (by decide)]
      exact .object (parts_joined memberChars [] [] (by decide) blanks_nil blanks_nil member)

theorem writtenAs_render {d : Document} (h : d.NumbersLiteral) :
    d.WrittenAs (Utf8.encode d.render) := by
  refine ⟨[], charsBytes d.chars, [], blanks_nil, value_of_chars h, blanks_nil, ?_⟩
  rw [Utf8.encode, render, String.toList_ofList, List.append_nil]
  rfl

end Document

/-! ## Documents that are kept as they are -/

theorem Number.IsLiteral.kept_eq {n : Number} (h : n.IsLiteral) : n.kept = n := by
  obtain ⟨minus, whole, fraction, exponent, hminus, hwhole, hfraction, hexponent, hn⟩ := h
  have hkept : Number.keptChars exponent = exponent := by
    rcases hexponent with rfl | ⟨sign, row, hsign, -, rfl⟩
    · rfl
    · rw [Number.keptChars_mark (.inl rfl)]
      rcases hsign with rfl | rfl <;> rfl
  rw [Number.kept, hn, Number.keptChars_append (Number.not_mark_of_mem hminus hwhole hfraction),
    hkept, ← hn, String.ofList_toList]

namespace Document

/-- A document that can have been loaded: its numbers are literals, keys are distinct, and no object
starts with the key that marks a number. -/
inductive Faithful : Document → Prop
  | null : Faithful null
  | bool (b : Bool) : Faithful (bool b)
  | number {n : Number} : n.IsLiteral → Faithful (number n)
  | string (text : String) : Faithful (string text)
  | array {items : List Document} : (∀ d ∈ items, Faithful d) → Faithful (array items)
  | object {entries : List (String × Document)} : (∀ e ∈ entries.head?, e.1 ≠ numberKey) →
    (Entries.keys entries).Nodup → (∀ e ∈ entries, Faithful e.2) → Faithful (object entries)

namespace Faithful

variable {d : Document}

theorem numbersLiteral (h : d.Faithful) : d.NumbersLiteral := by
  induction h with
  | null => exact .null
  | bool b => exact .bool b
  | number hn => exact .number hn
  | string text => exact .string text
  | array _ ih => exact .array ih
  | object _ _ _ ih => exact .object ih

theorem readable (h : d.Faithful) : d.Readable := by
  induction h with
  | null => exact .null
  | bool b => exact .bool b
  | number _ => exact .number _
  | string text => exact .string text
  | array _ ih => exact .array ih
  | object hfirst _ _ ih => exact .object hfirst ih

theorem kept_eq (h : d.Faithful) : d.kept = d := by
  induction h with
  | null => rfl
  | bool b => rfl
  | number hn => rw [kept, hn.kept_eq]
  | string text => rfl
  | @array items _ ih =>
    rw [kept_array, List.map_congr_left ih, List.map_id']
  | @object entries hfirst hdistinct _ ih =>
    have hsame : entries.map (fun e => (e.1, e.2.kept)) = entries := by
      refine (List.map_congr_left fun e he => ?_).trans (List.map_id' entries)
      rw [ih e he]
    rw [kept_object hfirst, hsame, Entries.ofMembers_of_nodup hdistinct]

/-- **What is faithful is loaded from each of its texts**, if the loader lets it be nested so deep.
-/
theorem load_eq_ok {l : Loader} {bytes : List UInt8} (h : d.Faithful) (hw : d.WrittenAs bytes)
    (hopen : d.nesting ≤ maxOpenContainers) (hdepth : d.nesting ≤ l.maxDepth) :
    l.load bytes = .ok d :=
  Loader.load_eq_ok_iff.mpr ⟨hw.read_eq_ok_iff.mpr ⟨⟨h.readable, hopen⟩, h.kept_eq.symm⟩, hdepth⟩

end Faithful

end Document

/-! ## The round trip -/

/-- **A loaded document loads again from its rendering.**  The rendering of what was loaded is taken
by the same loader and gives the same document. -/
theorem Loader.load_render {l : Loader} {bytes : List UInt8} {d : Document}
    (h : l.load bytes = .ok d) : l.load (Utf8.encode d.render) = .ok d := by
  obtain ⟨hread, hdepth⟩ := load_eq_ok_iff.mp h
  obtain ⟨w, -, ⟨hreadable, hnesting⟩, rfl⟩ := Document.exists_writtenAs_of_read hread
  have hwritten := Document.writtenAs_render (Document.numbersLiteral_of_load h)
  have hwithin : w.kept.ReadableWithin maxOpenContainers :=
    ⟨hreadable.kept, hreadable.nesting_kept_le.trans hnesting⟩
  exact load_eq_ok_iff.mpr ⟨hwritten.read_eq_ok_iff.mpr ⟨hwithin, hreadable.kept_kept.symm⟩, hdepth⟩

theorem Loader.load_render_repeatedKey :
    ∃ d, (Loader.mk 64).load (Utf8.encode
        "\x7b \"k\\u0031\": [1E5, \"\\n\\u0007\"], \"z\": 0, \"z\": -0.50 \x7d") = .ok d ∧
      d.render = "\x7b\"k1\":[1e+5,\"\\n\\u0007\"],\"z\":-0.50\x7d" ∧
      (Loader.mk 64).load (Utf8.encode d.render) = .ok d := by
  obtain ⟨d, hload, hrender⟩ := exists_ok_of_map (e := (Loader.mk 64).load (Utf8.encode
      "\x7b \"k\\u0031\": [1E5, \"\\n\\u0007\"], \"z\": 0, \"z\": -0.50 \x7d"))
    (f := Document.render) (b := "\x7b\"k1\":[1e+5,\"\\n\\u0007\"],\"z\":-0.50\x7d")
    (by decide +kernel)
  exact ⟨d, hload, hrender, Loader.load_render hload⟩

end ManifestCheck
