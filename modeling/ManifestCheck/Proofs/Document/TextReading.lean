import ManifestCheck.Proofs.Document.ContainerReading

/-!
# Reading texts

The reader against the grammar.  A reader of values is right for a depth if it reads just the values
of the trees that are readable within that depth, returns what is kept of them and stops where they
end (`ReadsValues`).  The loops of lists and objects hand this on from the values inside to the
container, so it holds at every depth by induction (`readsValues_readValue`).

For whole texts this is `Document.WrittenAs.read_eq_ok_iff`: what is read of a text that a tree is
written as depends on the tree alone; and `Document.exists_writtenAs_of_read`: nothing else is read.
-/

namespace ManifestCheck

open Grammar

/-- A reading step succeeds on a condition, and then with this value and these bytes left. -/
def ReadsIf {ε α : Type} {n : Nat} {c : Cursor} (r : Except ε (Step n c α)) (p : Prop) (a : α)
    (more : List UInt8) : Prop :=
  ∀ b rest, Reads r b rest ↔ p ∧ b = a ∧ rest = more

theorem Reads.readsIf {ε α : Type} {n : Nat} {c : Cursor} {r : Except ε (Step n c α)} {p : Prop}
    {a : α} {more : List UInt8} (h : Reads r a more) (hp : p) : ReadsIf r p a more := by
  intro b rest
  constructor
  · intro h'
    obtain ⟨rfl, rfl⟩ := h.unique h'
    exact ⟨hp, rfl, rfl⟩
  · rintro ⟨-, rfl, rfl⟩
    exact h

/-- One part of a container and the parts behind it. -/
theorem reads_parts_iff {α ε : Type} {c : Cursor} {first : Except ε (Step 1 c Document)}
    {further : (c : Cursor) → Reading c (List α)} (f : Document → α) {p q : Prop} {a : Document}
    {as : List α} {tail more : List UInt8} (hfirst : ReadsIf first p a tail)
    (hfurther : ∀ {c : Cursor}, c.rest = tail → ReadsIf (further c) q as more) (bs : List α)
    (rest : List UInt8) :
    (∃ s bs', first = .ok s ∧ Reads (further s.cursor) bs' rest ∧ bs = f s.value :: bs') ↔
      (p ∧ q) ∧ bs = f a :: as ∧ rest = more := by
  constructor
  · rintro ⟨s, bs', hs, hbs, rfl⟩
    obtain ⟨hp, hvalue, hrest⟩ := (hfirst _ _).mp ⟨s, hs, rfl, rfl⟩
    obtain ⟨hq, rfl, rfl⟩ := (hfurther hrest _ _).mp hbs
    exact ⟨⟨hp, hq⟩, by rw [hvalue], rfl⟩
  · rintro ⟨⟨hp, hq⟩, rfl, rfl⟩
    obtain ⟨s, hs, rfl, hrest⟩ := (hfirst _ _).mpr ⟨hp, rfl, rfl⟩
    exact ⟨s, as, hs, (hfurther hrest _ _).mpr ⟨hq, rfl, rfl⟩, rfl⟩

/-! ## Where texts begin and end -/

namespace Grammar

theorem Blanks.endsNumber {blanks more : List UInt8} (h : Blanks blanks) (hmore : EndsNumber more) :
    EndsNumber (blanks ++ more) := by
  cases blanks with
  | nil => exact hmore
  | cons b bs =>
    rintro d hd
    cases hd
    rcases Cursor.isBlankByte_iff.mp (h b List.mem_cons_self) with rfl | rfl | rfl | rfl <;> decide

theorem endsNumber_cons {b : UInt8} (hb : continuesNumber b = false) (more : List UInt8) :
    EndsNumber (b :: more) := by
  rintro d hd
  cases hd
  exact hb

theorem FurtherParts.endsNumber {α : Type} {U : α → List UInt8 → Prop} {closer : UInt8}
    {as : List α} {bytes more : List UInt8} (h : FurtherParts U closer as bytes)
    (hcloser : continuesNumber closer = false) : EndsNumber (bytes ++ more) := by
  cases h with
  | close hblanks =>
    rw [List.append_assoc]
    exact hblanks.endsNumber (endsNumber_cons hcloser _)
  | comma hbefore =>
    rw [List.append_assoc]
    exact hbefore.endsNumber (endsNumber_cons (by decide) _)

/-- A value starts with a byte that is neither blank nor a closing bracket. -/
theorem Value.head {w : Document} {own : List UInt8} (h : Value w own) :
    ∃ b bs, own = b :: bs ∧ Cursor.isBlankByte b = false ∧ b ≠ byte ']' := by
  cases h with
  | number hn =>
    obtain ⟨b, bs, hcons, hb⟩ := startsNumber_of_isNumeral hn
    have hblank : Cursor.isBlankByte b = false := by
      rw [Bool.eq_false_iff]
      intro h
      rcases Cursor.isBlankByte_iff.mp h with rfl | rfl | rfl | rfl <;> cases hb
    exact ⟨b, bs, hcons, hblank, by rintro rfl; cases hb⟩
  | _ => exact ⟨_, _, rfl, by decide, by decide⟩

theorem Quoted.unique {text text' : String} {quoted quoted' more more' : List UInt8}
    (h : Quoted text quoted) (h' : Quoted text' quoted') (heq : quoted ++ more = quoted' ++ more') :
    text = text' ∧ more = more' :=
  (reads_string_iff (c := ⟨quoted ++ more, .start⟩).mpr ⟨quoted, h, rfl⟩).unique
    (reads_string_iff.mpr ⟨quoted', h', heq⟩)

/-- What starts with a quotation mark is a string. -/
theorem Value.string_of_quote {w : Document} {bytes : List UInt8}
    (h : Value w (byte '"' :: bytes)) : ∃ text, w = .string text ∧ Quoted text bytes := by
  generalize hown : byte '"' :: bytes = own at h
  cases h with
  | number hn =>
    obtain ⟨b, bs, hcons, hb⟩ := startsNumber_of_isNumeral hn
    rw [hcons] at hown
    cases hown
    cases hb
  | string hquoted =>
    cases hown
    exact ⟨_, rfl, hquoted⟩
  | _ => exact absurd (List.cons.inj hown).1 (by decide)

end Grammar

/-- In front of a value that was written, only the text of a number is read, and only in front of
the closing brace. -/
theorem reads_numberObject_written {c : Cursor} {w : Document} {members : List (String × Document)}
    {before behind own bytes more : List UInt8} (hbefore : Blanks before) (hbehind : Blanks behind)
    (hw : Value w own) (hmembers : FurtherParts (Member Value) (byte '\x7d') members bytes)
    (hc : c.rest = before ++ byte ':' :: (behind ++ (own ++ (bytes ++ more)))) (n : Number)
    (rest : List UInt8) :
    Reads (readNumberObject c) n rest ↔ ∃ text, Number.IsNumeral text.toList ∧ w = .string text ∧
      members = [] ∧ n = Number.kept ⟨text⟩ ∧ rest = more := by
  have hcolon := Cursor.skipBlanks_of_append hbefore hc (by decide)
  obtain ⟨b, bs, rfl, hblank, -⟩ := hw.head
  have hown : (behind ++ b :: (bs ++ (bytes ++ more))).dropWhile Cursor.isBlankByte =
      b :: (bs ++ (bytes ++ more)) := dropWhile_blanks hbehind hblank
  rw [reads_numberObject_iff]
  constructor
  · rintro ⟨text, quoted, rest', behind', hquoted, htext, rfl, hrest, hquote, hbrace⟩
    cases hcolon.symm.trans hrest
    obtain ⟨rfl, heq⟩ := List.cons.inj (hown.symm.trans hquote)
    obtain ⟨text', rfl, hquoted'⟩ := hw.string_of_quote
    obtain ⟨rfl, rfl⟩ := hquoted'.unique hquoted heq
    cases hmembers with
    | close hblanks =>
      rw [List.append_assoc] at hbrace
      cases (dropWhile_blanks hblanks (by decide)).symm.trans hbrace
      exact ⟨text', htext, rfl, rfl, rfl, rfl⟩
    | comma hbefore' =>
      rw [List.append_assoc] at hbrace
      cases (dropWhile_blanks hbefore' (by decide)).symm.trans hbrace
  · rintro ⟨text, htext, rfl, rfl, rfl, rfl⟩
    cases hw with
    | string hquoted =>
      cases hmembers with
      | close hblanks =>
        refine ⟨text, bs, _, _, hquoted, htext, rfl, hcolon, hown, ?_⟩
        rw [List.append_assoc]
        exact dropWhile_blanks hblanks (by decide)

/-! ## Values inside containers -/

/-- A reader succeeds just on the values of the trees with a property and returns what is kept of
them. -/
structure ReadsValues (P : Document → Prop) (element : (c : Cursor) → Reading c Document) :
    Prop where
  sound : ∀ {c : Cursor} {s : Step 1 c Document}, element c = .ok s → ∃ w own, Value w own ∧ P w ∧
    s.value = w.kept ∧ c.skipBlanks.rest = own ++ s.cursor.rest
  complete : ∀ {c : Cursor} {w : Document} {own more : List UInt8}, Value w own → EndsNumber more →
    c.skipBlanks.rest = own ++ more → ReadsIf (element c) (P w) w.kept more

section Containers

variable {P : Document → Prop} {element : (c : Cursor) → Reading c Document}
  (helement : ReadsValues P element)

include helement

theorem parts_of_readElements {first : Bool} {c : Cursor} {s : Step 1 c (List Document)}
    (h : readElements element first c = .ok s) :
    ∃ items bytes, (if first = true then Parts Value (byte ']') items bytes
        else FurtherParts Value (byte ']') items bytes) ∧
      (∀ w ∈ items, P w) ∧ s.value = items.map Document.kept ∧ c.rest = bytes ++ s.cursor.rest := by
  revert s
  fun_induction readElements element first c with
  | case2 first c tail hc =>
    intro s h
    cases h
    obtain ⟨blanks, hblanks, hrest⟩ := c.exists_blanks
    have hnext : c.skipBlanks.next.rest = tail := Cursor.next_of_cons hc
    refine ⟨[], blanks ++ [byte ']'], ?_, by simp, rfl, by simp [hrest, hc, hnext]⟩
    cases first with
    | true => exact .none hblanks
    | false => exact .close hblanks
  | case5 c b tail hc hb s hs t ht ih =>
    intro u h
    cases h
    obtain ⟨w, own, hw, hP, hvalue, hrest⟩ := helement.sound hs
    obtain ⟨items, bytes, hitems, hall, hvalues, hrest'⟩ := ih ht
    obtain ⟨blanks, hblanks, hc'⟩ := c.exists_blanks
    refine ⟨w :: items, blanks ++ (own ++ bytes), .some hblanks hw hitems,
      List.forall_mem_cons.mpr ⟨hP, hall⟩, by simp [hvalue, hvalues], ?_⟩
    rw [Cursor.skipBlanks_idem] at hrest
    simp only [hc', hrest, hrest', List.append_assoc]
  | case10 first c tail hf d tail' hd hb s hs t ht hc hcomma ih =>
    intro u h
    cases h
    obtain ⟨w, own, hw, hP, hvalue, hrest⟩ := helement.sound hs
    obtain ⟨items, bytes, hitems, hall, hvalues, hrest'⟩ := ih ht
    obtain ⟨before, hbefore, hc'⟩ := c.exists_blanks
    obtain ⟨behind, hbehind, hnext⟩ := c.skipBlanks.next.exists_blanks
    rw [Cursor.skipBlanks_idem] at hrest
    rw [Cursor.next_of_cons hc] at hnext
    refine ⟨w :: items, before ++ byte ',' :: (behind ++ (own ++ bytes)), ?_,
      List.forall_mem_cons.mpr ⟨hP, hall⟩, by simp [hvalue, hvalues], ?_⟩
    · rw [if_neg hf]
      exact .comma hbefore hbehind hw hitems
    · simp only [hc', hc, hnext, hrest, hrest', List.append_assoc, List.cons_append]
  | _ => intro s h; cases h

theorem readsIf_furtherElements {c : Cursor} {items : List Document} {bytes more : List UInt8}
    (hitems : FurtherParts Value (byte ']') items bytes) (hc : c.rest = bytes ++ more) :
    ReadsIf (readElements element false c) (∀ w ∈ items, P w) (items.map Document.kept) more := by
  induction hitems generalizing c with
  | close hblanks =>
    intro ds rest
    rw [List.append_assoc] at hc
    rw [reads_elements_closer (Cursor.skipBlanks_of_append hblanks hc (by decide))]
    simp
  | @comma w items before behind own bytes hbefore hbehind hw hitems ih =>
    intro ds rest
    obtain ⟨b, bs, rfl, hblank, hb⟩ := hw.head
    simp only [List.append_assoc, List.cons_append] at hc
    have hcomma := Cursor.skipBlanks_of_append hbefore hc (by decide)
    have hnext : c.skipBlanks.next.skipBlanks.rest = b :: (bs ++ (bytes ++ more)) :=
      Cursor.skipBlanks_of_append hbehind (Cursor.next_of_cons hcomma) hblank
    have hvalue := helement.complete (c := c.skipBlanks.next.skipBlanks) hw
      (hitems.endsNumber (by decide)) ((Cursor.skipBlanks_idem _).trans hnext)
    rw [reads_furtherElement hcomma hnext hb, List.forall_mem_cons]
    exact reads_parts_iff id hvalue ih ds rest

theorem readsIf_elements {c : Cursor} {items : List Document} {bytes more : List UInt8}
    (hitems : Parts Value (byte ']') items bytes) (hc : c.rest = bytes ++ more) :
    ReadsIf (readElements element true c) (∀ w ∈ items, P w) (items.map Document.kept) more := by
  intro ds rest
  cases hitems with
  | none hblanks =>
    rw [List.append_assoc] at hc
    rw [reads_elements_closer (Cursor.skipBlanks_of_append hblanks hc (by decide))]
    simp
  | @some w items blanks own bytes hblanks hw hitems =>
    obtain ⟨b, bs, rfl, hblank, hb⟩ := hw.head
    simp only [List.append_assoc, List.cons_append] at hc
    have hfirst := Cursor.skipBlanks_of_append hblanks hc hblank
    have hvalue := helement.complete (c := c.skipBlanks) hw (hitems.endsNumber (by decide))
      ((Cursor.skipBlanks_idem _).trans hfirst)
    rw [reads_firstElement hfirst hb, List.forall_mem_cons]
    exact reads_parts_iff id hvalue
      (fun hrest => readsIf_furtherElements helement hitems hrest) ds rest

theorem value_of_readMember {c : Cursor} {s : Step 1 c Document}
    (h : readMember element c = .ok s) :
    ∃ w before behind own, Blanks before ∧ Blanks behind ∧ Value w own ∧ P w ∧ s.value = w.kept ∧
      c.rest = before ++ byte ':' :: (behind ++ (own ++ s.cursor.rest)) := by
  obtain ⟨colon, hcolon, t, ht, hvalue, hrest⟩ := reads_member_iff.mp ⟨s, h, rfl, rfl⟩
  obtain ⟨w, own, hw, hP, hkept, hown⟩ := helement.sound ht
  obtain ⟨before, hbefore, hc⟩ := c.exists_blanks
  obtain ⟨behind, hbehind, hc'⟩ := colon.cursor.exists_blanks
  have hskip := reads_colon_iff.mp ⟨colon, hcolon, rfl, rfl⟩
  refine ⟨w, before, behind, own, hbefore, hbehind, hw, hP, hvalue ▸ hkept, ?_⟩
  rw [hc, hskip, hc', hown, hrest]

theorem readsIf_member {c : Cursor} {w : Document} {before behind own more : List UInt8}
    (hbefore : Blanks before) (hbehind : Blanks behind) (hw : Value w own)
    (hmore : EndsNumber more)
    (hc : c.rest = before ++ byte ':' :: (behind ++ (own ++ more))) :
    ReadsIf (readMember element c) (P w) w.kept more := by
  intro d rest
  obtain ⟨b, bs, rfl, hblank, -⟩ := hw.head
  have hskip := Cursor.skipBlanks_of_append hbefore hc (by decide)
  obtain ⟨colon, hcolon, -, hrest⟩ := reads_colon_iff.mpr hskip
  have hown : colon.cursor.skipBlanks.rest = b :: bs ++ more :=
    Cursor.skipBlanks_of_append hbehind hrest hblank
  rw [reads_member_iff, ← helement.complete hw hmore hown d rest, hcolon]
  simp

theorem parts_of_readMembers {c : Cursor} {s : Step 1 c (List (String × Document))}
    (h : readMembers element c = .ok s) :
    ∃ members bytes, FurtherParts (Member Value) (byte '\x7d') members bytes ∧
      (∀ m ∈ members, P m.2) ∧ s.value = members.map (fun m => (m.1, m.2.kept)) ∧
      c.rest = bytes ++ s.cursor.rest := by
  revert s
  fun_induction readMembers element c with
  | case2 c key hkey hnone =>
    intro s h
    cases h
    obtain ⟨blanks, hblanks, hc⟩ := c.exists_blanks
    have hclose := reads_noKey_iff.mp ⟨key, hkey, hnone, rfl⟩
    refine ⟨[], blanks ++ [byte '\x7d'], .close hblanks, by simp, rfl, ?_⟩
    rw [hc, hclose, List.append_assoc]
    rfl
  | case5 c key hkey name hname s hs t ht ih =>
    intro u h
    cases h
    obtain ⟨w, before', behind', own, hbefore', hbehind', hw, hP, hvalue, hrest⟩ :=
      value_of_readMember helement hs
    obtain ⟨members, bytes, hmembers, hall, hvalues, hrest'⟩ := ih ht
    obtain ⟨rest, quoted, hquoted, hcomma, hquote⟩ :=
      reads_furtherKey_iff.mp ⟨key, hkey, hname, rfl⟩
    obtain ⟨before, hbefore, hc⟩ := c.exists_blanks
    obtain ⟨behind, hbehind, hbehindRest⟩ := exists_blanks rest
    refine ⟨(name, w) :: members, _,
      .comma hbefore hbehind (.colon hquoted hbefore' hbehind' hw) hmembers,
      List.forall_mem_cons.mpr ⟨hP, hall⟩, by simp [hvalue, hvalues], ?_⟩
    rw [hc, hcomma, hbehindRest, hquote, hrest, hrest']
    simp only [List.append_assoc, List.cons_append]
  | _ => intro s h; cases h

theorem readsIf_furtherMembers {c : Cursor} {members : List (String × Document)}
    {bytes more : List UInt8} (hmembers : FurtherParts (Member Value) (byte '\x7d') members bytes)
    (hc : c.rest = bytes ++ more) :
    ReadsIf (readMembers element c) (∀ m ∈ members, P m.2)
      (members.map fun m => (m.1, m.2.kept)) more := by
  induction hmembers generalizing c with
  | close hblanks =>
    intro ds rest
    rw [List.append_assoc] at hc
    rw [reads_members_closer (Cursor.skipBlanks_of_append hblanks hc (by decide))]
    simp
  | @comma m members before behind own bytes hbefore hbehind hm hmembers ih =>
    intro ms rest
    cases hm with
    | @colon name w quoted before' behind' own hquoted hbefore' hbehind' hw =>
      simp only [List.append_assoc, List.cons_append] at hc
      have hcomma := Cursor.skipBlanks_of_append hbefore hc (by decide)
      obtain ⟨key, hkey, hname, hrest⟩ := reads_furtherKey_iff.mpr
        ⟨_, quoted, hquoted, hcomma, dropWhile_blanks hbehind (by decide)⟩
      have hvalue := readsIf_member helement hbefore' hbehind' hw
        (hmembers.endsNumber (by decide)) hrest
      rw [reads_furtherMember hkey hname, List.forall_mem_cons]
      exact reads_parts_iff (fun d => (name, d)) hvalue ih ms rest

end Containers

/-! ## Values -/

section Objects

variable {depth : Nat} {element : (c : Cursor) → Reading c Document}
  (helement : ReadsValues (Document.ReadableWithin depth) element)

include helement

theorem parts_of_readObject {c : Cursor} {s : Step 1 c Document}
    (h : readObject element c = .ok s) :
    ∃ members bytes, Parts (Member Value) (byte '\x7d') members bytes ∧
      (Document.object members).ReadableWithin (depth + 1) ∧
      s.value = (Document.object members).kept ∧ c.rest = bytes ++ s.cursor.rest := by
  obtain ⟨blanks, hblanks, hc⟩ := c.exists_blanks
  have hs : Reads (readObject element c) s.value s.cursor.rest := ⟨s, h, rfl, rfl⟩
  cases hkey : readKey true c with
  | error e =>
    unfold readObject at h
    simp only [hkey] at h
    cases h
  | ok key =>
    cases hname : key.value with
    | none =>
      have hclose := reads_noKey_iff.mp ⟨key, hkey, hname, rfl⟩
      obtain ⟨hvalue, hrest⟩ := (reads_object_closer hclose).mp hs
      refine ⟨[], blanks ++ [byte '\x7d'], .none hblanks, ?_, ?_, ?_⟩
      · exact (Document.readableWithin_object (by simp)).mpr (by simp)
      · rw [hvalue]
        rfl
      · rw [hc, hclose, hrest, List.append_assoc]
        rfl
    | some name =>
      obtain ⟨quoted, hquoted, hquote⟩ := reads_firstKey_iff.mp ⟨key, hkey, hname, rfl⟩
      by_cases hne : name = numberKey
      · subst hne
        obtain ⟨n, hn, hvalue⟩ := (reads_object_numberKey hkey hname).mp hs
        obtain ⟨text, quoted', rest, behind, hquoted', htext, rfl, hcolon, hquote', hbrace⟩ :=
          reads_numberObject_iff.mp hn
        obtain ⟨before', hbefore', hkeyRest⟩ := key.cursor.exists_blanks
        obtain ⟨behind', hbehind', hrest⟩ := exists_blanks rest
        obtain ⟨blanks', hblanks', hclose⟩ := exists_blanks behind
        refine ⟨[(numberKey, .string text)], _, .some hblanks
          (.colon hquoted hbefore' hbehind' (.string hquoted')) (.close hblanks'), ?_, ?_, ?_⟩
        · exact Document.readableWithin_numberKey.mpr ⟨text, htext, rfl, rfl⟩
        · rw [hvalue, Document.kept_numberObject]
        · rw [hc, hquote, hkeyRest, hcolon, hrest, hquote', hclose, hbrace]
          simp only [List.append_assoc, List.cons_append, List.nil_append]
      · obtain ⟨ms, ⟨t, rest, ht, hms, rfl⟩, hvalue⟩ := (reads_object_key hkey hname hne).mp hs
        obtain ⟨u, hu, rfl, hrest⟩ := hms
        obtain ⟨w, before', behind', own, hbefore', hbehind', hw, hP, hkept, hkeyRest⟩ :=
          value_of_readMember helement ht
        obtain ⟨members, bytes, hmembers, hall, hvalues, hown⟩ := parts_of_readMembers helement hu
        have hfirst : ∀ m ∈ ((name, w) :: members).head?, m.1 ≠ numberKey := by
          rintro m hm
          cases hm
          exact hne
        refine ⟨(name, w) :: members, _, .some hblanks
          (.colon hquoted hbefore' hbehind' hw) hmembers, ?_, ?_, ?_⟩
        · exact (Document.readableWithin_object hfirst).mpr
            (List.forall_mem_cons.mpr ⟨hP, hall⟩)
        · rw [hvalue, Document.kept_object hfirst, hkept, hvalues]
          rfl
        · rw [hc, hquote, hkeyRest, hown, hrest]
          simp only [List.append_assoc, List.cons_append]

theorem readsIf_object {c : Cursor} {members : List (String × Document)} {bytes more : List UInt8}
    (hmembers : Parts (Member Value) (byte '\x7d') members bytes) (hc : c.rest = bytes ++ more) :
    ReadsIf (readObject element c) ((Document.object members).ReadableWithin (depth + 1))
      (Document.object members).kept more := by
  intro d rest
  cases hmembers with
  | none hblanks =>
    rw [List.append_assoc] at hc
    have hreadable : (Document.object []).ReadableWithin (depth + 1) :=
      (Document.readableWithin_object (by simp)).mpr (by simp)
    rw [reads_object_closer (Cursor.skipBlanks_of_append hblanks hc (by decide)),
      and_iff_right hreadable]
    rfl
  | @some m members blanks own bytes hblanks hm hmembers =>
    cases hm with
    | @colon name w quoted before behind own hquoted hbefore hbehind hw =>
      simp only [List.append_assoc, List.cons_append] at hc
      have hskip := Cursor.skipBlanks_of_append hblanks hc (by decide)
      obtain ⟨key, hkey, hname, hrest⟩ := reads_firstKey_iff.mpr ⟨quoted, hquoted, hskip⟩
      by_cases hne : name = numberKey
      · subst hne
        have hnumber := reads_numberObject_written hbefore hbehind hw hmembers hrest
        rw [reads_object_numberKey hkey hname, Document.readableWithin_numberKey]
        constructor
        · rintro ⟨n, hn, rfl⟩
          obtain ⟨text, htext, rfl, rfl, rfl, rfl⟩ := (hnumber _ _).mp hn
          exact ⟨⟨text, htext, rfl, rfl⟩, (Document.kept_numberObject text).symm, rfl⟩
        · rintro ⟨⟨text, htext, rfl, rfl⟩, rfl, rfl⟩
          exact ⟨Number.kept ⟨text⟩, (hnumber _ _).mpr ⟨text, htext, rfl, rfl, rfl, rfl⟩,
            Document.kept_numberObject text⟩
      · have hvalue := readsIf_member helement hbefore hbehind hw
          (hmembers.endsNumber (by decide)) hrest
        have hparts (ms : List (String × Document)) :=
          reads_parts_iff (fun d => (name, d)) hvalue
            (fun hrest => readsIf_furtherMembers helement hmembers hrest) ms rest
        have hfirst : ∀ m ∈ ((name, w) :: members).head?, m.1 ≠ numberKey := by
          rintro m hm
          cases hm
          exact hne
        rw [reads_object_key hkey hname hne, Document.readableWithin_object hfirst,
          List.forall_mem_cons, Document.kept_object hfirst]
        constructor
        · rintro ⟨ms, hms, rfl⟩
          obtain ⟨hall, rfl, rfl⟩ := (hparts _).mp hms
          exact ⟨hall, rfl, rfl⟩
        · rintro ⟨hall, rfl, rfl⟩
          exact ⟨_, (hparts _).mpr ⟨hall, rfl, rfl⟩, rfl⟩

end Objects

/-- What the reader of a value asks of the reader of the values inside. -/
def ReadsInside (depth : Nat) (inner : Option ((c : Cursor) → Reading c Document)) : Prop :=
  match inner with
  | none => depth = 0
  | some element => ∃ n, depth = n + 1 ∧ ReadsValues (Document.ReadableWithin n) element

section Values

variable {depth : Nat} {inner : Option ((c : Cursor) → Reading c Document)}
  (hinner : ReadsInside depth inner)

include hinner

theorem value_of_readValueWith {c : Cursor} {s : Step 1 c Document}
    (h : readValueWith inner c = .ok s) :
    ∃ w own, Value w own ∧ w.ReadableWithin depth ∧ s.value = w.kept ∧
      c.skipBlanks.rest = own ++ s.cursor.rest := by
  cases hc : c.skipBlanks.rest with
  | nil =>
    unfold readValueWith at h
    split at h
    · cases h
    · rename_i hcons
      cases hc.symm.trans hcons
  | cons b bs =>
    have hnext : c.skipBlanks.next.rest = bs := Cursor.next_of_cons hc
    have hs := (reads_valueWith_iff hc).mp ⟨s, h, rfl, rfl⟩
    split at hs
    · obtain ⟨hword, hvalue⟩ := hs
      exact ⟨.null, _, .nullWord, ⟨.null, Nat.zero_le _⟩, hvalue, hc ▸ reads_word_iff.mp hword⟩
    split at hs
    · obtain ⟨hword, hvalue⟩ := hs
      exact ⟨.bool true, _, .trueWord, ⟨.bool true, Nat.zero_le _⟩, hvalue,
        hc ▸ reads_word_iff.mp hword⟩
    split at hs
    · obtain ⟨hword, hvalue⟩ := hs
      exact ⟨.bool false, _, .falseWord, ⟨.bool false, Nat.zero_le _⟩, hvalue,
        hc ▸ reads_word_iff.mp hword⟩
    split at hs
    · obtain ⟨n, ⟨t, ht, rfl, hrest⟩, hvalue⟩ := hs
      obtain ⟨m, hm, hkept, hown⟩ := exists_numeral_of_readNumber ht
      refine ⟨.number m, _, .number hm, ⟨.number m, Nat.zero_le _⟩, ?_, by rw [← hc, hown, hrest]⟩
      rw [hvalue, hkept, Document.kept]
    split at hs
    · rename_i hquote
      obtain ⟨text, htext, hvalue⟩ := hs
      obtain ⟨quoted, hquoted, hrest⟩ := reads_string_iff.mp htext
      rw [hnext] at hrest
      exact ⟨.string text, _, .string hquoted, ⟨.string text, Nat.zero_le _⟩, hvalue,
        by rw [hquote, hrest, List.cons_append]⟩
    split at hs
    · rename_i hbracket
      obtain ⟨element, rfl, items, ⟨t, ht, rfl, hrest⟩, hvalue⟩ := hs
      obtain ⟨n, rfl, helement⟩ := hinner
      obtain ⟨ws, bytes, hparts, hall, hkept, hbytes⟩ := parts_of_readElements helement ht
      rw [hnext] at hbytes
      refine ⟨.array ws, _, .array hparts, Document.readableWithin_array.mpr hall, ?_, ?_⟩
      · rw [hvalue, hkept, Document.kept_array]
      · rw [hbracket, hbytes, hrest, List.cons_append]
    split at hs
    · rename_i hbrace
      obtain ⟨element, rfl, t, ht, hvalue, hrest⟩ := hs
      obtain ⟨n, rfl, helement⟩ := hinner
      obtain ⟨members, bytes, hparts, hreadable, hkept, hbytes⟩ := parts_of_readObject helement ht
      rw [hnext] at hbytes
      exact ⟨.object members, _, .object hparts, hreadable, hvalue ▸ hkept,
        by rw [hbrace, hbytes, hrest, List.cons_append]⟩
    · exact absurd hs not_false

theorem readsIf_valueWith {c : Cursor} {w : Document} {own more : List UInt8} (hw : Value w own)
    (hmore : EndsNumber more) (hc : c.skipBlanks.rest = own ++ more) :
    ReadsIf (readValueWith inner c) (w.ReadableWithin depth) w.kept more := by
  cases hw with
  | nullWord =>
    refine Reads.readsIf ?_ ⟨.null, Nat.zero_le _⟩
    rw [reads_valueWith_iff (b := byte 'n') hc, if_pos rfl]
    exact ⟨reads_word_iff.mpr hc, rfl⟩
  | trueWord =>
    refine Reads.readsIf ?_ ⟨.bool true, Nat.zero_le _⟩
    rw [reads_valueWith_iff (b := byte 't') hc, if_neg (by decide), if_pos rfl]
    exact ⟨reads_word_iff.mpr hc, rfl⟩
  | falseWord =>
    refine Reads.readsIf ?_ ⟨.bool false, Nat.zero_le _⟩
    rw [reads_valueWith_iff (b := byte 'f') hc, if_neg (by decide), if_neg (by decide), if_pos rfl]
    exact ⟨reads_word_iff.mpr hc, rfl⟩
  | @number n hn =>
    refine Reads.readsIf ?_ ⟨.number n, Nat.zero_le _⟩
    obtain ⟨b, bs, hcons, hb⟩ := startsNumber_of_isNumeral hn
    have hhead : c.skipBlanks.rest = b :: (bs ++ more) := by rw [hc, hcons, List.cons_append]
    have hletter {d : UInt8} (hd : startsNumber d = false) : b ≠ d := by
      rintro rfl
      cases hb.symm.trans hd
    rw [reads_valueWith_iff hhead, if_neg (hletter (by decide)), if_neg (hletter (by decide)),
      if_neg (hletter (by decide)), if_pos hb]
    exact ⟨n.kept, reads_number hn hmore hc, by rw [Document.kept]⟩
  | @string text quoted hquoted =>
    refine Reads.readsIf ?_ ⟨.string text, Nat.zero_le _⟩
    rw [reads_valueWith_iff hc, if_neg (by decide), if_neg (by decide), if_neg (by decide),
      if_neg (by decide), if_pos rfl]
    exact ⟨text, reads_string_iff.mpr ⟨quoted, hquoted, Cursor.next_of_cons hc⟩, rfl⟩
  | @array items bytes hitems =>
    intro d rest
    have hnext : c.skipBlanks.next.rest = bytes ++ more := Cursor.next_of_cons hc
    rw [reads_valueWith_iff hc, if_neg (by decide), if_neg (by decide), if_neg (by decide),
      if_neg (by decide), if_neg (by decide), if_pos rfl]
    cases inner with
    | none =>
      cases hinner
      simp [Document.ReadableWithin, Document.nesting]
    | some element =>
      obtain ⟨n, rfl, helement⟩ := hinner
      have hlist := readsIf_elements helement hitems hnext
      simp only [Option.mem_some, exists_eq_left']
      rw [Document.readableWithin_array, Document.kept_array]
      constructor
      · rintro ⟨ds, hds, rfl⟩
        obtain ⟨hall, rfl, rfl⟩ := (hlist _ _).mp hds
        exact ⟨hall, rfl, rfl⟩
      · rintro ⟨hall, rfl, rfl⟩
        exact ⟨_, (hlist _ _).mpr ⟨hall, rfl, rfl⟩, rfl⟩
  | @object members bytes hmembers =>
    intro d rest
    have hnext : c.skipBlanks.next.rest = bytes ++ more := Cursor.next_of_cons hc
    rw [reads_valueWith_iff hc, if_neg (by decide), if_neg (by decide), if_neg (by decide),
      if_neg (by decide), if_neg (by decide), if_neg (by decide), if_pos rfl]
    cases inner with
    | none =>
      cases hinner
      simp [Document.ReadableWithin, Document.nesting]
    | some element =>
      obtain ⟨n, rfl, helement⟩ := hinner
      rw [← readsIf_object helement hmembers hnext d rest]
      simp

end Values

/-- The reader of values, at every depth. -/
theorem readsValues_readValue (depth : Nat) :
    ReadsValues (Document.ReadableWithin depth) (readValue depth) := by
  induction depth with
  | zero =>
    have hinner : ReadsInside 0 none := rfl
    exact ⟨value_of_readValueWith hinner, readsIf_valueWith hinner⟩
  | succ depth ih =>
    have hinner : ReadsInside (depth + 1) (some (readValue depth)) := ⟨depth, rfl, ih⟩
    exact ⟨value_of_readValueWith hinner, readsIf_valueWith hinner⟩

/-! ## Documents -/

namespace Document

theorem read_eq_ok_iff_reads {bytes : List UInt8} {d : Document} :
    read bytes = .ok d ↔ ∃ behind, Blanks behind ∧
      Reads (readValue maxOpenContainers (Cursor.start bytes)) d behind := by
  unfold read
  cases hs : readValue maxOpenContainers (Cursor.start bytes) with
  | error e => simp
  | ok s =>
    have hblanks : s.cursor.skipBlanks.rest = [] ↔ Blanks s.cursor.rest := by
      rw [Cursor.skipBlanks_rest, List.dropWhile_eq_nil_iff]
      rfl
    simp only
    split
    · rename_i hnil
      simp [hblanks.mp hnil]
    · rename_i hcons
      have hno : ¬ Blanks s.cursor.rest := fun h => by
        cases (hblanks.mpr h).symm.trans hcons
      simp [hno]

/-- **Reading a text that a tree is written as.**  It is read just if the tree is readable and not
nested too deep, and what is read is what is kept of the tree. -/
theorem WrittenAs.read_eq_ok_iff {w d : Document} {bytes : List UInt8} (h : w.WrittenAs bytes) :
    read bytes = .ok d ↔ w.ReadableWithin maxOpenContainers ∧ d = w.kept := by
  obtain ⟨before, own, behind, hbefore, hw, hbehind, rfl⟩ := h
  obtain ⟨b, bs, rfl, hblank, -⟩ := hw.head
  have hskip : (Cursor.start (before ++ (b :: bs ++ behind))).skipBlanks.rest = b :: bs ++ behind :=
    Cursor.skipBlanks_of_append hbefore rfl hblank
  have hends : EndsNumber behind := by
    rw [← List.append_nil behind]
    exact hbehind.endsNumber (by simp [EndsNumber])
  have hvalue := (readsValues_readValue maxOpenContainers).complete hw hends hskip
  rw [read_eq_ok_iff_reads]
  constructor
  · rintro ⟨rest, -, hrest⟩
    obtain ⟨hreadable, hkept, -⟩ := (hvalue _ _).mp hrest
    exact ⟨hreadable, hkept⟩
  · rintro ⟨hreadable, hkept⟩
    exact ⟨behind, hbehind, (hvalue _ _).mpr ⟨hreadable, hkept, rfl⟩⟩

/-- **Whatever is read was written.**  A text that is read is one that some tree is written as. -/
theorem exists_writtenAs_of_read {bytes : List UInt8} {d : Document} (h : read bytes = .ok d) :
    ∃ w : Document, w.WrittenAs bytes ∧ w.ReadableWithin maxOpenContainers ∧ d = w.kept := by
  obtain ⟨behind, hbehind, s, hs, rfl, rfl⟩ := read_eq_ok_iff_reads.mp h
  obtain ⟨w, own, hw, hreadable, hkept, hown⟩ := (readsValues_readValue _).sound hs
  obtain ⟨before, hbefore, hbytes⟩ := (Cursor.start bytes).exists_blanks
  refine ⟨w, ⟨before, own, _, hbefore, hw, hbehind, ?_⟩, hreadable, hkept⟩
  rw [← hown, ← hbytes]
  rfl

end Document

end ManifestCheck
