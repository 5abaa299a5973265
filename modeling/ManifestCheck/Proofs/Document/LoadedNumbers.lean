import ManifestCheck.Proofs.Document.ComposedTexts
import ManifestCheck.Proofs.Number.KeptNumerals
import ManifestCheck.Proofs.Schema.LiteralNumbers

/-!
# Numbers of a text in the loaded document

A numeral that no later repetition of a key has replaced is loaded at its place, with its exponent in
one form.  It is an integer just if it is written without fraction and exponent, and it stands for
the number that is written; so a schema that asks for integers there refuses it just if there is a
fraction or an exponent, however large the number is (`Loader.load_number`).

The literal is the one of the text if the exponent has its form already, and else is not
(`Loader.load_respelled`).  What is loaded is what is shown: the rendering of a value holds the
loaded literal at its place, and so does every message that shows the number
(`Loader.load_literal`).
-/

namespace ManifestCheck

open Grammar

/-! ## Places in a text -/

namespace Grammar

variable {w inner v : Document} {own : List UInt8} {step : Segment} {p : Path}

/-- A value one step inside is written by a part of the text. -/
theorem Value.child (h : Value w own) (hi : w.writtenChild? step = some inner) :
    ∃ part, Value inner part ∧ part <:+: own := by
  cases h with
  | array hparts =>
    cases step with
    | key name => cases hi
    | index i =>
      obtain ⟨part, hpart, hwithin⟩ := hparts.exists_of_mem (List.mem_of_getElem? hi)
      exact ⟨part, hpart, hwithin.trans (List.suffix_cons _ _).isInfix⟩
  | object hparts =>
    cases step with
    | key name =>
      obtain ⟨member, hmember, hwithin⟩ :=
        hparts.exists_of_mem (Document.mem_of_writtenChild? hi)
      cases hmember with
      | @colon key d quoted before behind part _ _ _ hpart =>
        refine ⟨part, hpart, .trans ?_ (hwithin.trans (List.suffix_cons _ _).isInfix)⟩
        exact ⟨byte '"' :: (quoted ++ (before ++ byte ':' :: behind)), [], by simp⟩
    | index i => cases hi
  | _ => cases step <;> cases hi

/-- What a path leads to in a text is written by a part of the text. -/
theorem Value.writtenAt (h : Value w own) (hv : w.writtenAt? p = some v) :
    ∃ part, Value v part ∧ part <:+: own := by
  induction p generalizing w own with
  | nil =>
    cases hv
    exact ⟨own, h, List.infix_refl own⟩
  | cons step p ih =>
    obtain ⟨inner, hi, hv⟩ := Option.bind_eq_some_iff.mp hv
    obtain ⟨middle, hmiddle, hwithin⟩ := h.child hi
    obtain ⟨part, hpart, hpartWithin⟩ := ih hmiddle hv
    exact ⟨part, hpart, hpartWithin.trans hwithin⟩

end Grammar

namespace Document

/-- The numbers of a text are numerals that stand in the text. -/
theorem WrittenAs.numeral_at {w : Document} {bytes : List UInt8} {p : Path} {n : Number}
    (hw : w.WrittenAs bytes) (hp : w.writtenAt? p = some (.number n)) :
    Number.IsNumeral n.literal.toList ∧ Utf8.encode n.literal <:+: bytes := by
  obtain ⟨before, own, behind, -, hown, -, rfl⟩ := hw
  obtain ⟨part, hpart, hwithin⟩ := hown.writtenAt hp
  cases hpart with
  | number hn =>
    rw [encode_of_isNumeral hn]
    exact ⟨hn, hwithin.trans ⟨before, behind, by simp⟩⟩

theorem writtenAs_number {n : Number} (h : Number.IsNumeral n.literal.toList) :
    (number n).WrittenAs (Utf8.encode n.literal) := by
  refine ⟨[], _, [], blanks_nil, .number h, blanks_nil, ?_⟩
  rw [encode_of_isNumeral h, List.nil_append, List.append_nil]

end Document

/-- A number that is written is loaded at its place, as it is kept. -/
theorem Loader.load_number_at? {l : Loader} {bytes : List UInt8} {d w : Document} {p : Path}
    {n : Number} (h : l.load bytes = .ok d) (hw : w.WrittenAs bytes)
    (hp : w.writtenAt? p = some (.number n)) : d.at? p = some (.number n.kept) := by
  obtain ⟨⟨hreadable, -⟩, rfl⟩ := hw.read_eq_ok_iff.mp (load_eq_ok_iff.mp h).1
  exact hreadable.kept_at? hp (fun text => nofun)

/-! ## The kind and the value -/

theorem Checks.faulty_typeMismatch_iff {c : Checks} {d : Document} :
    c.Faulty d .typeMismatch ↔ ¬c.Admits d.kind := by
  constructor
  · intro h
    rcases h with ⟨hrefused, -⟩ | ⟨-, hbreaks⟩
    · exact hrefused
    · cases hbreaks
  · intro h
    exact .inl ⟨h, rfl⟩

/-- Where nothing above a value is refused, the faults are those that the value has under the schema
that governs it. -/
theorem Schema.faultAt_iff_of_admittedAbove {s t : Schema} {d node : Document} {p : Path}
    {k : FaultKind} (hp : d.at? p = some node) (ht : s.governing? p = some t)
    (h : s.AdmittedAbove d p) : s.FaultAt d p k ↔ t.checks.Faulty node k := by
  induction p generalizing s d with
  | nil =>
    cases hp
    cases ht
    exact faultAt_nil
  | cons step p ih =>
    obtain ⟨inner, hi, hp⟩ := Option.bind_eq_some_iff.mp hp
    obtain ⟨u, hu, ht⟩ := Option.bind_eq_some_iff.mp ht
    obtain ⟨hroot, hbelow⟩ := (above_cons hi).mp h
    have hrest := ih hp ht (hbelow u hu)
    rw [faultAt_cons]
    constructor
    · intro hfault
      obtain ⟨-, inner', u', hi', hu', hfault⟩ := hfault
      cases hi.symm.trans hi'
      cases hu.symm.trans hu'
      exact hrest.mp hfault
    · intro hfaulty
      exact ⟨hroot, inner, u, hi, hu, hrest.mpr hfaulty⟩

/-- Of numbers a set with integers and without numbers accepts the plain ones. -/
theorem TypeSet.accepts_number_iff {types : TypeSet} {m : Number} (hinteger : .integer ∈ types.kinds)
    (hnumber : .number ∉ types.kinds) :
    types.accepts (Document.number m).kind = true ↔ m.isInteger = true := by
  rw [Document.kind, accepts]
  by_cases hm : m.isInteger = true
  · simp [hm, hinteger]
  · simp [hm, hnumber]

/-- **Numbers keep their kind and their value.**  A text that loads writes a tree, and for every tree
that it writes: a number that no later repetition of a key has replaced stands in the text as it is
written, and is loaded at its place as a number that is an integer just if it is written without
point and exponent, and that stands for the one rational number that is written.  So a set of kinds
with integers and without numbers accepts it just if it is written in that way, and a compiled schema
with this set for its place reports a wrong type there just if it is not, unless a value above is of
a refused kind. -/
theorem Loader.load_number {l : Loader} {bytes : List UInt8} {d : Document}
    (h : l.load bytes = .ok d) :
    (∃ w : Document, w.WrittenAs bytes) ∧
      ∀ w : Document, w.WrittenAs bytes → ∀ p n, w.writtenAt? p = some (.number n) →
        Utf8.encode n.literal <:+: bytes ∧
        ∃ m, d.at? p = some (.number m) ∧ (m.kind = .integer ↔ n.IsPlain) ∧
          (∃! q, n.Denotes q) ∧ (∀ q, m.Denotes q ↔ n.Denotes q) ∧
          ∀ types : TypeSet, .integer ∈ types.kinds → .number ∉ types.kinds →
            (types.accepts (Document.number m).kind = true ↔ n.IsPlain) ∧
            ∀ (lib : Library) name s t, lib.KeysDistinct → lib.compile name = .ok s →
              s.governing? p = some t → t.checks.types = some types → s.AdmittedAbove d p →
              ((∃ v ∈ s.violations d, v.path = p ∧ v.kind = .typeMismatch) ↔ ¬n.IsPlain) := by
  obtain ⟨w, hw, -⟩ := Document.exists_writtenAs_of_read (load_eq_ok_iff.mp h).1
  refine ⟨⟨w, hw⟩, fun w hw p n hp => ?_⟩
  obtain ⟨hnumeral, hwithin⟩ := hw.numeral_at hp
  have hat := load_number_at? h hw hp
  have hplain : n.kept.isInteger = true ↔ n.IsPlain := by
    rw [Number.isInteger_kept, Number.isInteger_iff_isPlain]
  obtain ⟨q, hq⟩ := Number.isNumeral_iff.mp hnumeral
  refine ⟨hwithin, n.kept, hat, ?_, ⟨q, hq, fun r hr => hr.unique hq⟩,
    fun r => Number.denotes_kept_iff hnumeral, fun types hinteger hnumber => ?_⟩
  · rw [← hplain, Number.isInteger, decide_eq_true_iff]
  · have haccepts := (TypeSet.accepts_number_iff (m := n.kept) hinteger hnumber).trans hplain
    refine ⟨haccepts, fun lib name s t hlib hs ht htypes habove => ?_⟩
    have hreported := Schema.reported_iff_faultAt (Library.namesDistinct_of_compile hlib hs)
      (Document.keysDistinct_of_load h) p .typeMismatch
    have hadmits : t.checks.Admits (Document.number n.kept).kind ↔ n.IsPlain := by
      rw [← haccepts, Checks.Admits, htypes]
      simp
    rw [Schema.violations_report, ← hadmits, ← Checks.faulty_typeMismatch_iff,
      ← Schema.faultAt_iff_of_admittedAbove hat ht habove]
    exact hreported

theorem Number.isNumeral_bigExponent : IsNumeral (Number.mk "1E5").literal.toList :=
  ⟨[], ['1'], [], ['E', '5'], .inl rfl, by decide, .inl rfl,
    .inr ⟨'E', [], ['5'], .inr rfl, .inl rfl, by decide, rfl⟩, rfl⟩

theorem Number.isNumeral_negative : IsNumeral (Number.mk "-7").literal.toList :=
  ⟨['-'], ['7'], [], [], .inr rfl, by decide, .inl rfl, .inl rfl, rfl⟩

/-- Two numbers in a list, of which the first has an exponent that changes its spelling. -/
def mixedNumbers : Document := .array [.number ⟨"1E5"⟩, .number ⟨"-7"⟩]

theorem Document.writtenAs_mixedNumbers : mixedNumbers.WrittenAs (Utf8.encode "[1E5,-7]") := by
  have htext : arrayText [Utf8.encode "1E5", Utf8.encode "-7"] = Utf8.encode "[1E5,-7]" := by
    decide +kernel
  rw [← htext]
  exact writtenAs_array (.cons (writtenAs_number Number.isNumeral_bigExponent)
    (.cons (writtenAs_number Number.isNumeral_negative) .nil))

/-- A schema for lists of integers. -/
def wholeNumbers : Library := ⟨[
  ("whole", .object [("items", .object [("type", .string "integer")])])]⟩

/-- A number with an exponent is no integer, whatever its value. -/
theorem Loader.load_number_mixed : ∃ s d, wholeNumbers.compile "whole" = .ok s ∧
    ({} : Loader).load (Utf8.encode "[1E5,-7]") = .ok d ∧
      (∃ m, d.at? [.index 0] = some (.number m) ∧ m.kind ≠ .integer) ∧
      (∃ m, d.at? [.index 1] = some (.number m) ∧ m.kind = .integer) ∧
      (∃ v ∈ s.violations d, v.path = [.index 0] ∧ v.kind = .typeMismatch) ∧
      ¬∃ v ∈ s.violations d, v.path = [.index 1] ∧ v.kind = .typeMismatch := by
  have hlib : wholeNumbers.KeysDistinct := by
    unfold Library.KeysDistinct
    decide +kernel
  obtain ⟨s, hs, hchecks⟩ := exists_ok_of_map (e := wholeNumbers.compile "whole")
    (f := fun s => (s.checks.types, s.items.map fun t => t.checks.types))
    (b := (none, some (some ⟨[.integer]⟩))) (by decide +kernel)
  obtain ⟨hroot, hitems⟩ := Prod.mk.inj hchecks
  obtain ⟨t, ht, htypes⟩ := Option.map_eq_some_iff.mp hitems
  obtain ⟨d, hd, -⟩ := exists_ok_of_map (e := ({} : Loader).load (Utf8.encode "[1E5,-7]"))
    (f := Document.kind) (b := .array) (by decide +kernel)
  have hgoverned (i : Nat) : s.governing? [.index i] = some t := by
    rw [Schema.governing?, Schema.child?, ht]
    rfl
  have hadmitted {i : Nat} {m : Document} (hi : d.at? [.index i] = some m) :
      s.AdmittedAbove d [.index i] := by
    rw [Document.at?_singleton] at hi
    refine (Schema.above_cons hi).mpr ⟨fun types h => ?_, fun u _ => Schema.above_nil _ _ _⟩
    cases hroot.symm.trans h
  obtain ⟨-, hnumbers⟩ := Loader.load_number hd
  obtain ⟨-, m, hm, hkind, -, -, hreport⟩ :=
    hnumbers _ Document.writtenAs_mixedNumbers [.index 0] ⟨"1E5"⟩ rfl
  obtain ⟨-, m', hm', hkind', -, -, hreport'⟩ :=
    hnumbers _ Document.writtenAs_mixedNumbers [.index 1] ⟨"-7"⟩ rfl
  have hsplit := (hreport ⟨[.integer]⟩ (by decide) (by decide)).2 wholeNumbers "whole" s t hlib hs
    (hgoverned 0) htypes (hadmitted hm)
  have hsplit' := (hreport' ⟨[.integer]⟩ (by decide) (by decide)).2 wholeNumbers "whole" s t hlib
    hs (hgoverned 1) htypes (hadmitted hm')
  refine ⟨s, d, hs, hd, ⟨m, hm, fun h => ?_⟩, ⟨m', hm', hkind'.mpr (by decide)⟩,
    hsplit.mpr (by decide), fun hv => hsplit'.mp hv (by decide)⟩
  exact absurd (hkind.mp h) (by decide)

/-! ## The spelling -/

namespace Document

/-- In a document without repeated keys the last entry under a key is the only one. -/
theorem writtenChild?_eq_child? {d : Document} (hd : d.keysDistinct = true) (step : Segment) :
    d.writtenChild? step = d.child? step := by
  cases d with
  | object entries =>
    cases step with
    | key name =>
      have hn := (keysDistinct_object.mp hd).1
      rw [writtenChild?, child?, ← Entries.lookup_ofMembers, Entries.ofMembers_of_nodup hn]
    | index i => rfl
  | _ => cases step <;> rfl

theorem writtenAt?_eq_at? {d : Document} (hd : d.keysDistinct = true) (p : Path) :
    d.writtenAt? p = d.at? p := by
  induction p generalizing d with
  | nil => rfl
  | cons step p ih =>
    rw [writtenAt?, at?, writtenChild?_eq_child? hd]
    cases hi : d.child? step with
    | none => rfl
    | some inner => exact ih (keysDistinct_child? hd hi)

theorem render_number (n : Number) : (number n).render = n.literal := by
  rw [render, chars, String.ofList_toList]

end Document

/-- A value that is not listed is shown in front. -/
theorem Fault.message_unlisted (value : Document) (options : List Document) :
    ∃ rest, (unlisted value options).message = value.render ++ rest := by
  have hassoc (a b c e : String) : a ++ b ++ c ++ e = a ++ (b ++ (c ++ e)) := by
    rw [String.append_assoc, String.append_assoc]
  exact ⟨_, hassoc value.render _ _ _⟩

namespace Checks

variable {c : Checks} {f : Fault} {d : Document}

/-- Only the list of permitted values makes a fault of its class. -/
theorem kind_ne_of_mem_selfReport (h : f ∈ c.selfReport d) : f.kind ≠ .enumMismatch := by
  cases d with
  | null | bool b => cases h
  | object entries =>
    obtain ⟨name, -, rfl⟩ := List.mem_map.mp h
    exact nofun
  | array elements =>
    rcases mem_sizeReport.mp h with ⟨n, -, -, rfl⟩ | ⟨n, -, -, rfl⟩ <;> exact nofun
  | string value =>
    rcases List.mem_append.mp h with hsize | hpattern
    · rcases mem_sizeReport.mp hsize with ⟨n, -, -, rfl⟩ | ⟨n, -, -, rfl⟩ <;> exact nofun
    · obtain ⟨p, -, -, rfl⟩ := mem_filter_map.mp hpattern
      exact nofun
  | number value =>
    rcases List.mem_append.mp h with hmin | hmax
    · obtain ⟨bound, -, -, rfl⟩ := mem_filter_map.mp hmin
      exact nofun
    · obtain ⟨bound, -, -, rfl⟩ := mem_filter_map.mp hmax
      exact nofun

theorem message_of_unlisted (h : f ∈ c.allFaults d) (hk : f.kind = .enumMismatch) :
    ∃ rest, f.message = d.render ++ rest := by
  rcases List.mem_append.mp h with hself | hlist
  · exact absurd hk (kind_ne_of_mem_selfReport hself)
  · obtain ⟨options, -, -, rfl⟩ := mem_filter_map.mp hlist
    exact Fault.message_unlisted d options

/-- Each fault of a number shows it in front. -/
theorem message_of_number {m : Number} (h : f ∈ c.allFaults (.number m)) :
    ∃ rest, f.message = m.literal ++ rest := by
  rcases List.mem_append.mp h with hself | hlist
  · rcases List.mem_append.mp hself with hmin | hmax
    · obtain ⟨bound, -, -, rfl⟩ := mem_filter_map.mp hmin
      exact ⟨" is less than the minimum of " ++ bound.literal, String.append_assoc⟩
    · obtain ⟨bound, -, -, rfl⟩ := mem_filter_map.mp hmax
      exact ⟨" is greater than the maximum of " ++ bound.literal, String.append_assoc⟩
  · obtain ⟨options, -, -, rfl⟩ := mem_filter_map.mp hlist
    rw [← Document.render_number]
    exact Fault.message_unlisted _ options

end Checks

/-- **What is loaded of a numeral, and shown.**  A text that loads writes a tree, and for every tree
that it writes: a number that no later repetition of a key has replaced is loaded at its place with
the literal of the text, in which the exponent has the mark `e` and a sign.  So its literal is the
one of the text just if that is so in the text.  The rendering of every value that holds the number
writes it at its place with just this literal.  A violation of the number that is not about its kind
shows this literal in front, and where a value is not listed its rendering stands in front. -/
theorem Loader.load_literal {l : Loader} {bytes : List UInt8} {d : Document}
    (h : l.load bytes = .ok d) :
    (∃ w : Document, w.WrittenAs bytes) ∧
      ∀ w : Document, w.WrittenAs bytes → ∀ p n, w.writtenAt? p = some (.number n) →
        Utf8.encode n.literal <:+: bytes ∧
        ∃ m, d.at? p = some (.number m) ∧
          Number.Respelled n.literal.toList m.literal.toList ∧
          (m.literal = n.literal ↔ n.IsLiteral) ∧ (Document.number m).render = m.literal ∧
          (∀ q r node, p = q ++ r → d.at? q = some node →
            node.WrittenAs (Utf8.encode node.render) ∧ node.writtenAt? r = some (.number m)) ∧
          ∀ (lib : Library) name s, lib.KeysDistinct → lib.compile name = .ok s →
            ∀ v ∈ s.violations d,
              (v.path = p → v.kind ≠ .typeMismatch → ∃ rest, v.message = m.literal ++ rest) ∧
              (v.kind = .enumMismatch → ∀ node, d.at? v.path = some node →
                ∃ rest, v.message = node.render ++ rest) := by
  obtain ⟨w, hw, -⟩ := Document.exists_writtenAs_of_read (load_eq_ok_iff.mp h).1
  refine ⟨⟨w, hw⟩, fun w hw p n hp => ?_⟩
  obtain ⟨hnumeral, hwithin⟩ := hw.numeral_at hp
  have hat := load_number_at? h hw hp
  have hdistinct := Document.keysDistinct_of_load h
  have hliterals := Document.numbersLiteral_of_load h
  refine ⟨hwithin, n.kept, hat, ?_, ?_, Document.render_number _, fun q r node hqr hq => ?_,
    fun lib name s hlib hs v hv => ?_⟩
  · rw [Number.kept, String.toList_ofList]
    exact Number.respelled_keptChars hnumeral
  · rw [← Number.kept_eq_self_iff hnumeral]
    exact ⟨congrArg Number.mk, congrArg Number.literal⟩
  · refine ⟨Document.writtenAs_render (hliterals.at? hq), ?_⟩
    rw [Document.writtenAt?_eq_at? (Document.keysDistinct_at? hdistinct hq)]
    rw [hqr, Document.at?_append, hq, Option.bind_some] at hat
    exact hat
  · rw [Schema.violations_report] at hv
    obtain ⟨node, t, hnode, -, hfault⟩ :=
      Schema.exists_fault_of_mem_report (Library.namesDistinct_of_compile hlib hs) hdistinct hv
    constructor
    · intro hpath hkind
      rw [hpath, hat] at hnode
      cases hnode
      rcases Checks.mem_faults hfault with ⟨types, hwrong⟩ | hown
      · exact absurd (congrArg Fault.kind hwrong) hkind
      · exact Checks.message_of_number hown
    · intro hkind node' hnode'
      cases hnode.symm.trans hnode'
      rcases Checks.mem_faults hfault with ⟨types, hwrong⟩ | hown
      · cases hkind.symm.trans (congrArg Fault.kind hwrong)
      · exact Checks.message_of_unlisted hown hkind

/-- A schema for lists of numbers that are not negative. -/
def nonNegative : Library := ⟨[
  ("positive", .object [("items", .object [("minimum", .number ⟨"0"⟩)])])]⟩

/-- Of two numbers one changes its spelling; the other does not, and a message shows it in front. -/
theorem Loader.load_literal_mixed : ∃ s d, nonNegative.compile "positive" = .ok s ∧
    ({} : Loader).load (Utf8.encode "[1E5,-7]") = .ok d ∧
      (∃ m, d.at? [.index 0] = some (.number m) ∧
        Number.Respelled "1E5".toList m.literal.toList ∧ m.literal ≠ "1E5") ∧
      d.at? [.index 1] = some (.number ⟨"-7"⟩) ∧
      ∃ v ∈ s.violations d, v.path = [.index 1] ∧ ∃ rest, v.message = "-7" ++ rest := by
  have hlib : nonNegative.KeysDistinct := by
    unfold Library.KeysDistinct
    decide +kernel
  have hfound : (match nonNegative.compile "positive",
      ({} : Loader).load (Utf8.encode "[1E5,-7]") with
    | .ok s, .ok d =>
      (s.violations d).any fun v => v.path = [.index 1] && v.kind = .rangeViolation
    | _, _ => false) = true := by decide +kernel
  have hsigned : (Number.mk "-7").IsLiteral :=
    ⟨['-'], ['7'], [], [], .inr rfl, by decide, .inl rfl, .inl rfl, rfl⟩
  split at hfound
  · rename_i s d hs hd
    obtain ⟨v, hv, hplace⟩ := List.any_eq_true.mp hfound
    rw [Bool.and_eq_true, decide_eq_true_iff, decide_eq_true_iff] at hplace
    obtain ⟨-, hnumbers⟩ := Loader.load_literal hd
    obtain ⟨-, m, hm, hspelling, hsame, -⟩ :=
      hnumbers _ Document.writtenAs_mixedNumbers [.index 0] ⟨"1E5"⟩ rfl
    obtain ⟨-, m', hm', -, hsame', -, -, hmessages⟩ :=
      hnumbers _ Document.writtenAs_mixedNumbers [.index 1] ⟨"-7"⟩ rfl
    have hliteral := hsame'.mpr hsigned
    obtain ⟨rest, hrest⟩ := (hmessages nonNegative "positive" s hlib hs v hv).1 hplace.1
      (by rw [hplace.2]; decide)
    refine ⟨s, d, hs, hd, ⟨m, hm, hspelling, fun h => ?_⟩, ?_, v, hv, hplace.1, rest, ?_⟩
    · exact absurd (Number.kept_eq_self_iff Number.isNumeral_bigExponent |>.mpr (hsame.mp h))
        (by decide +kernel)
    · rw [hm', ← congrArg Number.mk hliteral]
    · rw [hrest, hliteral]
  · cases hfound

/-- The literal of a number is not always the one of the text: the mark of an exponent is changed,
and a sign is put in. -/
theorem Loader.load_respelled :
    (Document.number ⟨"1E5"⟩).WrittenAs (Utf8.encode "1E5") ∧
      ({} : Loader).load (Utf8.encode "1E5") = .ok (.number ⟨"1e+5"⟩) ∧
      (Number.mk "1e+5").literal ≠ (Number.mk "1E5").literal ∧
      (Document.number ⟨"1e+5"⟩).render ≠ "1E5" := by
  have hwritten := Document.writtenAs_number Number.isNumeral_bigExponent
  have hkept : (Number.mk "1E5").kept = ⟨"1e+5"⟩ := by decide +kernel
  have hread : Document.read (Utf8.encode "1E5") = .ok (.number ⟨"1e+5"⟩) :=
    hwritten.read_eq_ok_iff.mpr ⟨⟨.number _, by decide⟩, by rw [← hkept, Document.kept]⟩
  refine ⟨hwritten, Loader.load_eq_ok_iff.mpr ⟨hread, by decide⟩, by decide, ?_⟩
  rw [Document.render_number]
  decide

end ManifestCheck
