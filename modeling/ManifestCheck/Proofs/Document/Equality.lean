import ManifestCheck.Proofs.Document.RenderingRoundTrip
import ManifestCheck.Proofs.Number.ValueComparison

/-!
# Equality of documents

Two documents are equal if they are alike wherever a path leads in one of them: a path that leads
nowhere in one leads nowhere in the other, and values at the same place are containers of one kind
or equal scalars (`Document.equal_iff_at`).  So equality of documents is as good as that of the
numbers in them.

Two numbers are equal if they have the same double and are not two different integers of 128 bits
(`Number.equal_iff`).  The first of these can be passed on from one pair to the next, and the second
cannot: equality holds along a chain just as long as the ends have no different integers of 128 bits
at one place (`Document.equal_chain`).
-/

namespace ManifestCheck

/-! ## Numbers -/

namespace Number

variable {a b c : Number} {v w : Int}

/-- Two numbers with the same double. -/
def SameDouble (a b : Number) : Prop :=
  ∃ p, a.toBinary64.position? = some p ∧ b.toBinary64.position? = some p

/-- Two different integers of 128 bits. -/
def Parted (a b : Number) : Prop := ∃ v w, a.toInt128? = some v ∧ b.toInt128? = some w ∧ v ≠ w

theorem SameDouble.symm (h : a.SameDouble b) : b.SameDouble a := by
  obtain ⟨p, ha, hb⟩ := h
  exact ⟨p, hb, ha⟩

theorem SameDouble.trans (hab : a.SameDouble b) (hbc : b.SameDouble c) : a.SameDouble c := by
  obtain ⟨p, ha, hb⟩ := hab
  obtain ⟨q, hb', hc⟩ := hbc
  obtain rfl : p = q := Option.some.inj (hb.symm.trans hb')
  exact ⟨p, ha, hc⟩

theorem Parted.symm (h : a.Parted b) : b.Parted a := by
  obtain ⟨v, w, ha, hb, hne⟩ := h
  exact ⟨w, v, hb, ha, hne.symm⟩

theorem sameDouble_of_exact (ha : a.toInt128? = some v) (hb : b.toInt128? = some v) :
    a.SameDouble b :=
  ⟨_, position?_of_intValue? (toInt128?_eq_some_iff.mp ha).1,
    position?_of_intValue? (toInt128?_eq_some_iff.mp hb).1⟩

theorem equal_of_exact (ha : a.toInt128? = some v) (hb : b.toInt128? = some w) :
    a.equal b = true ↔ v = w := by
  rw [equal, compare?_of_exact ha hb, decide_eq_true_iff, Option.some_inj, compare_eq_iff_eq]

theorem equal_of_rounded (h : a.toInt128? = none ∨ b.toInt128? = none) :
    a.equal b = true ↔ a.SameDouble b := by
  rw [equal, compare?_of_rounded h, decide_eq_true_iff, Binary64.compare?]
  unfold SameDouble
  cases a.toBinary64.position? with
  | none => simp
  | some p =>
    cases b.toBinary64.position? with
    | none => simp
    | some q => simpa [eq_comm] using @compare_eq_iff_eq _ _ p q

/-- **When two numbers are equal**: if they have the same double and are not two different integers
of 128 bits. -/
theorem equal_iff : a.equal b = true ↔ a.SameDouble b ∧ ¬a.Parted b := by
  have rounded : a.toInt128? = none ∨ b.toInt128? = none →
      (a.equal b = true ↔ a.SameDouble b ∧ ¬a.Parted b) := fun h => by
    rw [equal_of_rounded h]
    refine ⟨fun hsame => ⟨hsame, ?_⟩, And.left⟩
    rintro ⟨v, w, ha, hb, -⟩
    rcases h with h | h
    · cases h.symm.trans ha
    · cases h.symm.trans hb
  rcases ha : a.toInt128? with _ | v
  · exact rounded (.inl ha)
  · rcases hb : b.toInt128? with _ | w
    · exact rounded (.inr hb)
    · rw [equal_of_exact ha hb]
      constructor
      · rintro rfl
        refine ⟨sameDouble_of_exact ha hb, ?_⟩
        rintro ⟨x, y, hx, hy, hne⟩
        exact hne (Option.some.inj (hx.symm.trans (ha.trans (hb.symm.trans hy))))
      · rintro ⟨-, hparted⟩
        exact not_not.mp fun hne => hparted ⟨v, w, ha, hb, hne⟩

theorem equal_comm (a b : Number) : a.equal b = b.equal a := by
  rw [Bool.eq_iff_iff, equal_iff, equal_iff]
  exact and_congr ⟨.symm, .symm⟩ (not_congr ⟨.symm, .symm⟩)

theorem equal_self (h : IsNumeral a.literal.toList) : a.equal a = true := by
  obtain ⟨A, hA⟩ := isNumeral_iff.mp h
  have hposition := Denotes.position? hA
  refine equal_iff.mpr ⟨⟨_, hposition, hposition⟩, ?_⟩
  rintro ⟨v, w, hv, hw, hne⟩
  exact hne (Option.some.inj (hv.symm.trans hw))

/-- **Equality of numbers along a chain.** -/
theorem equal_chain_iff (hab : a.equal b = true) (hbc : b.equal c = true) :
    a.equal c = true ↔ ¬a.Parted c := by
  rw [equal_iff]
  have hsame := (equal_iff.mp hab).1.trans (equal_iff.mp hbc).1
  exact ⟨And.right, fun h => ⟨hsame, h⟩⟩

/-- Different integers of 128 bits equal nothing in common but what is compared by its double. -/
theorem Parted.toInt128?_eq_none (h : a.Parted c) (hab : a.equal b = true)
    (hbc : b.equal c = true) : b.toInt128? = none := by
  obtain ⟨v, w, ha, hc, hne⟩ := h
  rcases hb : b.toInt128? with _ | u
  · rfl
  · have hvu := (equal_of_exact ha hb).mp hab
    have huw := (equal_of_exact hb hc).mp hbc
    exact absurd (hvu.trans huw) hne

end Number

/-! ## Entries under the same keys -/

namespace Entries

variable {α β : Type} {R : α → β → Prop} {as : List (String × α)} {bs : List (String × β)}

/-- Lists of entries in which every key finds related values, or nothing on both sides, have the
same keys. -/
theorem length_eq_of_lookup_rel (ha : (keys as).Nodup) (hb : (keys bs).Nodup)
    (h : ∀ key, Option.Rel R (as.lookup key) (bs.lookup key)) : as.length = bs.length := by
  have hmem : ∀ key, key ∈ keys as ↔ key ∈ keys bs := fun key => by
    rw [← not_iff_not, ← lookup_eq_none_iff_not_mem_keys, ← lookup_eq_none_iff_not_mem_keys]
    have hkey := h key
    generalize as.lookup key = found at hkey
    generalize bs.lookup key = found' at hkey
    cases hkey <;> simp
  have hperm := (List.perm_ext_iff_of_nodup ha hb).mpr hmem
  simpa [keys] using hperm.length_eq

/-- If all keys of one list are found in another and that one is no longer, it has no others. -/
theorem mem_keys_of_covered (ha : (keys as).Nodup) (hlength : as.length = bs.length)
    (h : ∀ key ∈ keys as, key ∈ keys bs) {key : String} (hkey : key ∈ keys bs) :
    key ∈ keys as := by
  have hsub := List.subperm_of_subset ha h
  refine (hsub.perm_of_length_le ?_).mem_iff.mpr hkey
  simp [keys, hlength]

end Entries

/-! ## Places in documents -/

namespace Document

/-- Equality as a relation. -/
def Equals (x y : Document) : Prop := x.equal y = true

/-- Two values that are alike without regard to what they hold: containers of one kind, or equal
scalars. -/
inductive Alike : Document → Document → Prop
  | null : Alike null null
  | bool (b : Bool) : Alike (bool b) (bool b)
  | number {a b : Number} : a.equal b = true → Alike (number a) (number b)
  | string (text : String) : Alike (string text) (string text)
  | array (items items' : List Document) : Alike (array items) (array items')
  | object (entries entries' : List (String × Document)) : Alike (object entries) (object entries')

theorem Alike.symm {x y : Document} (h : Alike x y) : Alike y x := by
  cases h with
  | null => exact .null
  | bool b => exact .bool b
  | number h => exact .number (by rwa [Number.equal_comm])
  | string text => exact .string text
  | array items items' => exact .array items' items
  | object entries entries' => exact .object entries' entries

/-- What is alike can be passed on except between numbers. -/
theorem Alike.trans {x y z : Document} (hxy : Alike x y) (hyz : Alike y z)
    (h : ∀ a c, x = .number a → z = .number c → ¬a.Parted c) : Alike x z := by
  cases hxy with
  | number hab =>
    cases hyz with
    | number hbc => exact .number ((Number.equal_chain_iff hab hbc).mpr (h _ _ rfl rfl))
  | _ =>
    cases hyz
    constructor

theorem equalItems_iff {as bs : List Document} : equalItems as bs = true ↔
    ∀ i : Nat, Option.Rel Equals as[i]? bs[i]? := by
  induction as generalizing bs with
  | nil =>
    cases bs with
    | nil => simp [equalItems]
    | cons b bs =>
      refine ⟨nofun, fun h => ?_⟩
      cases h 0
  | cons a as ih =>
    cases bs with
    | nil =>
      refine ⟨nofun, fun h => ?_⟩
      cases h 0
    | cons b bs =>
      rw [equalItems, Bool.and_eq_true, ih]
      refine Iff.trans ?_ Nat.and_forall_add_one
      exact and_congr (Option.rel_some_some (r := Equals)).symm Iff.rfl

theorem coveredBy_iff {as bs : List (String × Document)} : coveredBy as bs = true ↔
    ∀ e ∈ as, ∃ b, bs.lookup e.1 = some b ∧ e.2.equal b = true := by
  induction as with
  | nil => simp [coveredBy]
  | cons e rest ih =>
    obtain ⟨key, a⟩ := e
    rw [coveredBy, Bool.and_eq_true, ih, List.forall_mem_cons]
    cases bs.lookup key <;> simp

/-- **Objects are equal if every key finds equal values in them**, or nothing in both. -/
theorem equal_object_iff {as bs : List (String × Document)} (ha : (Entries.keys as).Nodup)
    (hb : (Entries.keys bs).Nodup) : (object as).equal (object bs) = true ↔
      ∀ key, Option.Rel Equals (as.lookup key) (bs.lookup key) := by
  rw [equal, Bool.and_eq_true, beq_iff_eq, coveredBy_iff]
  constructor
  · rintro ⟨hlength, hcovered⟩ key
    rcases hka : as.lookup key with _ | a
    · have hfound : ∀ k ∈ Entries.keys as, k ∈ Entries.keys bs := fun k hk => by
        obtain ⟨e, he, rfl⟩ := List.mem_map.mp hk
        obtain ⟨b, hkb, -⟩ := hcovered e he
        exact Entries.mem_keys_of_mem (Entries.mem_of_lookup hkb)
      have hnone : key ∉ Entries.keys bs := fun hk =>
        Entries.lookup_eq_none_iff_not_mem_keys.mp hka
          (Entries.mem_keys_of_covered ha hlength hfound hk)
      rw [Entries.lookup_eq_none_iff_not_mem_keys.mpr hnone]
      exact .none
    · obtain ⟨b, hkb, hab⟩ := hcovered _ (Entries.mem_of_lookup hka)
      rw [hkb]
      exact .some hab
  · intro h
    refine ⟨Entries.length_eq_of_lookup_rel ha hb h, fun e he => ?_⟩
    have hrel := h e.1
    rw [(Entries.lookup_eq_some_iff ha).mpr he] at hrel
    rcases hkb : bs.lookup e.1 with _ | b
    · rw [hkb] at hrel
      cases hrel
    · rw [hkb] at hrel
      exact ⟨b, rfl, (Option.rel_some_some (r := Equals)).mp hrel⟩

variable {x y z : Document}

/-- Equal values are alike, and what they hold is equal one step inside. -/
theorem equal_iff_child (hx : x.keysDistinct = true) (hy : y.keysDistinct = true) :
    x.equal y = true ↔ Alike x y ∧
      ∀ step, Option.Rel Equals (x.child? step) (y.child? step) := by
  constructor
  · intro h
    unfold equal at h
    split at h
    · exact ⟨.null, fun step => by cases step <;> exact .none⟩
    · rw [beq_iff_eq] at h
      exact ⟨h ▸ .bool _, fun step => by cases step <;> exact .none⟩
    · exact ⟨.number h, fun step => by cases step <;> exact .none⟩
    · rw [beq_iff_eq] at h
      exact ⟨h ▸ .string _, fun step => by cases step <;> exact .none⟩
    · refine ⟨.array _ _, fun step => ?_⟩
      cases step with
      | key name => exact .none
      | index i => exact equalItems_iff.mp h i
    · refine ⟨.object _ _, fun step => ?_⟩
      cases step with
      | key name =>
        exact (equal_object_iff (keysDistinct_object.mp hx).1 (keysDistinct_object.mp hy).1).mp
          (by rw [equal, h]) name
      | index i => exact .none
    · cases h
  · rintro ⟨halike, hinside⟩
    cases halike with
    | null => rfl
    | bool b => exact beq_self_eq_true b
    | number h => exact h
    | string text => exact beq_self_eq_true text
    | array items items' => exact equalItems_iff.mpr fun i => hinside (.index i)
    | object entries entries' =>
      exact (equal_object_iff (keysDistinct_object.mp hx).1 (keysDistinct_object.mp hy).1).mpr
        fun name => hinside (.key name)

/-- Induction on a document by the values one step inside. -/
theorem inductionOn_child {motive : Document → Prop} (d : Document)
    (inside : ∀ d, (∀ step inner, d.child? step = some inner → motive inner) → motive d) :
    motive d := by
  induction d using Document.inductionOn with
  | null | bool _ | number _ | string _ =>
    refine inside _ fun step inner h => ?_
    cases step <;> cases h
  | array items ih =>
    refine inside _ fun step inner h => ?_
    cases step with
    | key name => cases h
    | index i => exact ih _ (List.mem_of_getElem? h)
  | object entries ih =>
    refine inside _ fun step inner h => ?_
    cases step with
    | key name => exact ih _ (Entries.mem_of_lookup h)
    | index i => cases h

/-- **Documents are equal if they are alike at every place.** -/
theorem equal_iff_at (hx : x.keysDistinct = true) (hy : y.keysDistinct = true) :
    x.equal y = true ↔ ∀ p, Option.Rel Alike (x.at? p) (y.at? p) := by
  constructor
  · intro h p
    induction p generalizing x y with
    | nil => exact .some ((equal_iff_child hx hy).mp h).1
    | cons step p ih =>
      have hinside := ((equal_iff_child hx hy).mp h).2 step
      rw [at?, at?]
      rcases hxi : x.child? step with _ | a <;> rcases hyi : y.child? step with _ | b <;>
        rw [hxi, hyi] at hinside
      · exact .none
      · cases hinside
      · cases hinside
      · exact ih (keysDistinct_child? hx hxi) (keysDistinct_child? hy hyi)
          ((Option.rel_some_some (r := Equals)).mp hinside)
  · intro h
    induction x using inductionOn_child generalizing y with
    | inside x ih =>
      refine (equal_iff_child hx hy).mpr ⟨Option.rel_some_some.mp (h []), fun step => ?_⟩
      have hstep := h [step]
      rw [at?, at?] at hstep
      rcases hxi : x.child? step with _ | a <;> rcases hyi : y.child? step with _ | b <;>
        rw [hxi, hyi] at hstep
      · exact .none
      · cases hstep
      · cases hstep
      · refine .some (ih step a hxi (keysDistinct_child? hx hxi) (keysDistinct_child? hy hyi) ?_)
        intro p
        have hp := h (step :: p)
        rwa [at?, at?, hxi, hyi] at hp

theorem equal_comm (hx : x.keysDistinct = true) (hy : y.keysDistinct = true) :
    x.equal y = y.equal x := by
  have swapped : ∀ {x y : Document}, x.keysDistinct = true → y.keysDistinct = true →
      x.equal y = true → y.equal x = true := fun {x y} hx hy h => by
    refine (equal_iff_at hy hx).mpr fun p => ?_
    have hp := (equal_iff_at hx hy).mp h p
    generalize x.at? p = a at hp
    generalize y.at? p = b at hp
    cases hp with
    | none => exact .none
    | some halike => exact .some halike.symm
  exact Bool.eq_iff_iff.mpr ⟨swapped hx hy, swapped hy hx⟩

/-- **A document equals itself**, if its numbers are literals. -/
theorem equal_self (hx : x.keysDistinct = true) (hn : x.NumbersLiteral) : x.equal x = true := by
  induction x using inductionOn_child with
  | inside x ih =>
    refine (equal_iff_child hx hx).mpr ⟨?_, fun step => ?_⟩
    · cases hn with
      | null => exact .null
      | bool b => exact .bool b
      | number h => exact .number (Number.equal_self h.isNumeral)
      | string text => exact .string text
      | array _ => exact .array _ _
      | object _ => exact .object _ _
    · rcases hi : x.child? step with _ | inner
      · exact .none
      · exact .some (ih step inner hi (keysDistinct_child? hx hi) (hn.child? hi))

/-! ## Chains -/

/-- Two documents with different integers of 128 bits at one place. -/
def Parted (x z : Document) : Prop :=
  ∃ p a c, x.at? p = some (.number a) ∧ z.at? p = some (.number c) ∧ a.Parted c

section Chain

variable (hx : x.keysDistinct = true) (hy : y.keysDistinct = true) (hz : z.keysDistinct = true)
  (hxy : x.equal y = true) (hyz : y.equal z = true)

include hx hy hz hxy hyz

theorem equal_chain_iff : x.equal z = true ↔ ¬x.Parted z := by
  rw [equal_iff_at hx hz]
  constructor
  · rintro h ⟨p, a, c, ha, hc, hparted⟩
    have hp := h p
    rw [ha, hc, Option.rel_some_some] at hp
    cases hp with
    | number hac => exact (Number.equal_iff.mp hac).2 hparted
  · intro h p
    have hxyp := (equal_iff_at hx hy).mp hxy p
    have hyzp := (equal_iff_at hy hz).mp hyz p
    have hparted : ∀ a c, x.at? p = some (.number a) → z.at? p = some (.number c) →
        ¬a.Parted c := fun a c ha hc hac => h ⟨p, a, c, ha, hc, hac⟩
    generalize x.at? p = here at hxyp hparted
    generalize y.at? p = between at hxyp hyzp
    generalize z.at? p = there at hyzp hparted
    cases hxyp with
    | none =>
      cases hyzp
      exact .none
    | some hxy =>
      cases hyzp with
      | some hyz =>
        exact .some (hxy.trans hyz fun a c ha hc =>
          hparted a c (congrArg some ha) (congrArg some hc))

/-- Where the ends of a chain hold different integers, what is between them is a number that is
compared by its double. -/
theorem exists_between {p : Path} {a c : Number} (ha : x.at? p = some (.number a))
    (hc : z.at? p = some (.number c)) (hac : a.Parted c) :
    ∃ b, y.at? p = some (.number b) ∧ b.toInt128? = none ∧ a.SameDouble b ∧ b.SameDouble c := by
  have hxyp := (equal_iff_at hx hy).mp hxy p
  have hyzp := (equal_iff_at hy hz).mp hyz p
  rw [ha] at hxyp
  rw [hc] at hyzp
  generalize y.at? p = between at hxyp hyzp
  cases hxyp with
  | some halike =>
    cases halike with
    | @number a b hab =>
      cases hyzp with
      | some halike =>
        cases halike with
        | number hbc =>
          exact ⟨b, rfl, hac.toInt128?_eq_none hab hbc, (Number.equal_iff.mp hab).1,
            (Number.equal_iff.mp hbc).1⟩

end Chain

/-- A document that was read from some text. -/
def Loaded (d : Document) : Prop := ∃ (l : Loader) (bytes : List UInt8), l.load bytes = .ok d

theorem Loaded.keysDistinct (h : x.Loaded) : x.keysDistinct = true := by
  obtain ⟨l, bytes, hload⟩ := h
  exact keysDistinct_of_load hload

/-- A faithful document is loaded from its rendering. -/
theorem Faithful.loaded (h : x.Faithful) (hnesting : x.nesting ≤ 64) : x.Loaded :=
  ⟨{}, _, h.load_eq_ok (writtenAs_render h.numbersLiteral)
    (Nat.le_trans hnesting (by decide)) hnesting⟩

/-- **How far equality is passed on.**  Of three numbers in a chain the ends are equal unless they
are different integers of 128 bits; then what is between them is no such integer and has the same
double as both.  The same holds of documents that were loaded: the ends of a chain are equal unless
they hold different integers of 128 bits at one place.  So which of two equal values is listed makes
no difference to a value that has no such place in common with either. -/
theorem equal_chain :
    (∀ a b c : Number, a.equal b = true → b.equal c = true →
      (a.equal c = true ↔ ¬a.Parted c) ∧
        (a.Parted c → b.toInt128? = none ∧ a.SameDouble b ∧ b.SameDouble c)) ∧
    ∀ x y z : Document, x.Loaded → y.Loaded → z.Loaded → x.equal y = true →
      (y.equal z = true → (x.equal z = true ↔ ¬x.Parted z) ∧
        ∀ p a c, x.at? p = some (.number a) → z.at? p = some (.number c) → a.Parted c →
          ∃ b, y.at? p = some (.number b) ∧ b.toInt128? = none ∧
            a.SameDouble b ∧ b.SameDouble c) ∧
      (¬x.Parted z → ¬y.Parted z → x.equal z = y.equal z) := by
  constructor
  · intro a b c hab hbc
    refine ⟨Number.equal_chain_iff hab hbc, fun h => ?_⟩
    exact ⟨h.toInt128?_eq_none hab hbc, (Number.equal_iff.mp hab).1, (Number.equal_iff.mp hbc).1⟩
  · intro x y z hx hy hz hxy
    replace hx := hx.keysDistinct
    replace hy := hy.keysDistinct
    replace hz := hz.keysDistinct
    refine ⟨fun hyz => ⟨equal_chain_iff hx hy hz hxy hyz, fun p a c ha hc hac =>
      exists_between hx hy hz hxy hyz ha hc hac⟩, fun hxz hyz => ?_⟩
    have hyx : y.equal x = true := equal_comm hx hy ▸ hxy
    rw [Bool.eq_iff_iff]
    exact ⟨fun h => (equal_chain_iff hy hx hz hyx h).mpr hyz,
      fun h => (equal_chain_iff hx hy hz hxy h).mpr hxz⟩

/-- An object with a number under its one key. -/
def labelled (text : String) : Document := .object [("k", .number ⟨text⟩)]

theorem loaded_labelled {text : String}
    (h : (readNumberText (Utf8.encode text)).toOption = some ⟨text⟩) : (labelled text).Loaded := by
  have hn : (⟨text⟩ : Number).IsLiteral := Number.isLiteral_of_read h
  refine Faithful.loaded (.object ?_ ?_ ?_) Nat.one_le_ofNat
  · rintro e ⟨⟩
    show "k" ≠ numberKey
    decide
  · exact List.nodup_singleton _
  · exact List.forall_mem_singleton.mpr (.number hn)

/-- A chain of loaded objects that breaks: `2 ^ 53 + 1` is rounded to `2 ^ 53` when it is compared
with a fraction, and is not when it is compared with an integer. -/
theorem equal_chain_broken :
    (labelled "9007199254740993").Loaded ∧ (labelled "9007199254740992.0").Loaded ∧
      (labelled "9007199254740992").Loaded ∧
        (labelled "9007199254740993").equal (labelled "9007199254740992.0") = true ∧
          (labelled "9007199254740992.0").equal (labelled "9007199254740992") = true ∧
            (labelled "9007199254740993").equal (labelled "9007199254740992") = false :=
  ⟨loaded_labelled (by decide +kernel), loaded_labelled (by decide +kernel),
    loaded_labelled (by decide +kernel), by decide +kernel, by decide +kernel, by decide +kernel⟩

/-- The chain breaks under the key, where its ends hold different integers and the number between
them has the double of both. -/
theorem equal_chain_labelled :
    (labelled "9007199254740993").Loaded ∧ (labelled "9007199254740992.0").Loaded ∧
      (labelled "9007199254740992").Loaded ∧
        (labelled "9007199254740993").equal (labelled "9007199254740992.0") = true ∧
          (labelled "9007199254740992.0").equal (labelled "9007199254740992") = true ∧
            (labelled "9007199254740993").Parted (labelled "9007199254740992") ∧
              (labelled "9007199254740993").equal (labelled "9007199254740992") = false ∧
    ∃ b, (labelled "9007199254740992.0").at? [.key "k"] = some (.number b) ∧
      b.toInt128? = none ∧ (Number.mk "9007199254740993").SameDouble b ∧
        b.SameDouble ⟨"9007199254740992"⟩ := by
  have hx : (labelled "9007199254740993").Loaded := loaded_labelled (by decide +kernel)
  have hy : (labelled "9007199254740992.0").Loaded := loaded_labelled (by decide +kernel)
  have hz : (labelled "9007199254740992").Loaded := loaded_labelled (by decide +kernel)
  have hxy : (labelled "9007199254740993").equal (labelled "9007199254740992.0") = true := by
    decide +kernel
  have hyz : (labelled "9007199254740992.0").equal (labelled "9007199254740992") = true := by
    decide +kernel
  have ha : (Number.mk "9007199254740993").toInt128? = some 9007199254740993 := by decide +kernel
  have hc : (Number.mk "9007199254740992").toInt128? = some 9007199254740992 := by decide +kernel
  have hac : (Number.mk "9007199254740993").Parted ⟨"9007199254740992"⟩ :=
    ⟨_, _, ha, hc, by decide⟩
  obtain ⟨hchain, hbetween⟩ := (equal_chain.2 _ _ _ hx hy hz hxy).1 hyz
  have hparted : (labelled "9007199254740993").Parted (labelled "9007199254740992") :=
    ⟨[.key "k"], _, _, rfl, rfl, hac⟩
  have hbroken := mt hchain.mp (not_not.mpr hparted)
  exact ⟨hx, hy, hz, hxy, hyz, hparted, Bool.eq_false_iff.mpr hbroken,
    hbetween [.key "k"] _ _ rfl rfl hac⟩

end Document

end ManifestCheck
