import ManifestCheck.Proofs.Builtin.ManifestListShape
import ManifestCheck.Proofs.Builtin.ManifestShape
import ManifestCheck.Proofs.Outcome
import ManifestCheck.Proofs.Pattern.Languages

/-!
# The embedded patterns

The built-in documents hold a pattern for media types, one for digests, and one for each of the two
media types that a document may name as its own.  Here each of them is compared with a grammar that
does not mention patterns: it compiles, and matches the texts of the grammar and no others
(`embedded_patterns`).  All these texts are made of visible ASCII characters.
-/

namespace ManifestCheck.Builtin

open Pattern.Expr

/-! ## Grammars -/

/-- One of the two names that make up a media type. -/
structure IsTypeName (t : List Char) : Prop where
  length : 1 ≤ t.length ∧ t.length ≤ 127
  head : ∀ c ∈ t.head?, c.isAlphanum = true
  characters : ∀ c ∈ t, c.isAlphanum = true ∨ c ∈ "!#$&^_.+-".toList

def IsMediaType (s : String) : Prop :=
  ∃ t u : String, s = t ++ "/" ++ u ∧ IsTypeName t.toList ∧ IsTypeName u.toList

/-- A run of small letters and digits. -/
def IsRun (r : List Char) : Prop := r ≠ [] ∧ ∀ c ∈ r, c.isLower = true ∨ c.isDigit = true

/-- Runs with single characters between them. -/
inductive IsAlgorithm : List Char → Prop
  | run {r : List Char} : IsRun r → IsAlgorithm r
  | joined {r a : List Char} {c : Char} :
      IsRun r → c ∈ "+._-".toList → IsAlgorithm a → IsAlgorithm (r ++ c :: a)

def IsEncoded (e : List Char) : Prop :=
  e ≠ [] ∧ ∀ c ∈ e, c.isAlphanum = true ∨ c ∈ "=_-".toList

def IsDigest (s : String) : Prop :=
  ∃ a e : String, s = a ++ ":" ++ e ∧ IsAlgorithm a.toList ∧ IsEncoded e.toList

/-! ## Sets of characters -/

def alphanumerics : CharSet := ⟨[(48, 57), (65, 90), (97, 122)]⟩

def typeCharacters : CharSet :=
  ⟨[(33, 33), (35, 36), (38, 38), (43, 43), (45, 46), (48, 57), (65, 90), (94, 95), (97, 122)]⟩

def runCharacters : CharSet := ⟨[(48, 57), (97, 122)]⟩

def separators : CharSet := ⟨[(43, 43), (45, 46), (95, 95)]⟩

def encodedCharacters : CharSet :=
  ⟨[(45, 45), (48, 57), (61, 61), (65, 90), (95, 95), (97, 122)]⟩

theorem isLower_iff_toNat {c : Char} : c.isLower = true ↔ 97 ≤ c.toNat ∧ c.toNat ≤ 122 := by
  change (decide (97 ≤ c.toNat) && decide (c.toNat ≤ 122)) = true ↔ _
  rw [Bool.and_eq_true, decide_eq_true_iff, decide_eq_true_iff]

theorem isUpper_iff_toNat {c : Char} : c.isUpper = true ↔ 65 ≤ c.toNat ∧ c.toNat ≤ 90 :=
  decide_eq_true_iff

theorem isAlphanum_iff_toNat {c : Char} : c.isAlphanum = true ↔
    48 ≤ c.toNat ∧ c.toNat ≤ 57 ∨ 65 ≤ c.toNat ∧ c.toNat ≤ 90 ∨ 97 ≤ c.toNat ∧ c.toNat ≤ 122 := by
  change ((c.isUpper || c.isLower) || c.isDigit) = true ↔ _
  rw [Bool.or_eq_true, Bool.or_eq_true, isLower_iff_toNat, isUpper_iff_toNat,
    Char.isDigit_iff_toNat]
  have hzero : '0'.toNat = 48 := rfl
  have hnine : '9'.toNat = 57 := rfl
  omega

theorem alphanumerics_contains {c : Char} :
    alphanumerics.contains c = true ↔ c.isAlphanum = true := by
  rw [isAlphanum_iff_toNat]
  simp [alphanumerics, CharSet.contains, CharSet.hasCode]

theorem typeCharacters_contains {c : Char} : typeCharacters.contains c = true ↔
    c.isAlphanum = true ∨ c ∈ "!#$&^_.+-".toList := by
  rw [isAlphanum_iff_toNat]
  simp [typeCharacters, CharSet.contains, CharSet.hasCode, ← Char.toNat_inj]
  omega

theorem runCharacters_contains {c : Char} : runCharacters.contains c = true ↔
    c.isLower = true ∨ c.isDigit = true := by
  rw [isLower_iff_toNat, Char.isDigit_iff_toNat, Or.comm]
  simp [runCharacters, CharSet.contains, CharSet.hasCode]

theorem separators_contains {c : Char} :
    separators.contains c = true ↔ c ∈ "+._-".toList := by
  simp [separators, CharSet.contains, CharSet.hasCode, ← Char.toNat_inj]
  omega

theorem encodedCharacters_contains {c : Char} : encodedCharacters.contains c = true ↔
    c.isAlphanum = true ∨ c ∈ "=_-".toList := by
  rw [isAlphanum_iff_toNat]
  simp [encodedCharacters, CharSet.contains, CharSet.hasCode, ← Char.toNat_inj]
  omega

/-! ## Media types -/

/-- One name, and then something else. -/
def typeName (next : Pattern.Expr) : Pattern.Expr :=
  seq (chars alphanumerics) (seq (rep (chars typeCharacters) 0 (some 126)) next)

variable {f : Pattern.Expr} {Q : List Char → Prop} {s : String}

theorem isTypeName_iff {t : List Char} : IsTypeName t ↔ ∃ c cs, t = c :: cs ∧
    c.isAlphanum = true ∧ cs.length ≤ 126 ∧
      ∀ d ∈ cs, d.isAlphanum = true ∨ d ∈ "!#$&^_.+-".toList := by
  cases t with
  | nil =>
    constructor
    · intro h
      exact absurd h.length.1 (by decide)
    · rintro ⟨c, cs, h, -⟩
      cases h
  | cons c cs =>
    constructor
    · intro h
      refine ⟨c, cs, rfl, h.head c rfl, Nat.le_of_succ_le_succ h.length.2, fun d hd => ?_⟩
      exact h.characters d (List.mem_cons_of_mem _ hd)
    · rintro ⟨c', cs', h, hc, hlen, hcs⟩
      cases h
      refine ⟨⟨Nat.succ_pos _, Nat.succ_le_succ hlen⟩, fun d hd => ?_, fun d hd => ?_⟩
      · cases hd
        exact hc
      · rcases List.mem_cons.mp hd with rfl | hd
        · exact .inl hc
        · exact hcs d hd

theorem typeName_finishes (hf : f.Finishes Q) :
    (typeName f).Finishes fun w => ∃ t v, IsTypeName t ∧ Q v ∧ w = t ++ v := by
  have hrow := (takes_chars alphanumerics).finishes
    ((takes_rep_chars typeCharacters 0 (some 126)).finishes hf)
  refine hrow.congr fun w => ?_
  simp only [isTypeName_iff, alphanumerics_contains, typeCharacters_contains]
  constructor
  · rintro ⟨_, _, ⟨c, hc, rfl⟩, ⟨cs, v, ⟨-, hlen, hcs⟩, hv, rfl⟩, rfl⟩
    exact ⟨c :: cs, v, ⟨c, cs, rfl, hc, hlen 126 rfl, hcs⟩, hv, rfl⟩
  · rintro ⟨_, v, ⟨c, cs, rfl, hc, hlen, hcs⟩, hv, rfl⟩
    refine ⟨[c], cs ++ v, ⟨c, hc, rfl⟩, ⟨cs, v, ⟨Nat.zero_le _, fun m hm => ?_, hcs⟩, hv, rfl⟩, rfl⟩
    cases hm
    exact hlen

/-- What stands between the anchors of the pattern for media types. -/
def mediaTypeExpr : Pattern.Expr :=
  typeName (seq (chars (.single '/')) (typeName (seq (assertion .textEnd) empty)))

/-- A text is in two parts with a character between them if its characters are. -/
theorem exists_parts_iff {P R : List Char → Prop} {sign : String} {c : Char}
    (hsign : sign.toList = [c]) :
    (∃ t u : String, s = t ++ sign ++ u ∧ P t.toList ∧ R u.toList) ↔
      ∃ t u, s.toList = t ++ c :: u ∧ P t ∧ R u := by
  constructor
  · rintro ⟨t, u, rfl, ht, hu⟩
    exact ⟨t.toList, u.toList, by simp [hsign], ht, hu⟩
  · rintro ⟨t, u, hs, ht, hu⟩
    refine ⟨String.ofList t, String.ofList u, ?_, by rwa [String.toList_ofList],
      by rwa [String.toList_ofList]⟩
    rw [← String.toList_inj, hs]
    simp [hsign]

theorem mediaTypeExpr_finishes : mediaTypeExpr.Finishes fun w =>
    ∃ t u, w = t ++ '/' :: u ∧ IsTypeName t ∧ IsTypeName u := by
  have hrow := typeName_finishes ((takes_single '/').finishes (typeName_finishes finishes_end))
  refine hrow.congr fun w => ?_
  constructor
  · rintro ⟨t, _, ht, ⟨_, _, rfl, ⟨u, _, hu, rfl, rfl⟩, rfl⟩, rfl⟩
    exact ⟨t, u, by simp, ht, hu⟩
  · rintro ⟨t, u, rfl, ht, hu⟩
    exact ⟨t, '/' :: u, ht, ⟨['/'], u, rfl, ⟨u, [], hu, rfl, by simp⟩, rfl⟩, rfl⟩

/-! ## Digests -/

def runExpr : Pattern.Expr := rep (chars runCharacters) 1 none

def joinedExpr : Pattern.Expr := seq (chars separators) (seq runExpr empty)

/-- What stands between the anchors of the pattern for digests. -/
def digestExpr : Pattern.Expr :=
  seq runExpr (seq (rep joinedExpr 0 none) (seq (chars (.single ':'))
    (seq (rep (chars encodedCharacters) 1 none) (seq (assertion .textEnd) empty))))

theorem runExpr_takes : runExpr.Takes IsRun := by
  refine (takes_rep_chars runCharacters 1 none).congr fun w => ?_
  simp only [runCharacters_contains, IsRun, ← List.length_pos_iff]
  constructor
  · rintro ⟨hlen, -, hw⟩
    exact ⟨hlen, hw⟩
  · rintro ⟨hlen, hw⟩
    exact ⟨hlen, nofun, hw⟩

/-- A separator and the run behind it. -/
def IsJoined (w : List Char) : Prop := ∃ c r, w = c :: r ∧ c ∈ "+._-".toList ∧ IsRun r

theorem joinedExpr_takes : joinedExpr.Takes IsJoined := by
  refine ((takes_chars separators).seq (runExpr_takes.seq takes_empty)).congr fun w => ?_
  simp only [separators_contains]
  constructor
  · rintro ⟨_, _, ⟨c, hc, rfl⟩, ⟨r, _, hr, rfl, rfl⟩, rfl⟩
    exact ⟨c, r, by simp, hc, hr⟩
  · rintro ⟨c, r, rfl, hc, hr⟩
    exact ⟨[c], r, ⟨c, hc, rfl⟩, ⟨r, [], hr, rfl, by simp⟩, rfl⟩

/-- An algorithm is a run with any number of further runs joined to it. -/
theorem isAlgorithm_iff {a : List Char} :
    IsAlgorithm a ↔ ∃ (r : List Char) (ws : List (List Char)), IsRun r ∧ (∀ w ∈ ws, IsJoined w) ∧
      a = r ++ ws.flatten := by
  constructor
  · intro h
    induction h with
    | run hr => exact ⟨_, [], hr, List.forall_mem_nil _, by simp⟩
    | @joined r a c hr hc ha ih =>
      obtain ⟨r', ws, hr', hws, rfl⟩ := ih
      exact ⟨r, (c :: r') :: ws, hr, List.forall_mem_cons.mpr ⟨⟨c, r', rfl, hc, hr'⟩, hws⟩, by simp⟩
  · rintro ⟨r, ws, hr, hws, rfl⟩
    induction ws generalizing r with
    | nil =>
      rw [List.flatten_nil, List.append_nil]
      exact .run hr
    | cons w ws ih =>
      rw [List.forall_mem_cons] at hws
      obtain ⟨⟨c, r', rfl, hc, hr'⟩, hws⟩ := hws
      exact .joined hr hc (ih r' hr' hws)

theorem digestExpr_finishes : digestExpr.Finishes fun w =>
    ∃ a e, w = a ++ ':' :: e ∧ IsAlgorithm a ∧ IsEncoded e := by
  have hencoded := (takes_rep_chars encodedCharacters 1 none).finishes finishes_end
  have hrow := runExpr_takes.finishes
    ((joinedExpr_takes.rep 0 none).finishes ((takes_single ':').finishes hencoded))
  refine hrow.congr fun w => ?_
  simp only [encodedCharacters_contains, isAlgorithm_iff, IsEncoded, ← List.length_pos_iff]
  constructor
  · rintro ⟨r, _, hr, ⟨_, _, ⟨ws, -, -, hws, rfl⟩, ⟨_, _, rfl, ⟨e, _, ⟨hlen, -, he⟩, rfl, rfl⟩,
      rfl⟩, rfl⟩, rfl⟩
    exact ⟨r ++ ws.flatten, e, by simp, ⟨r, ws, hr, hws, rfl⟩, hlen, he⟩
  · rintro ⟨_, e, rfl, ⟨r, ws, hr, hws, rfl⟩, hlen, he⟩
    exact ⟨r, ws.flatten ++ ':' :: e, hr,
      ⟨ws.flatten, ':' :: e, ⟨ws, Nat.zero_le _, nofun, hws, rfl⟩,
        ⟨[':'], e, rfl, ⟨e, [], ⟨hlen, nofun, he⟩, rfl, by simp⟩, rfl⟩, rfl⟩, by simp⟩

/-! ## Visible characters -/

/-- A visible ASCII character: no blank, no line break, nothing of another script. -/
def IsVisible (c : Char) : Prop := 33 ≤ c.toNat ∧ c.toNat ≤ 126

theorem visible_of_contains {set : CharSet} {c : Char} (h : set.contains c = true)
    (hset : ∀ r ∈ set.ranges, 33 ≤ r.1 ∧ r.2 ≤ 126) : IsVisible c := by
  obtain ⟨r, hr, hc⟩ := List.any_eq_true.mp h
  rw [Bool.and_eq_true, decide_eq_true_eq, decide_eq_true_eq] at hc
  have hrange := hset r hr
  exact ⟨Nat.le_trans hrange.1 hc.1, Nat.le_trans hc.2 hrange.2⟩

theorem visible_of_all {cs : List Char}
    (h : (cs.all fun c => 33 ≤ c.toNat && c.toNat ≤ 126) = true) : ∀ c ∈ cs, IsVisible c := by
  intro c hc
  simpa [IsVisible] using List.all_eq_true.mp h c hc

theorem IsTypeName.visible {t : List Char} (h : IsTypeName t) : ∀ c ∈ t, IsVisible c :=
  fun c hc => visible_of_contains (typeCharacters_contains.mpr (h.characters c hc)) (by decide)

theorem IsRun.visible {r : List Char} (h : IsRun r) : ∀ c ∈ r, IsVisible c :=
  fun c hc => visible_of_contains (runCharacters_contains.mpr (h.2 c hc)) (by decide)

theorem IsAlgorithm.visible {a : List Char} (h : IsAlgorithm a) : ∀ c ∈ a, IsVisible c := by
  induction h with
  | run hr => exact hr.visible
  | joined hr hc ha ih =>
    have hsign := visible_of_contains (separators_contains.mpr hc) (by decide)
    exact List.forall_mem_append.mpr ⟨hr.visible, List.forall_mem_cons.mpr ⟨hsign, ih⟩⟩

theorem IsEncoded.visible {e : List Char} (h : IsEncoded e) : ∀ c ∈ e, IsVisible c :=
  fun c hc => visible_of_contains (encodedCharacters_contains.mpr (h.2 c hc)) (by decide)

theorem visible_of_parts {t u sign : String} (ht : ∀ c ∈ t.toList, IsVisible c)
    (hsign : ∀ c ∈ sign.toList, IsVisible c) (hu : ∀ c ∈ u.toList, IsVisible c) :
    ∀ c ∈ (t ++ sign ++ u).toList, IsVisible c := by
  rw [String.toList_append, String.toList_append]
  exact List.forall_mem_append.mpr ⟨List.forall_mem_append.mpr ⟨ht, hsign⟩, hu⟩

theorem IsMediaType.visible (h : IsMediaType s) : ∀ c ∈ s.toList, IsVisible c := by
  obtain ⟨t, u, rfl, ht, hu⟩ := h
  exact visible_of_parts ht.visible (visible_of_all rfl) hu.visible

theorem IsDigest.visible (h : IsDigest s) : ∀ c ∈ s.toList, IsVisible c := by
  obtain ⟨a, e, rfl, ha, he⟩ := h
  exact visible_of_parts ha.visible (visible_of_all rfl) he.visible

/-! ## The patterns -/

/-- The pattern at a place of the built-in documents compiles, and matches the texts of a grammar
and no others.  All of these are made of visible characters. -/
def MatchesAt (l : Location) (grammar : String → Prop) : Prop :=
  ∃ source p, library.find? l = some (.string source) ∧ Pattern.compile source = .ok p ∧
    (∀ s, p.isMatch s = true ↔ grammar s) ∧
    ∀ s, p.isMatch s = true → ∀ c ∈ s.toList, IsVisible c

theorem matchesAt_of_expr {l : Location} {source : String} {grammar : String → Prop}
    (e : Pattern.Expr) (hl : library.find? l = some (.string source))
    (hsource : (Pattern.compile source).toOption.map Pattern.expr = some e)
    (hmatch : ∀ {p : Pattern} {s : String}, p.expr = e → (p.isMatch s = true ↔ grammar s))
    (hvisible : ∀ {s : String}, grammar s → ∀ c ∈ s.toList, IsVisible c) :
    MatchesAt l grammar := by
  obtain ⟨p, hp, hexpr⟩ := exists_ok_of_map hsource
  have hgrammar (s : String) : p.isMatch s = true ↔ grammar s := hmatch hexpr
  exact ⟨source, p, hl, hp, hgrammar, fun s hs => hvisible ((hgrammar s).mp hs)⟩

/-- Anchors of its own do not change what a pattern matches. -/
theorem matchesAt_of_finishes {l : Location} {source : String} {grammar : String → Prop}
    {e : Pattern.Expr} {P : List Char → Prop} (hl : library.find? l = some (.string source))
    (hsource : (Pattern.compile source).toOption.map Pattern.expr =
      some (.whole (.seq (.assertion .textStart) e)))
    (he : e.Finishes P) (hbounds : e.boundsAscend = true)
    (hgrammar : ∀ {s : String}, P s.toList ↔ grammar s)
    (hvisible : ∀ {s : String}, grammar s → ∀ c ∈ s.toList, IsVisible c) :
    MatchesAt l grammar :=
  matchesAt_of_expr _ hl hsource
    (fun hp => (Pattern.isMatch_of_finishes hp he hbounds).trans hgrammar) hvisible

theorem mediaType_matchesAt :
    MatchesAt ⟨"defs-descriptor.json", "/definitions/mediaType/pattern"⟩ IsMediaType :=
  have hl : library.find? ⟨"defs-descriptor.json", "/definitions/mediaType/pattern"⟩ =
      some (.string mediaTypeSource) := rfl
  matchesAt_of_finishes hl (by decide +kernel) mediaTypeExpr_finishes rfl
    (exists_parts_iff rfl).symm IsMediaType.visible

theorem digest_matchesAt :
    MatchesAt ⟨"defs-descriptor.json", "/definitions/digest/pattern"⟩ IsDigest :=
  have hl : library.find? ⟨"defs-descriptor.json", "/definitions/digest/pattern"⟩ =
      some (.string digestSource) := rfl
  matchesAt_of_finishes hl (by decide +kernel) digestExpr_finishes rfl
    (exists_parts_iff rfl).symm IsDigest.visible

theorem identifier_visible (m : MediaType) : ∀ c ∈ m.identifier.toList, IsVisible c :=
  visible_of_all (by cases m <;> decide)

theorem identifier_matchesAt {l : Location} {source : String} (m : MediaType)
    (hl : library.find? l = some (.string source))
    (hsource : (Pattern.compile source).toOption.map Pattern.expr =
      some (.whole (.fixed m.identifier.toList))) :
    MatchesAt l (· = m.identifier) :=
  matchesAt_of_expr _ hl hsource Pattern.isMatch_fixed fun hs => hs ▸ identifier_visible m

theorem manifestList_matchesAt :
    MatchesAt ⟨"manifest-list-schema.json", "/properties/mediaType/pattern"⟩
      (· = MediaType.manifestList.identifier) :=
  have hl : library.find? ⟨"manifest-list-schema.json", "/properties/mediaType/pattern"⟩ =
      some (.string manifestListSource) := rfl
  identifier_matchesAt .manifestList hl manifestListPattern_fixed

theorem manifest_matchesAt :
    MatchesAt ⟨"image-manifest-schema.json", "/properties/mediaType/pattern"⟩
      (· = MediaType.manifest.identifier) :=
  have hl : library.find? ⟨"image-manifest-schema.json", "/properties/mediaType/pattern"⟩ =
      some (.string manifestSource) := rfl
  identifier_matchesAt .manifest hl manifestPattern_fixed

/-- **What the embedded patterns match.**  Media types and digests have grammars of their own; the
two patterns for the type of a document match one identifier each. -/
theorem embedded_patterns :
    MatchesAt ⟨"defs-descriptor.json", "/definitions/mediaType/pattern"⟩ IsMediaType ∧
      MatchesAt ⟨"defs-descriptor.json", "/definitions/digest/pattern"⟩ IsDigest ∧
      MatchesAt ⟨"manifest-list-schema.json", "/properties/mediaType/pattern"⟩
        (· = MediaType.manifestList.identifier) ∧
      MatchesAt ⟨"image-manifest-schema.json", "/properties/mediaType/pattern"⟩
        (· = MediaType.manifest.identifier) :=
  ⟨mediaType_matchesAt, digest_matchesAt, manifestList_matchesAt, manifest_matchesAt⟩

end ManifestCheck.Builtin
