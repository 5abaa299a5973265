import Mathlib.Tactic.SplitIfs
import ManifestCheck.Proofs.Text.Fields
import ManifestCheck.Text.Escaped

/-!
# Escaped texts are told apart

Every character is shown in one of three forms: as itself, as a backslash and a letter, or as a
backslash and its code in braces (`Escaped.Shows`).  Which form it is, and where it ends, is told by
its first characters, and so a shown text can only be that of one text (`Escaped.render_injective`).
-/

namespace ManifestCheck.Escaped

/-! ## Codes -/

theorem exists_of_mem_hexDigits {n : Nat} {c : Char} (h : c ∈ hexDigits n) :
    ∃ d < 16, c = Nat.digitChar d := by
  induction n using Nat.strongRecOn with
  | ind n ih =>
    by_cases hn : n < 16
    · rw [hexDigits, Nat.toDigits_of_lt_base hn, List.mem_singleton] at h
      exact ⟨n, hn, h⟩
    · rw [hexDigits, Nat.toDigits_of_base_le (by decide) (Nat.not_lt.mp hn), List.mem_append,
        List.mem_singleton] at h
      rcases h with h | h
      · exact ih (n / 16) (by omega) h
      · exact ⟨n % 16, by omega, h⟩

theorem brace_not_mem_hexDigits (n : Nat) : '\x7d' ∉ hexDigits n := by
  intro h
  obtain ⟨d, hd, hc⟩ := exists_of_mem_hexDigits h
  exact (by decide : ∀ d < 16, '\x7d' ≠ Nat.digitChar d) d hd hc

theorem hexDigits_injective {n m : Nat} (h : hexDigits n = hexDigits m) : n = m := by
  have digit : ∀ d < 16, ∀ e < 16, Nat.digitChar d = Nat.digitChar e → d = e := by decide
  -- the last digit of one is the last digit of the other, and in front of it are shorter ones
  have one_digit : ∀ n m : Nat, n < 16 → 16 ≤ m → Nat.toDigits 16 n ≠ Nat.toDigits 16 m := by
    intro n m hn hm heq
    rw [Nat.toDigits_of_lt_base hn, Nat.toDigits_of_base_le (by decide) hm] at heq
    obtain ⟨hnil, -⟩ := List.append_inj' (heq.symm.trans (List.nil_append _).symm) rfl
    exact Nat.toDigits_ne_nil hnil
  induction n using Nat.strongRecOn generalizing m with
  | ind n ih =>
    rcases Nat.lt_or_ge n 16 with hn | hn <;> rcases Nat.lt_or_ge m 16 with hm | hm
    · rw [hexDigits, hexDigits, Nat.toDigits_of_lt_base hn, Nat.toDigits_of_lt_base hm] at h
      exact digit n hn m hm (List.singleton_inj.mp h)
    · exact absurd h (one_digit n m hn hm)
    · exact absurd h.symm (one_digit m n hm hn)
    · rw [hexDigits, hexDigits, Nat.toDigits_of_base_le (by decide) hn,
        Nat.toDigits_of_base_le (by decide) hm] at h
      obtain ⟨hfront, hlast⟩ := List.append_inj' h rfl
      have hquotient := ih (n / 16) (by omega) hfront
      have hremainder := digit _ (Nat.mod_lt n (by decide)) _ (Nat.mod_lt m (by decide))
        (List.singleton_inj.mp hlast)
      omega

/-! ## Characters -/

/-- The characters that are shown by a backslash and a letter. -/
def letters : List (Char × Char) :=
  [('\x00', '0'), ('\t', 't'), ('\r', 'r'), ('\n', 'n'), ('\\', '\\'), ('"', '"')]

/-- The forms in which a character is shown. -/
inductive Shows (c : Char) : List Char → Prop
  | plain (h : c ≠ '\\') : Shows c [c]
  | letter {e : Char} (h : (c, e) ∈ letters) : Shows c ['\\', e]
  | code : Shows c ('\\' :: 'u' :: '\x7b' :: (hexDigits c.toNat ++ ['\x7d']))

theorem shows_escape (c : Char) : Shows c (escape c) := by
  unfold escape
  split_ifs with h0 ht hr hn hs hq hshown hcode
  · exact .letter (by simp [letters, h0])
  · exact .letter (by simp [letters, ht])
  · exact .letter (by simp [letters, hr])
  · exact .letter (by simp [letters, hn])
  · exact .letter (by simp [letters, hs])
  · exact .letter (by simp [letters, hq])
  · exact .plain hs
  · exact .code
  · exact .plain hs

theorem Shows.ne_nil {c : Char} {shown : List Char} (h : Shows c shown) : shown ≠ [] := by
  cases h <;> exact List.cons_ne_nil _ _

/-- **What is shown of a character tells the character**, whatever is shown behind it. -/
theorem Shows.unique {c d : Char} {shown shown' more more' : List Char} (h : Shows c shown)
    (h' : Shows d shown') (heq : shown ++ more = shown' ++ more') : c = d ∧ more = more' := by
  have letter_ne_u : ∀ p ∈ letters, p.2 ≠ 'u' := by decide
  have letter_inj : ∀ p ∈ letters, ∀ q ∈ letters, p.2 = q.2 → p.1 = q.1 := by decide
  cases h with
  | plain hc =>
    cases h' with
    | plain _ => exact List.cons_eq_cons.mp heq
    | letter _ => exact absurd (List.cons_eq_cons.mp heq).1 hc
    | code => exact absurd (List.cons_eq_cons.mp heq).1 hc
  | letter he =>
    cases h' with
    | plain hd => exact absurd (List.cons_eq_cons.mp heq).1.symm hd
    | letter he' =>
      obtain ⟨-, hrest⟩ := List.cons_eq_cons.mp heq
      obtain ⟨rfl, hmore⟩ := List.cons_eq_cons.mp hrest
      exact ⟨letter_inj _ he _ he' rfl, hmore⟩
    | code =>
      obtain ⟨-, hrest⟩ := List.cons_eq_cons.mp heq
      exact absurd (List.cons_eq_cons.mp hrest).1 (letter_ne_u _ he)
  | code =>
    cases h' with
    | plain hd => exact absurd (List.cons_eq_cons.mp heq).1.symm hd
    | letter he' =>
      obtain ⟨-, hrest⟩ := List.cons_eq_cons.mp heq
      exact absurd (List.cons_eq_cons.mp hrest).1.symm (letter_ne_u _ he')
    | code =>
      simp only [List.cons_append, List.append_assoc, List.nil_append, List.cons.injEq,
        true_and] at heq
      obtain ⟨hcode, hmore⟩ := Text.append_separator_inj (brace_not_mem_hexDigits _)
        (brace_not_mem_hexDigits _) heq
      exact ⟨Char.toNat_inj.mp (hexDigits_injective hcode), hmore⟩

/-! ## Texts -/

theorem flatMap_escape_injective {cs ds : List Char}
    (h : cs.flatMap escape = ds.flatMap escape) : cs = ds := by
  induction cs generalizing ds with
  | nil =>
    cases ds with
    | nil => rfl
    | cons d ds =>
      have hnil := (List.append_eq_nil_iff.mp h.symm).1
      exact absurd hnil (shows_escape d).ne_nil
  | cons c cs ih =>
    cases ds with
    | nil =>
      have hnil := (List.append_eq_nil_iff.mp h).1
      exact absurd hnil (shows_escape c).ne_nil
    | cons d ds =>
      obtain ⟨rfl, hrest⟩ := (shows_escape c).unique (shows_escape d) h
      rw [ih hrest]

/-- **Different texts are shown differently.** -/
theorem render_injective {text text' : String} (h : render text = render text') : text = text' := by
  have hchars := String.ofList_injective h
  have hbody := List.append_cancel_right (List.cons_eq_cons.mp hchars).2
  exact String.toList_injective (flatMap_escape_injective hbody)

end ManifestCheck.Escaped
