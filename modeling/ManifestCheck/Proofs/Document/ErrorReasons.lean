import ManifestCheck.Proofs.Number.NumeralReading

/-!
# The reasons of syntax errors

Most reasons for which reading stops are fixed words.  Only where the text of a number was wanted
can a reason hold something of the bytes that were read, and this is the literal of a number that
was read to its end (`SyntaxReason.QuotesLiterals`).

A reader fails with a reason of its own or hands on the error of a reader below it.  So each reader
is an instance of `FailsPlainly` that is found from the instances of the readers it uses
(`FailsPlainly.handed`), up to the one for whole documents, which is by induction on the depth.
-/

namespace ManifestCheck

/-- What a reason quotes, if anything, is the literal of a number. -/
def SyntaxReason.QuotesLiterals : SyntaxReason → Prop
  | .badNumberText cause => cause.QuotesLiterals
  | .notNumberText (.integer literal) => (⟨literal⟩ : Number).IsLiteral
  | _ => True

/-- If reading fails, then for a reason that quotes literals only. -/
class FailsPlainly {α : Type} (r : Except SyntaxError α) : Prop where
  quotesLiterals : ∀ e, r = .error e → e.reason.QuotesLiterals

namespace FailsPlainly

variable {α β : Type} {n : Nat} {c : Cursor}

theorem ok (a : α) : FailsPlainly (.ok a) := ⟨nofun⟩

theorem error {reason : SyntaxReason} {p : Position} (h : reason.QuotesLiterals := by trivial) :
    FailsPlainly (.error ⟨reason, p⟩ : Except SyntaxError α) := by
  refine ⟨fun e he => ?_⟩
  cases he
  exact h

/-- An error that is handed on. -/
theorem handed {r : Except SyntaxError α} {e : SyntaxError} [h : FailsPlainly r]
    (he : r = .error e) : FailsPlainly (.error e : Except SyntaxError β) := by
  refine ⟨fun e' he' => ?_⟩
  cases he'
  exact h.quotesLiterals e he

theorem andThen {k m : Nat} {r : Except SyntaxError (Step m c α)}
    {f : (s : Step m c α) → Except SyntaxError (Step n s.cursor β)} {hk : k ≤ m + n}
    [FailsPlainly r] (hf : ∀ s, FailsPlainly (f s)) : FailsPlainly (Step.andThen r f hk) := by
  unfold Step.andThen
  split
  · rename_i e _
    exact .handed (r := (.error e : Except SyntaxError (Step m c α))) rfl
  · rename_i s _
    have := hf s
    split
    · exact .handed ‹_›
    · exact .ok _

end FailsPlainly

/-! ## Words and strings -/

instance readWord_failsPlainly (expected : List Char) (c : Cursor) :
    FailsPlainly (readWord expected c) := by
  fun_induction readWord expected c <;> first | exact .ok _ | exact .error | exact .handed ‹_›

instance readHexQuad_failsPlainly (c : Cursor) : FailsPlainly (readHexQuad c) := by
  fun_cases readHexQuad c <;> first | exact .ok _ | exact .error

instance readLowSurrogate_failsPlainly (high : Nat) (c : Cursor) :
    FailsPlainly (readLowSurrogate high c) := by
  fun_cases readLowSurrogate high c <;> first | exact .ok _ | exact .error | exact .handed ‹_›

instance readCodeEscape_failsPlainly (c : Cursor) : FailsPlainly (readCodeEscape c) := by
  refine .andThen fun s => ?_
  split
  · exact .error
  · split
    · exact .ok _
    · split
      · exact .handed ‹_›
      · exact .ok _

instance readEscape_failsPlainly (c : Cursor) : FailsPlainly (readEscape c) := by
  fun_cases readEscape c <;> first | exact .ok _ | exact .error | exact .handed ‹_›

instance readStringBytes_failsPlainly (c : Cursor) : FailsPlainly (readStringBytes c) := by
  fun_induction readStringBytes c <;>
    first | exact .ok _ | exact .error | exact .handed ‹_›

instance readString_failsPlainly (c : Cursor) : FailsPlainly (readString c) := by
  fun_cases readString c <;> first | exact .ok _ | exact .error | exact .handed ‹_›

/-! ## Numbers -/

theorem readExponentDigits_reason {c : Cursor} {e : NumberFault}
    (h : readExponentDigits c = .error e) : e.1.reason.QuotesLiterals := by
  unfold readExponentDigits at h
  repeat' split at h
  all_goals
    cases h
    try trivial

theorem readExponent_reason {c : Cursor} {e : NumberFault} (h : readExponent c = .error e) :
    e.1.reason.QuotesLiterals := by
  unfold readExponent at h
  split at h
  · cases h
  · split at h
    · dsimp only at h
      split at h
      · cases h
        exact readExponentDigits_reason ‹_›
      · cases h
    · cases h

theorem readFraction_reason {c : Cursor} {e : NumberFault} (h : readFraction c = .error e) :
    e.1.reason.QuotesLiterals := by
  unfold readFraction at h
  dsimp only at h
  repeat' split at h
  all_goals
    cases h
    try trivial

theorem readWhole_reason {c : Cursor} {e : NumberFault} (h : readWhole c = .error e) :
    e.1.reason.QuotesLiterals := by
  unfold readWhole at h
  repeat' split at h
  all_goals
    cases h
    try trivial

theorem readNumber_reason {c : Cursor} {e : NumberFault} (h : readNumber c = .error e) :
    e.1.reason.QuotesLiterals := by
  unfold readNumber at h
  dsimp only at h
  split at h
  · cases h
    exact readWhole_reason ‹_›
  · split at h
    · cases h
      exact readFraction_reason ‹_›
    · split at h
      · cases h
        exact readExponent_reason ‹_›
      · cases h

instance readNumberText_failsPlainly (bytes : List UInt8) :
    FailsPlainly (readNumberText bytes) := by
  fun_cases readNumberText bytes with
  | case2 c b _ _ outcome behind h =>
    split at h
    · split at h
      · cases h
        exact ⟨fun e he => by cases he; exact readNumber_reason ‹_›⟩
      · cases h
        exact .ok _
    · cases h
      exact .error
  | _ => exact .error

/-! ## Objects that stand for a number -/

instance readColon_failsPlainly (c : Cursor) : FailsPlainly (readColon c) := by
  fun_cases readColon c <;> first | exact .ok _ | exact .error

instance readNumberEnd_failsPlainly (c : Cursor) : FailsPlainly (readNumberEnd c) := by
  fun_cases readNumberEnd c <;> first | exact .ok _ | exact .error

theorem worded_quotesLiterals {c : Cursor} {word : String} {found : FoundValue}
    (h : (SyntaxReason.notNumberText found).QuotesLiterals) :
    (rejectNumberValue.worded c word found).reason.QuotesLiterals := by
  unfold rejectNumberValue.worded
  split
  · exact (readWord_failsPlainly _ c).quotesLiterals _ ‹_›
  · exact h

/-- Here a literal is quoted, and it is one that was read. -/
theorem rejectNumberValue_quotesLiterals (c : Cursor) :
    (rejectNumberValue c).reason.QuotesLiterals := by
  fun_cases rejectNumberValue c with
  | case2 | case3 | case4 => exact worded_quotesLiterals trivial
  | case5 _ _ _ _ _ _ _ e stopped h => exact readNumber_reason (e := (e, stopped)) h
  | case6 _ _ _ _ _ _ _ s hs =>
    unfold rejectNumberValue.foundNumber
    split
    · split
      · exact readNumber_isLiteral hs
      · trivial
    · trivial
  | _ => trivial

instance readNumberValue_failsPlainly (c : Cursor) : FailsPlainly (readNumberValue c) := by
  fun_cases readNumberValue c with
  | case1 => exact .error
  | case2 => exact .handed ‹_›
  | case3 => exact .error ((readNumberText_failsPlainly _).quotesLiterals _ ‹_›)
  | case4 => exact .ok _
  | case5 => exact ⟨fun e he => by cases he; exact rejectNumberValue_quotesLiterals _⟩

instance readNumberObject_failsPlainly (c : Cursor) : FailsPlainly (readNumberObject c) := by
  refine .andThen fun colon => ?_
  split
  · exact .handed ‹_›
  · split
    · exact .handed ‹_›
    · exact .ok _

/-! ## Containers and values -/

instance readKey_failsPlainly (first : Bool) (c : Cursor) : FailsPlainly (readKey first c) := by
  fun_cases readKey first c <;> first | exact .ok _ | exact .error | exact .handed ‹_›

section Containers

variable {element : (c : Cursor) → Reading c Document} [∀ c, FailsPlainly (element c)]

instance readElements_failsPlainly (first : Bool) (c : Cursor) :
    FailsPlainly (readElements element first c) := by
  fun_induction readElements element first c <;>
    first | exact .ok _ | exact .error | exact .handed ‹_›

instance readMember_failsPlainly (c : Cursor) : FailsPlainly (readMember element c) :=
  .andThen fun _ => inferInstance

instance readMembers_failsPlainly (c : Cursor) : FailsPlainly (readMembers element c) := by
  fun_induction readMembers element c <;> first | exact .ok _ | exact .handed ‹_›

instance readObject_failsPlainly (c : Cursor) : FailsPlainly (readObject element c) := by
  fun_cases readObject element c <;> first | exact .ok _ | exact .handed ‹_›

end Containers

theorem readValueWith_failsPlainly {inner : Option ((c : Cursor) → Reading c Document)}
    (hinner : ∀ element ∈ inner, ∀ c, FailsPlainly (element c)) (c : Cursor) :
    FailsPlainly (readValueWith inner c) := by
  have worded : ∀ word d h blanks, FailsPlainly (readValueWith.worded c word d h blanks) := by
    intro word d h blanks
    unfold readValueWith.worded
    split
    · exact .handed ‹_›
    · exact .ok _
  fun_cases readValueWith inner c with
  | case2 | case3 | case4 => exact worded _ _ _ _
  | case5 => exact ⟨fun e he => by cases he; exact readNumber_reason ‹_›⟩
  | case10 | case13 =>
    have := hinner _ rfl
    exact .handed ‹_›
  | _ => first | exact .ok _ | exact .error | exact .handed ‹_›

instance readValue_failsPlainly (depth : Nat) (c : Cursor) : FailsPlainly (readValue depth c) := by
  induction depth generalizing c with
  | zero => exact readValueWith_failsPlainly (fun _ h => absurd h (Option.not_mem_none _)) c
  | succ depth ih =>
    refine readValueWith_failsPlainly (fun element h => ?_) c
    cases h
    exact ih

/-- **If reading a document fails, the reason quotes nothing but literals of numbers.** -/
instance Document.read_failsPlainly (bytes : List UInt8) : FailsPlainly (Document.read bytes) := by
  fun_cases Document.read bytes <;> first | exact .ok _ | exact .error | exact .handed ‹_›

end ManifestCheck
