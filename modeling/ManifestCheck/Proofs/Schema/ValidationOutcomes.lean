import ManifestCheck.Schema.Registry

/-!
# Outcomes of validation

Validating bytes has four outcomes: there is no schema for the media type, the bytes do not load, the
document has violations, or it is valid.  Which of them it is goes by what is asked first: the media
type before any byte is read, then the stream, then the loader, and the schema last.  Each outcome
says just what was found at its own point (`Registry.validation_outcomes`).

A stream makes no other difference than that it may fail: cut into pieces of whatever size and
interrupted however often, it is validated as the bytes that it delivers (`drain_eq`).
-/

namespace ManifestCheck

/-! ## What a stream delivers -/

namespace Arrival

/-- The bytes that an arrival brings. -/
def delivered : Arrival → List UInt8
  | bytes chunk => chunk
  | interrupted | failed _ => []

/-- Why an arrival brings none, if it is a failure. -/
def cause? : Arrival → Option String
  | failed cause => some cause
  | bytes _ | interrupted => none

end Arrival

/-- Draining a stream ends in its first failure, or else in the bytes of all its arrivals.  Each of
them must bring something unless it is an interruption, for a stream ends where nothing comes. -/
theorem drain_eq {arrivals : List Arrival} (hbytes : .bytes [] ∉ arrivals) :
    drain arrivals =
      match arrivals.findSome? Arrival.cause? with
      | some cause => .error cause
      | none => .ok (arrivals.flatMap Arrival.delivered) := by
  induction arrivals with
  | nil => rfl
  | cons a rest ih =>
    have hrest := ih fun hmem => hbytes (List.mem_cons_of_mem _ hmem)
    cases a with
    | failed cause => rfl
    | interrupted => exact hrest
    | bytes chunk =>
      cases chunk with
      | nil => exact absurd List.mem_cons_self hbytes
      | cons b bs =>
        show (drain rest).map (fun more => b :: bs ++ more) = match rest.findSome? _ with
          | some cause => .error cause
          | none => .ok (b :: bs ++ rest.flatMap Arrival.delivered)
        rw [hrest]
        cases rest.findSome? Arrival.cause? with
        | some cause => rfl
        | none => rfl

/-! ## What comes first -/

namespace Registry

variable {r : Registry} {mediaType : String} {s : Schema}

theorem schema_of_lookup (h : r.schemas.lookup mediaType = some s) :
    r.schema mediaType = .ok s := by
  rw [schema, h]

theorem schema_of_unregistered (h : r.schemas.lookup mediaType = none) :
    r.schema mediaType = .error (.unregistered mediaType) := by
  rw [schema, h]

theorem violations_of_lookup (h : r.schemas.lookup mediaType = some s) (d : Document) :
    r.violations mediaType d = .ok (s.violations d) := by
  rw [violations, schema_of_lookup h]
  rfl

/-- Without a schema nothing is loaded. -/
theorem validateLoaded_of_unregistered (h : r.schemas.lookup mediaType = none)
    (load : Loader → Except LoadError Document) :
    r.validateLoaded mediaType load = .error (.noSchema (.unregistered mediaType)) := by
  rw [validateLoaded, schema_of_unregistered h]

/-- With a schema the outcome is the loader's error, or goes by the violations of what it loads. -/
theorem validateLoaded_of_lookup (h : r.schemas.lookup mediaType = some s)
    (load : Loader → Except LoadError Document) :
    r.validateLoaded mediaType load =
      match load r.loader with
      | .error e => .error (.unloadable e)
      | .ok d =>
        match s.violations d with
        | [] => .ok ()
        | vs => .error (.invalid mediaType vs) := by
  rw [validateLoaded, schema_of_lookup h]
  cases load r.loader with
  | error e => rfl
  | ok d =>
    simp only [validate, violations_of_lookup h]
    cases s.violations d with
    | nil => rfl
    | cons v vs => rfl

/-- A stream that fails is unreadable, and no other outcome is looked for. -/
theorem validateStream_of_failure (h : r.schemas.lookup mediaType = some s)
    {arrivals : List Arrival} (hbytes : .bytes [] ∉ arrivals) {cause : String}
    (hcause : arrivals.findSome? Arrival.cause? = some cause) :
    r.validateStream mediaType arrivals = .error (.unloadable (.unreadable cause)) := by
  rw [validateStream, validateLoaded_of_lookup h, Loader.loadStream, drain_eq hbytes, hcause]

/-- A stream that does not fail is as good as its bytes. -/
theorem validateStream_eq_validateBytes {arrivals : List Arrival} (hbytes : .bytes [] ∉ arrivals)
    (hcause : arrivals.findSome? Arrival.cause? = none) :
    r.validateStream mediaType arrivals =
      r.validateBytes mediaType (arrivals.flatMap Arrival.delivered) := by
  simp only [validateStream, validateBytes, Loader.loadStream, drain_eq hbytes, hcause]

/-! ## The outcomes for bytes -/

section Bytes

variable (h : r.schemas.lookup mediaType = some s) {bytes : List UInt8}

include h

theorem validateBytes_eq_unloadable_iff {e : LoadError} :
    r.validateBytes mediaType bytes = .error (.unloadable e) ↔ r.loader.load bytes = .error e := by
  rw [validateBytes, validateLoaded_of_lookup h]
  cases r.loader.load bytes with
  | error e' => simp
  | ok d => cases hvs : s.violations d <;> simp [hvs]

theorem validateBytes_eq_invalid_iff {m : String} {vs : List Violation} :
    r.validateBytes mediaType bytes = .error (.invalid m vs) ↔
      m = mediaType ∧ vs ≠ [] ∧ ∃ d, r.loader.load bytes = .ok d ∧ s.violations d = vs := by
  rw [validateBytes, validateLoaded_of_lookup h]
  cases r.loader.load bytes with
  | error e => simp
  | ok d =>
    cases hvs : s.violations d with
    | nil => simp [hvs]
    | cons v rest =>
      simp only [Except.error.injEq, ValidationError.invalid.injEq, Except.ok.injEq,
        exists_eq_left', hvs]
      constructor
      · intro h
        obtain ⟨rfl, rfl⟩ := h
        exact ⟨rfl, List.cons_ne_nil _ _, rfl⟩
      · intro h
        obtain ⟨rfl, -, rfl⟩ := h
        exact ⟨rfl, rfl⟩

theorem validateBytes_eq_ok_iff :
    r.validateBytes mediaType bytes = .ok () ↔
      ∃ d, r.loader.load bytes = .ok d ∧ s.violations d = [] := by
  rw [validateBytes, validateLoaded_of_lookup h]
  cases r.loader.load bytes with
  | error e => simp
  | ok d => cases hvs : s.violations d <;> simp [hvs]

theorem validateBytes_ne_noSchema (cause : SchemaError) :
    r.validateBytes mediaType bytes ≠ .error (.noSchema cause) := by
  rw [validateBytes, validateLoaded_of_lookup h]
  cases r.loader.load bytes with
  | error e => simp
  | ok d => cases hvs : s.violations d <;> simp [hvs]

end Bytes

/-- **Each outcome has its cause, and the first cause counts.**  Without a schema for the media type,
bytes and streams are refused for that alone.  With one, a stream that fails is unreadable, and any
other is validated as the bytes that it delivers.  Of bytes, those that the registry's own loader
refuses are reported with its error, those of a document with violations with all of these, which are
some, and all others are valid. -/
theorem validation_outcomes (r : Registry) (mediaType : String) (bytes : List UInt8)
    {arrivals : List Arrival} (hbytes : .bytes [] ∉ arrivals) :
    (r.schemas.lookup mediaType = none →
      r.validateStream mediaType arrivals = .error (.noSchema (.unregistered mediaType)) ∧
        r.validateBytes mediaType bytes = .error (.noSchema (.unregistered mediaType))) ∧
      ∀ s, r.schemas.lookup mediaType = some s →
        (∀ cause, arrivals.findSome? Arrival.cause? = some cause →
          r.validateStream mediaType arrivals = .error (.unloadable (.unreadable cause))) ∧
        (arrivals.findSome? Arrival.cause? = none →
          r.validateStream mediaType arrivals =
            r.validateBytes mediaType (arrivals.flatMap Arrival.delivered)) ∧
        (∀ e, r.validateBytes mediaType bytes = .error (.unloadable e) ↔
          r.loader.load bytes = .error e) ∧
        (∀ m vs, r.validateBytes mediaType bytes = .error (.invalid m vs) ↔
          m = mediaType ∧ vs ≠ [] ∧ ∃ d, r.loader.load bytes = .ok d ∧ s.violations d = vs) ∧
        (r.validateBytes mediaType bytes = .ok () ↔
          ∃ d, r.loader.load bytes = .ok d ∧ s.violations d = []) ∧
        ∀ cause, r.validateBytes mediaType bytes ≠ .error (.noSchema cause) := by
  refine ⟨fun hnone => ⟨?_, ?_⟩, fun s hs => ⟨fun cause hcause => ?_, fun hcause => ?_,
    fun e => ?_, fun m vs => ?_, ?_, fun cause => ?_⟩⟩
  · exact validateLoaded_of_unregistered hnone _
  · exact validateLoaded_of_unregistered hnone _
  · exact validateStream_of_failure hs hbytes hcause
  · exact validateStream_eq_validateBytes hbytes hcause
  · exact validateBytes_eq_unloadable_iff hs
  · exact validateBytes_eq_invalid_iff hs
  · exact validateBytes_eq_ok_iff hs
  · exact validateBytes_ne_noSchema hs cause

/-- A registry with one schema, for texts. -/
def texts : Registry where
  schemas := [("text", .node { types := some (TypeSet.ofList [.string]) } [] none none)]

/-- A text of two letters in two pieces, interrupted between the letters. -/
def pieces : List Arrival := [.bytes [34, 97], .interrupted, .bytes [98, 34]]

theorem validateStream_pieces :
    .bytes [] ∉ pieces ∧ texts.validateStream "text" pieces = .ok () := by
  have hbytes : .bytes [] ∉ pieces := by simp [pieces]
  have hload : (texts.loader.load (pieces.flatMap Arrival.delivered)).toOption.any (fun d =>
      ((texts.violations "text" d).toOption.any List.isEmpty)) = true := by decide +kernel
  obtain ⟨-, houtcomes⟩ :=
    validation_outcomes texts "text" (pieces.flatMap Arrival.delivered) hbytes
  obtain ⟨-, hstream, -, -, hok, -⟩ := houtcomes _ rfl
  refine ⟨hbytes, (hstream rfl).trans (hok.mpr ?_)⟩
  cases hl : texts.loader.load (pieces.flatMap Arrival.delivered) with
  | error e =>
    rw [hl] at hload
    cases hload
  | ok d =>
    rw [hl] at hload
    exact ⟨d, rfl, List.isEmpty_iff.mp hload⟩

end Registry

end ManifestCheck
