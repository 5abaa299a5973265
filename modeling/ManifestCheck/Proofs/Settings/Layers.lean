import ManifestCheck.Settings

/-!
# Layers of settings

Options lie over the variable, and the variable over the file.  Once the variable can be used, the
settings are those of a single layer that says in each respect what the uppermost of the three says
(`Settings.resolve_overlay`).  So what is covered makes no difference (`Settings.resolve_covered`).
The variable is the exception: one that cannot be used is an error whatever covers it.
-/

namespace ManifestCheck

/-- One layer over another: what the upper one says counts, and the lower one fills the gaps. -/
def Preferences.over (upper lower : Preferences) : Preferences where
  maxDepth := upper.maxDepth.or lower.maxDepth
  mediaType := upper.mediaType.or lower.mediaType
  format := upper.format.or lower.format

/-- What the variable says on the limit, or why it cannot be used. -/
def Loader.variableLimit (lookup : String → Option String) : Except LimitError (Option Nat) :=
  match lookup depthVariable with
  | none => .ok none
  | some _ => (ofVariables lookup).map fun l => some l.maxDepth

/-- The layer of a variable. -/
def Preferences.ofLimit (limit : Option Nat) : Preferences := { maxDepth := limit }

/-! ## The variable -/

namespace Loader

variable {lookup : String → Option String} {limit : Option Nat} {e : LimitError}

theorem ofVariables_of_unset (h : lookup depthVariable = none) : ofVariables lookup = .ok {} := by
  rw [ofVariables, h]

/-- A variable that can be used is not set, or it sets the limit of a loader. -/
theorem variableLimit_cases (h : variableLimit lookup = .ok limit) :
    lookup depthVariable = none ∧ limit = none ∨
      ∃ raw l, lookup depthVariable = some raw ∧ ofVariables lookup = .ok l ∧
        limit = some l.maxDepth := by
  unfold variableLimit at h
  cases hset : lookup depthVariable with
  | none =>
    rw [hset] at h
    cases h
    exact .inl ⟨rfl, rfl⟩
  | some raw =>
    rw [hset] at h
    cases hl : ofVariables lookup with
    | error e =>
      rw [hl] at h
      cases h
    | ok l =>
      rw [hl] at h
      cases h
      exact .inr ⟨raw, l, rfl, rfl, rfl⟩

theorem variableLimit_eq_error_iff :
    variableLimit lookup = .error e ↔ ofVariables lookup = .error e := by
  unfold variableLimit
  cases hset : lookup depthVariable with
  | none =>
    rw [ofVariables_of_unset hset]
    exact ⟨nofun, nofun⟩
  | some raw => cases ofVariables lookup <;> simp [Except.map]

theorem exists_variableLimit (h : ∃ l, ofVariables lookup = .ok l) :
    ∃ limit, variableLimit lookup = .ok limit := by
  obtain ⟨l, hl⟩ := h
  cases hlimit : variableLimit lookup with
  | error e => cases hl.symm.trans (variableLimit_eq_error_iff.mp hlimit)
  | ok limit => exact ⟨limit, rfl⟩

end Loader

namespace Settings

variable {file options : Preferences} {lookup lookup' : String → Option String}
  {limit : Option Nat} {e : LimitError}

/-! ## The three layers -/

theorem depth_eq_ok (h : Loader.variableLimit lookup = .ok limit) :
    depth file options lookup =
      .ok (((options.over (.over (.ofLimit limit) file)).maxDepth).getD 64) := by
  rcases Loader.variableLimit_cases h with ⟨hunset, rfl⟩ | ⟨raw, l, hset, hl, rfl⟩
  · rw [depth, hunset]
    cases hdepth : options.maxDepth <;> simp [Preferences.over, Preferences.ofLimit, hdepth]
  · rw [depth, hset, hl]
    cases hdepth : options.maxDepth <;> simp [Preferences.over, Preferences.ofLimit, hdepth]

theorem depth_eq_error (h : Loader.ofVariables lookup = .error e) :
    depth file options lookup = .error e := by
  cases hset : lookup depthVariable with
  | none => cases (Loader.ofVariables_of_unset hset).symm.trans h
  | some raw => rw [depth, hset, h]

/-- **The layers act as one.**  Unless the variable cannot be used, the settings are those of a
single file that says what the uppermost layer says. -/
theorem resolve_overlay (h : Loader.variableLimit lookup = .ok limit) :
    resolve file options lookup =
      resolve (options.over (.over (.ofLimit limit) file)) {} fun _ => none := by
  have hsingle : Loader.variableLimit (fun _ => none) = .ok none := rfl
  unfold resolve
  rw [depth_eq_ok h, depth_eq_ok hsingle]
  rfl

theorem resolve_eq_error (h : Loader.ofVariables lookup = .error e) :
    resolve file options lookup = .error (.limit e) := by
  rw [resolve, depth_eq_error h]

/-- Files that make no difference under the upper layers make none to the settings. -/
theorem resolve_congr {file' : Preferences} (h : ∀ limit, Loader.variableLimit lookup = .ok limit →
    options.over (.over (.ofLimit limit) file) = options.over (.over (.ofLimit limit) file')) :
    resolve file options lookup = resolve file' options lookup := by
  cases hlimit : Loader.variableLimit lookup with
  | error e =>
    have he := Loader.variableLimit_eq_error_iff.mp hlimit
    rw [resolve_eq_error he, resolve_eq_error he]
  | ok limit => rw [resolve_overlay hlimit, resolve_overlay hlimit, h limit hlimit]

/-- **What is covered makes no difference.**  A limit among the options covers that of the file and
every variable that can be used.  A variable that is set covers the limit of the file, even if it
cannot be used.  A media type or a format among the options covers that of the file.  But a variable
that cannot be used is an error under all options. -/
theorem resolve_covered (file options : Preferences) (lookup : String → Option String) :
    (options.maxDepth.isSome = true → ∀ lookup',
      (∃ l, Loader.ofVariables lookup = .ok l) → (∃ l, Loader.ofVariables lookup' = .ok l) →
        ∀ d d', resolve { file with maxDepth := d } options lookup =
          resolve { file with maxDepth := d' } options lookup') ∧
    (options.maxDepth.isSome = true ∨ (lookup depthVariable).isSome = true →
      ∀ d d', resolve { file with maxDepth := d } options lookup =
        resolve { file with maxDepth := d' } options lookup) ∧
    (options.mediaType.isSome = true →
      ∀ m m', resolve { file with mediaType := m } options lookup =
        resolve { file with mediaType := m' } options lookup) ∧
    (options.format.isSome = true →
      ∀ f f', resolve { file with format := f } options lookup =
        resolve { file with format := f' } options lookup) ∧
    (∀ e, Loader.ofVariables lookup = .error e → resolve file options lookup = .error (.limit e)) := by
  refine ⟨fun hd lookup' hl hl' d d' => ?_, fun hd d d' => ?_, fun hm m m' => ?_, fun hf f f' => ?_,
    fun e he => resolve_eq_error he⟩
  · obtain ⟨limit, hlimit⟩ := Loader.exists_variableLimit hl
    obtain ⟨limit', hlimit'⟩ := Loader.exists_variableLimit hl'
    obtain ⟨depth, hdepth⟩ := Option.isSome_iff_exists.mp hd
    rw [resolve_overlay hlimit, resolve_overlay hlimit']
    simp [Preferences.over, Preferences.ofLimit, hdepth]
  · refine resolve_congr fun limit hlimit => ?_
    rcases hd with hd | hset
    · obtain ⟨depth, hdepth⟩ := Option.isSome_iff_exists.mp hd
      simp [Preferences.over, hdepth]
    · rcases Loader.variableLimit_cases hlimit with ⟨hunset, -⟩ | ⟨raw, l, -, -, rfl⟩
      · rw [hunset] at hset
        cases hset
      · simp [Preferences.over, Preferences.ofLimit]
  · obtain ⟨name, hname⟩ := Option.isSome_iff_exists.mp hm
    exact resolve_congr fun limit _ => by simp [Preferences.over, hname]
  · obtain ⟨format, hformat⟩ := Option.isSome_iff_exists.mp hf
    exact resolve_congr fun limit _ => by simp [Preferences.over, hformat]

/-- Options that set the limit to four. -/
def fourDeep : Preferences := { maxDepth := some 4 }

/-- They cover limits of the file that are out of range, and a variable with another limit. -/
theorem resolve_covered_fourDeep :
    fourDeep.maxDepth.isSome = true ∧
      Loader.ofVariables (fun _ => some " 12 ") = .ok ⟨12⟩ ∧
        Loader.ofVariables (fun _ => none) = .ok ⟨64⟩ ∧
          resolve { maxDepth := some 0 } fourDeep (fun _ => some " 12 ") =
            resolve { maxDepth := some 700 } fourDeep (fun _ => none) ∧
          resolve { maxDepth := some 700 } fourDeep (fun _ => none) =
            .ok ⟨⟨4⟩, .manifestList, .text⟩ := by
  have hset : Loader.ofVariables (fun _ => some " 12 ") = .ok ⟨12⟩ := rfl
  have hunset : Loader.ofVariables (fun _ => none) = .ok ⟨64⟩ := rfl
  have hcovered := (resolve_covered {} fourDeep fun _ => some " 12 ").1 rfl (fun _ => none)
    ⟨_, hset⟩ ⟨_, hunset⟩ (some 0) (some 700)
  exact ⟨rfl, hset, hunset, hcovered, rfl⟩

/-- **An overridden variable is consulted**: with the same limit among the options there are
settings if it is not set, and none if it holds no count. -/
theorem fourDeep_refused :
    resolve {} fourDeep (fun _ => none) = .ok ⟨⟨4⟩, .manifestList, .text⟩ ∧
      resolve {} fourDeep (fun _ => some "lots") =
        .error (.limit (.badVariable "lots" .invalidDigit)) :=
  ⟨rfl, rfl⟩

end Settings

end ManifestCheck
