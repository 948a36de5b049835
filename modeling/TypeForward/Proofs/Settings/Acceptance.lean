import TypeForward.Proofs.Options.Construction
import TypeForward.Proofs.Settings.Sources

/-! Which values of merged settings pass the checks of their fields, and that all these ever answer is a value or a
fault of the configuration. -/
namespace TypeForward.Settings

/-- In a text for a list it makes no difference when the names are told apart. -/
theorem validField_taken (f : Field) (v : Value) : validField f (Project.taken f v) = validField f v := by
  cases f with
  | flag => rfl
  | names l =>
    have same : normalizeNames (splitNames v) = normalizeNames v := by cases v <;> rfl
    simp only [validField, Project.taken, validNames, same]

/-- Every default passes its own check. -/
theorem validField_defaults (f : Field) : validField f (Options.defaults f) = .ok (Options.defaults f) := by
  cases f <;> rfl

/-- What a field does not take is a fault of the configuration. -/
private theorem validField_error {f : Field} {v : Value} {fault : Fault} (h : validField f v = .error fault) :
    ∃ cause, fault = .configuration cause := by
  cases f with
  | flag g =>
    rw [validField] at h
    cases hv : validFlag v with
    | ok b => rw [hv] at h; cases h
    | error complaint => rw [hv] at h; exact ⟨_, (Except.error.inj h).symm⟩
  | names l =>
    rw [validField] at h
    cases hv : validNames v with
    | ok names => rw [hv] at h; cases h
    | error complaint => rw [hv] at h; exact ⟨_, (Except.error.inj h).symm⟩

theorem validField_flag {g : Flag} {v w : Value} (h : validField (.flag g) v = .ok w) :
    ∃ b, validFlag v = .ok b ∧ w = .bool b := by
  rw [validField] at h
  cases hv : validFlag v with
  | ok b => rw [hv] at h; exact ⟨b, rfl, (Except.ok.inj h).symm⟩
  | error complaint => rw [hv] at h; cases h

theorem validField_names {l : NameList} {v w : Value} (h : validField (.names l) v = .ok w) :
    ∃ names, validNames v = .ok names ∧ w = .tuple (names.map .text) := by
  rw [validField] at h
  cases hv : validNames v with
  | ok names => rw [hv] at h; exact ⟨names, rfl, (Except.ok.inj h).symm⟩
  | error complaint => rw [hv] at h; cases h

private theorem validSetting_error {settings : List (String × Value)} {f : Field} {fault : Fault}
    (h : validSetting settings f = .error fault) : ∃ cause, fault = .configuration cause := by
  unfold validSetting at h
  split at h
  · exact validField_error h
  · cases h

/-- Merged settings pass if each field does and there is no other setting. -/
theorem validate_cases (settings : List (String × Value)) :
    (∃ a, validate settings = .ok a ∧ (∀ f, validSetting settings f = .ok (a f)) ∧
        ∀ entry ∈ settings, Field.ofName? entry.1 ≠ none) ∨
      ((∃ cause, validate settings = .error (.configuration cause)) ∧
        ((∃ f fault, validSetting settings f = .error fault) ∨ ∃ entry ∈ settings, Field.ofName? entry.1 = none)) := by
  have refused {f : Field} {fault : Fault} (h : validSetting settings f = .error fault) :
      (∃ cause, (.error fault : Except Fault Options.Arguments) = .error (.configuration cause)) ∧
        ((∃ f fault, validSetting settings f = .error fault) ∨ ∃ entry ∈ settings, Field.ofName? entry.1 = none) := by
    obtain ⟨cause, rfl⟩ := validSetting_error h
    exact ⟨⟨cause, rfl⟩, .inl ⟨f, _, h⟩⟩
  unfold validate
  cases h₁ : validSetting settings (.flag .excludeForwards) with
  | error fault => exact .inr (refused h₁)
  | ok excludeForwards =>
  cases h₂ : validSetting settings (.flag .publicTypes) with
  | error fault => exact .inr (refused h₂)
  | ok publicTypes =>
  cases h₃ : validSetting settings (.names .included) with
  | error fault => exact .inr (refused h₃)
  | ok included =>
  cases h₄ : validSetting settings (.names .excluded) with
  | error fault => exact .inr (refused h₄)
  | ok excluded =>
  cases hu : settings.find? fun entry => (Field.ofName? entry.1).isNone with
  | some entry =>
    have unknown : Field.ofName? entry.1 = none := by simpa using List.find?_some hu
    exact .inr ⟨⟨_, rfl⟩, .inr ⟨entry, List.mem_of_find?_eq_some hu, unknown⟩⟩
  | none =>
    refine .inl ⟨_, rfl, ?_, ?_⟩
    · intro f
      cases f with
      | flag g => cases g with
        | excludeForwards => exact h₁
        | publicTypes => exact h₂
      | names l => cases l with
        | included => exact h₃
        | excluded => exact h₄
    · intro entry mem
      simpa using List.find?_eq_none.mp hu entry mem

/-- Where one field is refused and all others pass, that is what validation fails with. -/
theorem validate_of_refused {settings : List (String × Value)} {f : Field} {fault : Fault}
    (refused : validSetting settings f = .error fault)
    (others : ∀ g, g ≠ f → ∃ v, validSetting settings g = .ok v) : validate settings = .error fault := by
  unfold validate
  cases f with
  | flag g => cases g with
    | excludeForwards => rw [refused]; rfl
    | publicTypes =>
      obtain ⟨_, h₁⟩ := others (.flag .excludeForwards) nofun
      rw [h₁, refused]; rfl
  | names l =>
    obtain ⟨_, h₁⟩ := others (.flag .excludeForwards) nofun
    obtain ⟨_, h₂⟩ := others (.flag .publicTypes) nofun
    cases l with
    | included => rw [h₁, h₂, refused]; rfl
    | excluded =>
      obtain ⟨_, h₃⟩ := others (.names .included) nofun
      rw [h₁, h₂, h₃, refused]; rfl

/-- Where all fields pass, validation can only fail for a setting that is no field. -/
theorem validate_of_valid_fields {settings : List (String × Value)}
    (valid : ∀ f, ∃ v, validSetting settings f = .ok v) :
    (∃ a, validate settings = .ok a) ∨
      ∃ setting, validate settings = .error (complain setting none .unknownSetting) := by
  obtain ⟨_, h₁⟩ := valid (.flag .excludeForwards)
  obtain ⟨_, h₂⟩ := valid (.flag .publicTypes)
  obtain ⟨_, h₃⟩ := valid (.names .included)
  obtain ⟨_, h₄⟩ := valid (.names .excluded)
  unfold validate
  rw [h₁, h₂, h₃, h₄]
  cases settings.find? fun entry => (Field.ofName? entry.1).isNone with
  | none => exact .inl ⟨_, rfl⟩
  | some entry => exact .inr ⟨entry.1, rfl⟩

end TypeForward.Settings
