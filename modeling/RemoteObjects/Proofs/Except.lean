namespace RemoteObjects

variable {ε δ α β : Type}

/-- The failure with which a computation ends. -/
def failureOf? : Except ε α → Option ε
  | .ok _ => none
  | .error failure => some failure

theorem failureOf?_eq_none_iff {result : Except ε α} :
    failureOf? result = none ↔ ∃ value, result = .ok value := by
  cases result <;> simp [failureOf?]

/-- Telling a failure in other words does not turn it into a success. -/
theorem mapError_eq_ok_iff {tell : ε → δ} {result : Except ε α} {value : α} :
    result.mapError tell = .ok value ↔ result = .ok value := by
  constructor
  · intro told
    cases result with
    | error failure => cases told
    | ok found =>
        cases told
        rfl
  · rintro rfl
    rfl

theorem bind_eq_ok_iff {first : Except ε α} {next : α → Except ε β} {value : β} :
    (first >>= next) = .ok value ↔ ∃ found, first = .ok found ∧ next found = .ok value := by
  cases first <;> simp [bind, Except.bind]

theorem bind_succeeds_iff {first : Except ε α} {next : α → Except ε β} :
    (∃ value, (first >>= next) = .ok value) ↔
      ∃ found, first = .ok found ∧ ∃ value, next found = .ok value := by
  simp only [bind_eq_ok_iff]
  exact ⟨fun ⟨value, found, first, next⟩ => ⟨found, first, value, next⟩,
    fun ⟨found, first, value, next⟩ => ⟨value, found, first, next⟩⟩

/-- What follows a check runs exactly if the check passes. -/
theorem check_succeeds_iff {check : Except ε Unit} {next : Except ε β} :
    (∃ value, (check >>= fun _ => next) = .ok value) ↔
      check = .ok () ∧ ∃ value, next = .ok value := by
  rw [bind_succeeds_iff]
  exact ⟨fun ⟨_, passed, runs⟩ => ⟨passed, runs⟩, fun ⟨passed, runs⟩ => ⟨(), passed, runs⟩⟩

end RemoteObjects
