import RemoteObjects.Registry

namespace RemoteObjects.Registry

theorem toInt_handleNumbered {count : Nat} (within : count ≤ capacity) :
    (handleNumbered count).number.toInt = count := by
  have small : count < 2 ^ 31 := by
    unfold capacity at within
    omega
  exact Int32.toInt_ofNat_of_lt small

/-- Numbers within the capacity give different handles. -/
theorem handleNumbered_injective {first second : Nat} (firstWithin : first ≤ capacity)
    (secondWithin : second ≤ capacity) (same : handleNumbered first = handleNumbered second) :
    first = second := by
  have numbers := congrArg (fun handle : Handle => handle.number.toInt) same
  simp only [toInt_handleNumbered firstWithin, toInt_handleNumbered secondWithin] at numbers
  exact Int.ofNat_inj.mp numbers

theorem isInstance_handleNumbered {count : Nat} (positive : 0 < count)
    (within : count ≤ capacity) : (handleNumbered count).isInstance = true := by
  unfold Handle.isInstance
  rw [toInt_handleNumbered within]
  simpa using positive

/-- A key that has a handle keeps it, any other gets the next number while there is one. -/
theorem register_cases (registry : Registry) (key : RegistryKey) :
    (∃ handle, registry.entries.find? key = some handle ∧
        (registry.register key).result = .ok (.existing handle) ∧
        (registry.register key).state = registry) ∨
      (registry.entries.find? key = none ∧ registry.issued < capacity ∧
        (registry.register key).result = .ok (.fresh (handleNumbered (registry.issued + 1))) ∧
        (registry.register key).state =
          { entries := registry.entries.set key (handleNumbered (registry.issued + 1))
            issued := registry.issued + 1 }) ∨
      registry.entries.find? key = none ∧ (registry.register key).result = .error .exhausted ∧
        (registry.register key).state = registry := by
  unfold register
  cases found : registry.entries.find? key with
  | some handle => exact .inl ⟨handle, rfl, rfl, rfl⟩
  | none =>
      by_cases room : registry.issued < capacity
      · exact .inr (.inl ⟨rfl, room, by simp [room], by simp [room]⟩)
      · exact .inr (.inr ⟨rfl, by simp [room], by simp [room]⟩)

@[simp] theorem issued_unregister (registry : Registry) (key : RegistryKey) :
    (registry.unregister key).state.issued = registry.issued := by
  unfold unregister
  split <;> rfl

@[simp] theorem find?_unregister (registry : Registry) (key other : RegistryKey) :
    (registry.unregister key).state.entries.find? other =
      if key = other then none else registry.entries.find? other := by
  unfold unregister
  split
  · exact Association.find?_erase ..
  · by_cases same : key = other
    · simp_all
    · simp [same]

/-- The handles in use were issued, each to one key. -/
structure Sound (registry : Registry) : Prop where
  bounded : registry.issued ≤ capacity
  numbered : ∀ key handle, registry.entries.find? key = some handle →
    ∃ count, 0 < count ∧ count ≤ registry.issued ∧ handle = handleNumbered count
  distinct : ∀ first second handle, registry.entries.find? first = some handle →
    registry.entries.find? second = some handle → first = second

namespace Sound

theorem empty : Sound {} where
  bounded := Nat.zero_le _
  numbered := by simp
  distinct := by simp

variable {registry : Registry}

theorem isInstance (sound : registry.Sound) {key : RegistryKey} {handle : Handle}
    (found : registry.entries.find? key = some handle) : handle.isInstance = true := by
  obtain ⟨count, positive, within, rfl⟩ := sound.numbered key handle found
  exact isInstance_handleNumbered positive (Nat.le_trans within sound.bounded)

/-- The next handle is in use nowhere. -/
theorem next_unused (sound : registry.Sound) (room : registry.issued < capacity)
    (key : RegistryKey) :
    registry.entries.find? key ≠ some (handleNumbered (registry.issued + 1)) := by
  intro found
  obtain ⟨count, _, within, same⟩ := sound.numbered key _ found
  have equal := handleNumbered_injective (by omega) (by omega) same
  omega

theorem register (sound : registry.Sound) (key : RegistryKey) :
    (registry.register key).state.Sound := by
  rcases registry.register_cases key with ⟨_, _, _, state⟩ | ⟨_, room, _, state⟩ | ⟨_, _, state⟩
  · rw [state]
    exact sound
  · rw [state]
    refine ⟨room, ?_, ?_⟩
    · intro other handle found
      rw [Association.find?_set] at found
      split at found
      · exact ⟨registry.issued + 1, Nat.succ_pos _, Nat.le_refl _, (Option.some.inj found).symm⟩
      · obtain ⟨count, positive, within, same⟩ := sound.numbered other handle found
        exact ⟨count, positive, Nat.le_succ_of_le within, same⟩
    · intro first second handle firstFound secondFound
      rw [Association.find?_set] at firstFound secondFound
      split at firstFound <;> split at secondFound
      · simp_all
      · exact absurd (Option.some.inj firstFound ▸ secondFound) (sound.next_unused room second)
      · exact absurd (Option.some.inj secondFound ▸ firstFound) (sound.next_unused room first)
      · exact sound.distinct first second handle firstFound secondFound
  · rw [state]
    exact sound

theorem unregister (sound : registry.Sound) (key : RegistryKey) :
    (registry.unregister key).state.Sound := by
  have kept : ∀ other handle, (registry.unregister key).state.entries.find? other = some handle →
      registry.entries.find? other = some handle := by
    intro other handle found
    rw [find?_unregister] at found
    split at found
    · cases found
    · exact found
  refine ⟨?_, ?_, ?_⟩
  · rw [issued_unregister]
    exact sound.bounded
  · intro other handle found
    rw [issued_unregister]
    exact sound.numbered other handle (kept other handle found)
  · intro first second handle firstFound secondFound
    exact sound.distinct first second handle (kept first handle firstFound)
      (kept second handle secondFound)

end Sound

end RemoteObjects.Registry
