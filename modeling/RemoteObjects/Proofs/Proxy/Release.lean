import RemoteObjects.Proofs.Proxy.Agreement

namespace RemoteObjects

namespace Registry

/-- What one move of a proxy can do to the registry. -/
inductive Moved (registry : Registry) : Registry → Prop where
  | stays : Moved registry registry
  | registers (key : RegistryKey) : Moved registry (registry.register key).state
  | unregisters (key : RegistryKey) : Moved registry (registry.unregister key).state
  | retracts (key : RegistryKey) (absent : registry.entries.find? key = none) :
      Moved registry ((registry.register key).state.unregister key).state

/-- All that is found at a later moment was there before or has a number that was not issued then. -/
structure Since (earlier later : Registry) : Prop where
  issued : earlier.issued ≤ later.issued
  entries : ∀ key handle, later.entries.find? key = some handle →
    earlier.entries.find? key = some handle ∨
      ∃ count, earlier.issued < count ∧ count ≤ later.issued ∧ handle = handleNumbered count

namespace Since

theorem refl (registry : Registry) : registry.Since registry :=
  ⟨Nat.le_refl _, fun _ _ found => .inl found⟩

variable {earlier later : Registry}

theorem register (since : earlier.Since later) (key : RegistryKey) :
    earlier.Since (later.register key).state := by
  rcases later.register_cases key with ⟨_, _, _, state⟩ | ⟨_, _, _, state⟩ | ⟨_, _, state⟩
  · rw [state]
    exact since
  · rw [state]
    refine ⟨Nat.le_succ_of_le since.issued, ?_⟩
    intro other handle found
    rw [Association.find?_set] at found
    split at found
    · exact .inr ⟨later.issued + 1, Nat.lt_succ_of_le since.issued, Nat.le_refl _,
        (Option.some.inj found).symm⟩
    · rcases since.entries other handle found with known | ⟨count, above, within, same⟩
      · exact .inl known
      · exact .inr ⟨count, above, Nat.le_succ_of_le within, same⟩
  · rw [state]
    exact since

theorem unregister (since : earlier.Since later) (key : RegistryKey) :
    earlier.Since (later.unregister key).state := by
  refine ⟨by simpa using since.issued, ?_⟩
  intro other handle found
  rw [find?_unregister] at found
  split at found
  · cases found
  · simpa using since.entries other handle found

theorem moved (since : earlier.Since later) {next : Registry} (moved : later.Moved next) :
    earlier.Since next := by
  cases moved with
  | stays => exact since
  | registers key => exact since.register key
  | unregisters key => exact since.unregister key
  | retracts key absent => exact (since.register key).unregister key

end Since

/-- An entry keeps its handle or goes away. -/
theorem Moved.keeps_or_removes {registry next : Registry} (moved : registry.Moved next)
    {key : RegistryKey} {handle : Handle} (found : registry.entries.find? key = some handle) :
    next.entries.find? key = some handle ∨ next.entries.find? key = none := by
  have registered (other : RegistryKey) :
      (registry.register other).state.entries.find? key = some handle := by
    rcases registry.register_cases other with ⟨_, _, _, state⟩ | ⟨absent, _, _, state⟩ | ⟨_, _, state⟩
    · rwa [state]
    · have apart : other ≠ key := by
        rintro rfl
        simp [found] at absent
      rw [state, Association.find?_set, if_neg apart, found]
    · rwa [state]
  cases moved with
  | stays => exact .inl found
  | registers other => exact .inl (registered other)
  | unregisters other =>
      rw [find?_unregister, found]
      by_cases same : other = key
      · exact .inr (if_pos same)
      · exact .inl (if_neg same)
  | retracts other absent =>
      have apart : other ≠ key := by
        rintro rfl
        simp [found] at absent
      rw [find?_unregister, if_neg apart]
      exact .inl (registered other)

end Registry

namespace Proxy

theorem Operation.Begins.moved {registry next : Registry} {operation : Operation} {begun : Begun}
    (begins : operation.Begins registry next begun) : registry.Moved next := by
  cases begins with
  | sends pending enrolled =>
      rw [enrolled]
      unfold Operation.enrolled
      split
      · exact .registers _
      · exact .stays
  | ends result unchanged => exact unchanged ▸ .stays
  | retracts result object absent retracted => exact retracted ▸ .retracts _ absent

namespace Shared

theorem moved_after (shared : Shared) (move : Move) :
    shared.registry.Moved (shared.after move).registry := by
  cases move with
  | start policy enclave operation =>
      have moved := (begin_begins policy enclave shared.registry operation).moved
      simp only [Shared.after]
      split <;> exact moved
  | finish place outcome =>
      simp only [Shared.after]
      split
      · exact .stays
      · rename_i enclave pending waits
        rcases finish_state enclave shared.registry pending outcome with
          unchanged | ⟨object, _, removed⟩
        · rw [unchanged]
          exact .stays
        · rw [removed]
          exact .unregisters _
  | register key => exact .registers key
  | unregister key => exact .unregisters key

theorem since_run {earlier : Registry} {shared : Shared} (since : earlier.Since shared.registry)
    (moves : List Move) : earlier.Since (shared.run moves).registry := by
  induction moves generalizing shared with
  | nil => exact since
  | cons move moves ih => exact ih (since.moved (shared.moved_after move))

/-- An entry keeps its handle unless its key is absent at some moment. -/
theorem keeps_or_absent {shared : Shared} {key : RegistryKey} {handle : Handle}
    (found : shared.registry.entries.find? key = some handle) (moves : List Move) :
    (shared.run moves).registry.entries.find? key = some handle ∨
      ∃ count, (shared.run (moves.take count)).registry.entries.find? key = none := by
  induction moves generalizing shared with
  | nil => exact .inl found
  | cons move moves ih =>
      rcases (shared.moved_after move).keeps_or_removes found with kept | removed
      · rcases ih kept with last | ⟨count, absent⟩
        · exact .inl last
        · exact .inr ⟨count + 1, absent⟩
      · exact .inr ⟨1, removed⟩

/-- The registry after some moves of the others, while an operation waits that has begun. -/
def whileWaiting (shared : Shared) (policy : Policy) (enclave : String) (operation : Operation)
    (moves : List Move) : Registry :=
  let begun := Proxy.begin policy enclave shared.registry operation
  (run { shared with registry := begun.state } moves).registry

end Shared

variable {policy : Policy} {enclave : String} {registry : Registry} {operation : Operation}
  {pending : Pending}

/-- While its request is sent, an operation on an object has the handle under which this object is
registered. -/
theorem begin_sending_holds
    (sending : (Proxy.begin policy enclave registry operation).result.begun = .sending pending)
    {object : ObjectId} (works : operation.action.object? = some object) :
    (Proxy.begin policy enclave registry operation).state.entries.find? (operation.key object) =
      some pending.handle := by
  obtain ⟨handle, target, _, rfl⟩ := begin_sending_target sending
  have begins := begin_begins policy enclave registry operation
  rw [sending] at begins
  have looked (target : (registry.lookup (operation.key object)).mapError
      (fun failure => (.error (.ofRegistry failure) : Result)) = .ok handle) :
      registry.entries.find? (operation.key object) = some handle := by
    unfold Registry.lookup at target
    cases entry : registry.entries.find? (operation.key object) with
    | none => simp [entry, Except.mapError] at target
    | some known => simpa [entry, Except.mapError] using target
  cases begins with
  | sends _ enrolled =>
      rw [enrolled]
      obtain ⟨className, action⟩ := operation
      cases action with
      | construct other types arguments =>
          cases works
          simp only [Operation.target] at target
          simp only [Operation.enrolled]
          rcases registry.register_cases (Operation.key ⟨className, .construct object types arguments⟩
              object) with ⟨_, _, result, _⟩ | ⟨_, _, result, state⟩ | ⟨_, result, _⟩
          · simp [result] at target
          · rw [result] at target
            cases target
            simp [state, Operation.pending]
          · simp [result] at target
      | invoke other method types arguments =>
          cases works
          exact looked target
      | finalize other =>
          cases works
          exact looked target
      | readField other name =>
          cases works
          exact looked target
      | writeField other name value =>
          cases works
          exact looked target
      | readStaticField name => cases works
      | writeStaticField name value => cases works

/-- What is gone when an operation returns is the entry of the object on which it works. -/
theorem finish_releases {outcome : Except Transport.Failure (Option Reply)} {key : RegistryKey}
    {found : Handle} (present : registry.entries.find? key = some found)
    (gone : (finish enclave registry pending outcome).state.entries.find? key = none) :
    ∃ object, pending.operation.action.object? = some object ∧
      key = pending.operation.key object := by
  rcases finish_state enclave registry pending outcome with
    unchanged | ⟨object, works, removed⟩
  · rw [unchanged, present] at gone
    cases gone
  · refine ⟨object, works, ?_⟩
    rw [removed, Registry.find?_unregister, present] at gone
    by_contra apart
    simp [Ne.symm apart] at gone

/-- An operation that returns takes nothing out of the registry but the entry of its own object. This may be
that of a later construction if the object was out of the registry meanwhile. -/
theorem release_own_unless_renewed (before meanwhile : List Shared.Move) (policy : Policy)
    (enclave : String) (operation : Operation)
    (outcome : Except Transport.Failure (Option Reply)) :
    let shared := Shared.run {} before
    let begun := Proxy.begin policy enclave shared.registry operation
    let waited := shared.whileWaiting policy enclave operation
    (∀ result, begun.result.begun = .finished result →
        ∀ key, begun.state.entries.find? key = shared.registry.entries.find? key) ∧
      ∀ pending, begun.result.begun = .sending pending →
        ∀ key found, (waited meanwhile).entries.find? key = some found →
          (finish enclave (waited meanwhile) pending outcome).state.entries.find? key = none →
            operation.className = key.className ∧ operation.action.object? = some key.object ∧
              (found = pending.handle ∨
                pending.handle.number < found.number ∧
                  ∃ count, (waited (meanwhile.take count)).entries.find? key = none) := by
  intro shared begun waited
  have sound : begun.state.Sound :=
    (Registry.Sound.run .empty before).begins (begin_begins policy enclave shared.registry operation)
  refine ⟨?_, ?_⟩
  · intro result finished
    cases transition_finished finished with
    | quiet entries issued => exact entries
  · intro pending sending key found present gone
    obtain ⟨object, works, rfl⟩ := finish_releases present gone
    obtain ⟨handle, _, _, rfl⟩ := begin_sending_target sending
    have held := begin_sending_holds sending works
    refine ⟨rfl, works, ?_⟩
    rcases (Shared.since_run (.refl begun.state) meanwhile).entries _ found present with
      known | ⟨count, above, within, rfl⟩
    · exact .inl (Option.some.inj (known.symm.trans held))
    · right
      obtain ⟨own, _, ownWithin, same⟩ := sound.numbered _ _ held
      have ownNumber := Registry.toInt_handleNumbered (Nat.le_trans ownWithin sound.bounded)
      have bounded : (waited meanwhile).issued ≤ Registry.capacity := (sound.run meanwhile).bounded
      have number := Registry.toInt_handleNumbered (Nat.le_trans within bounded)
      have less : (operation.pending handle).handle.number <
          (Registry.handleNumbered count).number := by
        rw [same, Int32.lt_iff_toInt_lt, number, ownNumber]
        omega
      refine ⟨less, ?_⟩
      let others : Shared := { shared with registry := begun.state }
      rcases others.keeps_or_absent held meanwhile with kept | absent
      · rw [Option.some.inj (present.symm.trans kept)] at less
        exact (Int32.lt_irrefl less).elim
      · exact absent

/-- A construction waits while its object is finalized and constructed again. Then its sending fails,
and the entry with the second handle goes away. -/
theorem release_own_unless_renewed_late :
    let allow : Policy := fun _ _ => true
    let construct : Operation := ⟨"demo.Foo", .construct "a" [] []⟩
    let finalize : Operation := ⟨"demo.Foo", .finalize "a"⟩
    let key : RegistryKey := ⟨"demo.Foo", "a"⟩
    let before : List Shared.Move := [.register ⟨"demo.Foo", "b"⟩]
    let meanwhile : List Shared.Move :=
      [.start allow "orange" finalize, .finish 0 (.ok none), .start allow "orange" construct,
        .finish 0 (.ok none)]
    let pending := construct.pending ⟨2⟩
    (Proxy.begin allow "orange" (Shared.run {} before).registry construct).result.begun =
        .sending pending ∧
      ((Shared.run {} before).whileWaiting allow "orange" construct meanwhile).entries.find? key =
        some ⟨3⟩ ∧
      (finish "orange" ((Shared.run {} before).whileWaiting allow "orange" construct meanwhile) pending
        (.error .timeout)).state.entries.find? key = none ∧
      pending.handle.number < 3 ∧
      ∃ count, ((Shared.run {} before).whileWaiting allow "orange" construct
        (meanwhile.take count)).entries.find? key = none := by
  intro allow construct finalize key before meanwhile pending
  have sending : (Proxy.begin allow "orange" (Shared.run {} before).registry
      construct).result.begun = .sending pending := rfl
  have present : ((Shared.run {} before).whileWaiting allow "orange" construct
      meanwhile).entries.find? key = some ⟨3⟩ := by
    decide +kernel
  have gone : (finish "orange" ((Shared.run {} before).whileWaiting allow "orange" construct meanwhile)
      pending (.error .timeout)).state.entries.find? key = none := by
    decide +kernel
  have returned := (release_own_unless_renewed before meanwhile allow "orange" construct
    (.error .timeout)).2 pending sending key ⟨3⟩ present gone
  exact ⟨sending, present, gone, returned.2.2.resolve_left (by decide)⟩

/-- A finalization of the handle 1 waits while another one returns, and the object gets the handle 2.
When the first one returns too, the entry with the handle 2 goes away. In the same way a construction
that issued the handle 1 and fails takes the entry with the handle 2 away. -/
theorem late_return_releases_later_handle :
    let start (action : Action) : Shared.Move :=
      .start (fun _ _ => true) "orange" ⟨"demo.Foo", action⟩
    let key : RegistryKey := ⟨"demo.Foo", "a"⟩
    let finalizing := Shared.run {}
      [start (.construct "a" [] []), .finish 0 (.ok none), start (.finalize "a"),
        start (.finalize "a"), .finish 1 (.ok none), start (.construct "a" [] []),
        .finish 1 (.ok none)]
    let constructing := Shared.run {}
      [start (.construct "a" [] []), start (.finalize "a"), .finish 1 (.ok none),
        start (.construct "a" [] []), .finish 1 (.ok none)]
    (finalizing.waiting.map fun (_, pending) => pending.request) = [.finalize ⟨1⟩ "demo.Foo"] ∧
      finalizing.registry.entries.find? key = some ⟨2⟩ ∧
      (finalizing.after (.finish 0 (.ok none))).registry.entries.find? key = none ∧
      (constructing.waiting.map fun (_, pending) => pending.request) =
        [.construct ⟨1⟩ "demo.Foo" [] []] ∧
      constructing.registry.entries.find? key = some ⟨2⟩ ∧
      (constructing.after (.finish 0 (.error .timeout))).registry.entries.find? key = none := by
  decide +kernel

end Proxy

end RemoteObjects
