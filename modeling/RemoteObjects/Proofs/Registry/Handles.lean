import Mathlib.Data.List.Pairwise
import Mathlib.Data.Set.Card
import RemoteObjects.Proofs.Association
import RemoteObjects.Proofs.Registry

namespace RemoteObjects

namespace Registry

inductive Call where
  | register (key : RegistryKey)
  | lookup (key : RegistryKey)
  | unregister (key : RegistryKey)
deriving DecidableEq, Repr

/-- What the caller is told. -/
inductive Response where
  | registered (result : Except Failure Registration)
  | found (result : Except Failure Handle)
  | released (result : Except Failure Handle)

/-- A handle that was given to an object with this response. -/
def Response.issued? : Response → Option Handle
  | .registered (.ok (.fresh handle)) => some handle
  | _ => none

def Response.failure? : Response → Option Failure
  | .registered (.error failure) | .found (.error failure) | .released (.error failure) =>
      some failure
  | _ => none

def call (registry : Registry) : Call → Registry × Response
  | .register key => ((registry.register key).state, .registered (registry.register key).result)
  | .lookup key => (registry, .found (registry.lookup key))
  | .unregister key =>
      ((registry.unregister key).state, .released (registry.unregister key).result)

def after (registry : Registry) (calls : List Call) : Registry :=
  calls.foldl (fun registry call => (registry.call call).1) registry

theorem after_append (registry : Registry) (first second : List Call) :
    registry.after (first ++ second) = (registry.after first).after second :=
  List.foldl_append

/-- The calls with their responses, in order. -/
def transcript (registry : Registry) : List Call → List (Call × Response)
  | [] => []
  | call :: calls => (call, (registry.call call).2) :: (registry.call call).1.transcript calls

/-- The next number to issue, as a word. -/
def counter (registry : Registry) : Int32 :=
  .ofNat (registry.issued + 1)

/-- What a registry should hold by the calls alone, and the number that it should issue next. -/
structure Reference where
  handles : RegistryKey → Option Handle := fun _ => none
  counter : Int32 := 1

namespace Reference

/-- An absent key gets the number of the counter, unless this is the greatest word. -/
def call (reference : Reference) : Call → Reference
  | .register key =>
      if reference.handles key = none ∧ reference.counter ≠ Int32.maxValue then
        { handles := Function.update reference.handles key (some ⟨reference.counter⟩)
          counter := reference.counter + 1 }
      else
        reference
  | .lookup _ => reference
  | .unregister key => { reference with handles := Function.update reference.handles key none }

def after (reference : Reference) (calls : List Call) : Reference :=
  calls.foldl call reference

end Reference

/-- The handles of a transcript in the order of issue. -/
def issuedIn (transcript : List (Call × Response)) : List Handle :=
  transcript.filterMap fun entry => entry.2.issued?

theorem issuedIn_concat (transcript : List (Call × Response)) (entry : Call × Response) :
    issuedIn (transcript ++ [entry]) = issuedIn transcript ++ entry.2.issued?.toList := by
  cases issued : entry.2.issued? <;> simp [issuedIn, issued]

theorem counter_eq_maxValue_iff {registry : Registry} (bounded : registry.issued ≤ capacity) :
    registry.counter = Int32.maxValue ↔ ¬ registry.issued < capacity := by
  have small : registry.issued + 1 < 2 ^ 31 := by
    unfold capacity at bounded
    omega
  have greatest : Int32.maxValue.toInt = capacity + 1 := by decide
  rw [← Int32.toInt_inj, counter, Int32.toInt_ofNat_of_lt small, greatest]
  omega

/-- The number of handles is the only reason to refuse an object. -/
theorem register_exhausted_iff (registry : Registry) (key : RegistryKey) :
    (registry.register key).result = .error .exhausted ↔
      registry.entries.find? key = none ∧ ¬ registry.issued < capacity := by
  unfold register
  cases registry.entries.find? key with
  | some handle => simp
  | none => by_cases room : registry.issued < capacity <;> simp [room]

/-- The registry holds what it should, and its callers were told of the handles that it has issued. -/
structure Books (reference : Reference) (transcript : List (Call × Response))
    (registry : Registry) : Prop where
  sound : registry.Sound
  nodup : registry.entries.keys.Nodup
  agrees : ∀ key, registry.entries.find? key = reference.handles key
  counter : registry.counter = reference.counter
  issued : issuedIn transcript = (List.range' 1 registry.issued).map handleNumbered

namespace Books

theorem empty : Books {} [] {} where
  sound := .empty
  nodup := List.nodup_nil
  agrees := fun _ => rfl
  counter := rfl
  issued := rfl

variable {reference : Reference} {transcript : List (Call × Response)} {registry : Registry}

/-- A response that issues nothing to a call that changes nothing. -/
theorem quiet (books : Books reference transcript registry) {entry : Call × Response}
    (unissued : entry.2.issued? = none) : Books reference (transcript ++ [entry]) registry where
  sound := books.sound
  nodup := books.nodup
  agrees := books.agrees
  counter := books.counter
  issued := by
    rw [issuedIn_concat, unissued, books.issued]
    exact List.append_nil _

theorem register (books : Books reference transcript registry) (key : RegistryKey) :
    Books (reference.call (.register key))
      (transcript ++ [(.register key, .registered (registry.register key).result)])
      (registry.register key).state := by
  have sound := books.sound.register key
  have known := books.agrees key
  have last := counter_eq_maxValue_iff books.sound.bounded
  rw [books.counter] at last
  rcases registry.register_cases key with
    ⟨handle, found, result, state⟩ | ⟨absent, room, result, state⟩ | ⟨_, result, state⟩
  · have kept : reference.call (.register key) = reference := by
      simp [Reference.call, ← known, found]
    rw [result, state, kept]
    exact books.quiet rfl
  · have number : (⟨reference.counter⟩ : Handle) = handleNumbered (registry.issued + 1) := by
      rw [← books.counter]
      rfl
    have added : reference.call (.register key) =
        { handles := Function.update reference.handles key
            (some (handleNumbered (registry.issued + 1)))
          counter := reference.counter + 1 } := by
      rw [← number]
      exact if_pos ⟨known.symm.trans absent, fun greatest => last.mp greatest room⟩
    rw [state] at sound
    rw [result, state, added]
    refine ⟨sound, Association.nodup_keys_set books.nodup key _, ?_, ?_, ?_⟩
    · intro other
      rw [Association.find?_set]
      by_cases same : key = other
      · simp [same]
      · simp [same, Ne.symm same, books.agrees]
    · rw [← books.counter]
      exact Int32.ofNat_add _ _
    · rw [issuedIn_concat, books.issued, List.range'_1_concat, List.map_append, Nat.add_comm 1]
      rfl
  · have kept : reference.call (.register key) = reference := by
      simp [Reference.call, last.mpr ((registry.register_exhausted_iff key).mp result).2]
    rw [result, state, kept]
    exact books.quiet rfl

theorem unregister (books : Books reference transcript registry) (key : RegistryKey) :
    Books (reference.call (.unregister key))
      (transcript ++ [(.unregister key, .released (registry.unregister key).result)])
      (registry.unregister key).state := by
  refine ⟨books.sound.unregister key, ?_, ?_, ?_, ?_⟩
  · unfold Registry.unregister
    split
    · exact Association.nodup_keys_erase books.nodup key
    · exact books.nodup
  · intro other
    rw [find?_unregister]
    by_cases same : key = other
    · simp [Reference.call, same]
    · simp [Reference.call, same, Ne.symm same, books.agrees]
  · rw [Registry.counter, issued_unregister]
    exact books.counter
  · rw [issuedIn_concat, books.issued, issued_unregister]
    exact List.append_nil _

theorem call (books : Books reference transcript registry) (call : Call) :
    Books (reference.call call) (transcript ++ [(call, (registry.call call).2)])
      (registry.call call).1 := by
  cases call with
  | register key => exact books.register key
  | unregister key => exact books.unregister key
  | lookup key => exact books.quiet rfl

theorem after (books : Books reference transcript registry) (calls : List Call) :
    Books (reference.after calls) (transcript ++ registry.transcript calls)
      (registry.after calls) := by
  induction calls generalizing reference transcript registry with
  | nil => simpa [Registry.transcript, Registry.after, Reference.after] using books
  | cons call calls ih =>
      simpa [Registry.transcript, Registry.after, Reference.after] using ih (books.call call)

/-- Handles are issued in ascending order. -/
theorem ascending (books : Books reference transcript registry) :
    (issuedIn transcript).Pairwise fun earlier later => earlier.number < later.number := by
  have bounded := books.sound.bounded
  rw [books.issued, List.pairwise_map]
  refine List.Pairwise.imp_of_mem ?_ List.pairwise_lt_range'
  intro first second firstMember secondMember less
  rw [List.mem_range'_1] at firstMember secondMember
  rw [Int32.lt_iff_toInt_lt, toInt_handleNumbered (by omega), toInt_handleNumbered (by omega)]
  omega

theorem within (books : Books reference transcript registry) {handle : Handle}
    (member : handle ∈ issuedIn transcript) :
    1 ≤ handle.number ∧ handle.number ≤ Int32.maxValue - 1 := by
  have bounded := books.sound.bounded
  rw [books.issued, List.mem_map] at member
  obtain ⟨count, range, rfl⟩ := member
  rw [List.mem_range'_1] at range
  have last : (Int32.maxValue - 1).toInt = capacity := by decide
  have one : (1 : Int32).toInt = 1 := by decide
  rw [Int32.le_iff_toInt_le, Int32.le_iff_toInt_le, toInt_handleNumbered (by omega), last, one]
  omega

theorem size (books : Books reference transcript registry) :
    {key | (reference.handles key).isSome = true}.encard = registry.size := by
  have live : {key | (reference.handles key).isSome = true} =
      (registry.entries.keys.toFinset : Set RegistryKey) := by
    ext key
    simp [Association.mem_keys_iff, books.agrees]
  rw [live, Set.encard_coe_eq_coe_finsetCard, List.toFinset_card_of_nodup books.nodup]
  simp [Registry.size, Association.size, Association.keys]

end Books

/-- While there is a number left, an absent key gets it and nothing else changes. -/
theorem register_absent {registry : Registry} (bounded : registry.issued ≤ capacity)
    {key : RegistryKey} (absent : registry.entries.find? key = none)
    (room : registry.counter ≠ Int32.maxValue) :
    let registered := registry.register key
    registered.result = .ok (.fresh ⟨registry.counter⟩) ∧
      registered.state.entries.entries =
        registry.entries.entries ++ [(key, ⟨registry.counter⟩)] ∧
      registered.state.counter = registry.counter + 1 := by
  have within : registry.issued < capacity :=
    not_not.mp fun full => room ((counter_eq_maxValue_iff bounded).mpr full)
  rcases registry.register_cases key with
    ⟨_, found, _⟩ | ⟨_, _, result, state⟩ | ⟨_, result, _⟩
  · cases found.symm.trans absent
  · refine ⟨result, ?_, ?_⟩
    · rw [state]
      exact Association.entries_set_of_absent absent _
    · rw [state]
      exact Int32.ofNat_add _ _
  · exact absurd within ((registry.register_exhausted_iff key).mp result).2

/-- An object that comes and goes gets a new handle each time. -/
theorem after_renewals (key : RegistryKey) {count : Nat} (within : count ≤ capacity) :
    Registry.after {} (List.replicate count [.register key, .unregister key]).flatten =
      { issued := count } := by
  induction count with
  | zero => rfl
  | succ count ih =>
      have room : count < capacity := within
      rw [List.replicate_succ', List.flatten_concat, after_append, ih room.le]
      simp [after, call, register, unregister, room, Association.set, Association.update,
        Association.erase, Association.find?, Association.lookup]

/-- The handles can be used up, by one object alone. -/
theorem exists_exhausted (key : RegistryKey) :
    ∃ calls, ((Registry.after {} calls).register key).result = .error .exhausted :=
  ⟨_, (register_exhausted_iff _ key).mpr <| by
    rw [after_renewals key (Nat.le_refl capacity)]
    exact ⟨rfl, Nat.lt_irrefl _⟩⟩

/-- A call that fails changes nothing. -/
theorem call_failed {registry : Registry} {call : Call} {failure : Failure}
    (failed : (registry.call call).2.failure? = some failure) : (registry.call call).1 = registry := by
  cases call with
  | register key =>
      rcases registry.register_cases key with
        ⟨_, _, _, state⟩ | ⟨_, _, result, _⟩ | ⟨_, _, state⟩
      · exact state
      · simp [Registry.call, result, Response.failure?] at failed
      · exact state
  | lookup key => rfl
  | unregister key =>
      simp only [Registry.call, unregister] at failed ⊢
      split at failed
      · simp [Response.failure?] at failed
      · rfl

/-- After any calls a registry holds what it should by the calls alone. Its handles ascend from one to the
greatest word but one and are never issued again, and only a used-up counter refuses an absent key. -/
theorem handles_never_reused (calls : List Call) :
    let registry := Registry.after {} calls
    let reference := Reference.after {} calls
    let issued := issuedIn (Registry.transcript {} calls)
    (∀ key, registry.entries.find? key = reference.handles key ∧
        (registry.lookup key).toOption = reference.handles key ∧
        (registry.unregister key).result.toOption = reference.handles key) ∧
      registry.counter = reference.counter ∧
      (∀ first second handle, registry.entries.find? first = some handle →
        registry.entries.find? second = some handle → first = second) ∧
      (issued.Pairwise fun earlier later => earlier.number < later.number) ∧
      (∀ handle ∈ issued, 1 ≤ handle.number ∧ handle.number ≤ Int32.maxValue - 1) ∧
      {key | (reference.handles key).isSome = true}.encard = registry.size ∧
      (∀ key handle, registry.entries.find? key = some handle →
        (registry.register key).result = .ok (.existing handle) ∧
          (registry.register key).state = registry) ∧
      (∀ key, registry.entries.find? key = none → registry.counter ≠ Int32.maxValue →
        let registered := registry.register key
        registered.result = .ok (.fresh ⟨registry.counter⟩) ∧
          registered.state.entries.entries =
            registry.entries.entries ++ [(key, ⟨registry.counter⟩)] ∧
          registered.state.counter = registry.counter + 1) ∧
      (∀ key, (registry.register key).result = .error .exhausted ↔
        registry.entries.find? key = none ∧ registry.counter = Int32.maxValue) ∧
      ∀ call failure, (registry.call call).2.failure? = some failure →
        (registry.call call).1 = registry := by
  intro registry reference issued
  have books : Books reference (Registry.transcript {} calls) registry := Books.empty.after calls
  refine ⟨?_, books.counter, books.sound.distinct, books.ascending,
    fun handle member => books.within member, books.size, ?_,
    fun key absent room => register_absent books.sound.bounded absent room, ?_,
    fun call failure failed => call_failed failed⟩
  · intro key
    rw [← books.agrees]
    unfold Registry.lookup Registry.unregister
    cases registry.entries.find? key <;> exact ⟨rfl, rfl, rfl⟩
  · intro key handle found
    rcases registry.register_cases key with ⟨known, entry, result, state⟩ | ⟨absent, _⟩ | ⟨absent, _⟩
    · rw [found] at entry
      cases entry
      exact ⟨result, state⟩
    · simp [found] at absent
    · simp [found] at absent
  · intro key
    rw [register_exhausted_iff, counter_eq_maxValue_iff books.sound.bounded]

end Registry

end RemoteObjects
