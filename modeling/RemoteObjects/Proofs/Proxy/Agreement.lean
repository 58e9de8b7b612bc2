import RemoteObjects.Proofs.Host
import RemoteObjects.Proofs.List
import RemoteObjects.Proofs.Proxy.Conduct
import RemoteObjects.Proofs.Service.Answering

namespace RemoteObjects

open Proxy (Operation Pending Begun)
open Registry (handleNumbered)

variable {σ : Type}

/-- What a complete operation can do to the registry, over a transport that works, and the requests that
it sends. -/
inductive Proxy.Transition (registry : Registry) : List Request → Registry → Prop where
  | quiet {next : Registry} (entries : ∀ key, next.entries.find? key = registry.entries.find? key)
      (issued : registry.issued ≤ next.issued) : Transition registry [] next
  | constructs (key : RegistryKey) {types : List ValueType} {arguments : List Value}
      (absent : registry.entries.find? key = none) (room : registry.issued < Registry.capacity)
      (shape : (Request.construct (handleNumbered (registry.issued + 1)) key.className types
        arguments).checkShape = .ok ()) :
      Transition registry
        [.construct (handleNumbered (registry.issued + 1)) key.className types arguments]
        { entries := registry.entries.set key (handleNumbered (registry.issued + 1))
          issued := registry.issued + 1 }
  | finalizes (key : RegistryKey) {handle : Handle}
      (found : registry.entries.find? key = some handle)
      (shape : (Request.finalize handle key.className).checkShape = .ok ()) :
      Transition registry [.finalize handle key.className] (registry.unregister key).state
  | uses {request : Request} (use : request.isLifecycle = false) :
      Transition registry [request] registry

namespace Proxy

variable {policy : Policy} {enclave : String} {registry : Registry} {operation : Operation}

/-- The requests that an operation sends. -/
def Begun.requests : Begun → List Request
  | .finished _ => []
  | .sending pending => [pending.request]

theorem transition_finished {result : Result}
    (finished : (Proxy.begin policy enclave registry operation).result.begun = .finished result) :
    Transition registry [] (Proxy.begin policy enclave registry operation).state := by
  have begins := begin_begins policy enclave registry operation
  rw [finished] at begins
  cases begins with
  | ends _ unchanged =>
      rw [unchanged]
      exact .quiet (fun _ => rfl) (Nat.le_refl _)
  | retracts _ object absent retracted =>
      rw [retracted]
      rcases registry.register_cases (operation.key object) with
        ⟨_, found, _⟩ | ⟨_, _, _, state⟩ | ⟨_, _, state⟩
      · rw [absent] at found
        cases found
      · refine .quiet (fun key => ?_) ?_
        · rw [Registry.find?_unregister, state, Association.find?_set]
          split
          · simp_all
          · rfl
        · rw [Registry.issued_unregister, state]
          exact Nat.le_succ _
      · refine .quiet (fun key => ?_) ?_
        · rw [Registry.find?_unregister, state]
          split
          · simp_all
          · rfl
        · rw [Registry.issued_unregister, state]

/-- An operation that waits for a reply leaves the registry alone, however its sending ends. -/
theorem finish_awaits (enclave : String) (registry : Registry) {pending : Pending}
    (awaits : pending.operation.action.awaitsReply = true)
    (outcome : Except Transport.Failure (Option Reply)) :
    (finish enclave registry pending outcome).state = registry := by
  unfold finish
  cases action : pending.operation.action <;> simp [action, Action.awaitsReply] at awaits ⊢

theorem transition_sent {pending : Pending}
    (sending : (Proxy.begin policy enclave registry operation).result.begun = .sending pending)
    (reply : Option Reply) :
    Transition registry [pending.request]
      (finish enclave (Proxy.begin policy enclave registry operation).state pending
        (.ok reply)).state := by
  obtain ⟨handle, target, shape, rfl⟩ := begin_sending_target sending
  have begins := begin_begins policy enclave registry operation
  rw [sending] at begins
  cases begins with
  | sends _ enrolled =>
      rw [enrolled]
      obtain ⟨className, action⟩ := operation
      cases action with
      | construct object types arguments =>
          simp only [Operation.target] at target
          rcases registry.register_cases (Operation.key ⟨className, .construct object types arguments⟩
              object) with ⟨_, _, result, _⟩ | ⟨absent, room, result, state⟩ | ⟨_, result, _⟩
          · simp [result] at target
          · rw [result] at target
            cases Except.ok.inj target
            simp only [finish, Operation.pending, finishConstruct, sendResult, Operation.enrolled,
              state]
            exact .constructs ⟨className, object⟩ absent room shape
          · simp [result] at target
      | finalize object =>
          have found : registry.entries.find? ⟨className, object⟩ = some handle := by
            simp only [Operation.target, Action.object?, Registry.lookup, Operation.key] at target
            split at target
            · rename_i known entry
              cases Except.ok.inj target
              exact entry
            · cases target
          exact .finalizes ⟨className, object⟩ found shape
      | invoke object method types arguments => exact .uses rfl
      | readField object name => exact .uses rfl
      | writeField object name value => exact .uses rfl
      | readStaticField name => exact .uses rfl
      | writeStaticField name value => exact .uses rfl

end Proxy

namespace Host

/-- A host that may find another catalog at each request that it executes, with the number of these. So
does one whose constructors depend on more than their arguments. -/
def executeEach (catalogs : Nat → Catalog σ) : Execution (Host σ × Nat) := fun served request =>
  let executed := execute (catalogs served.2) served.1 request
  { state := (executed.state, served.2 + 1), result := executed.result, events := executed.events }

def answerEach (catalogs : Nat → Catalog σ) : Execution (Host σ × Nat) :=
  Execution.guarded (executeEach catalogs)

theorem executeEach_responsive (catalogs : Nat → Catalog σ) :
    Execution.Responsive (executeEach catalogs) := fun served request =>
  execute_responsive (catalogs served.2) served.1 request

theorem answerEach_state (catalogs : Nat → Catalog σ) (served : Host σ × Nat) (request : Request) :
    (answerEach catalogs served request).state.1 =
      (answer (catalogs served.2) served.1 request).state := by
  simp only [answerEach, answer, Execution.guarded]
  split <;> rfl

end Host

/-- The books of both sides, once all requests that were sent are executed. Each construction has a
handle of its own; the instance of a registered object exists exactly if its construction worked. -/
structure Tally (catalogs : Nat → Catalog σ) (initial : Host σ × Nat) (sent : List Request)
    (registry : Registry) : Prop where
  numbered : ∀ handle className types arguments,
    .construct handle className types arguments ∈ sent →
      ∃ count, count ≤ registry.issued ∧ handle = handleNumbered count
  image : ∀ key, ((Host.answerEach catalogs).after initial sent).1.instances.contains key = true →
    ∃ object, registry.entries.find? ⟨key.className, object⟩ = some key.handle
  requested : ∀ key handle, registry.entries.find? key = some handle →
    ∃ (position : Nat) (types : List ValueType) (arguments : List Value),
      sent[position]? = some (.construct handle key.className types arguments)
  built : ∀ key handle (position : Nat) types arguments, registry.entries.find? key = some handle →
    sent[position]? = some (.construct handle key.className types arguments) →
      ((Host.answerEach catalogs).after initial sent).1.instances.contains ⟨key.className, handle⟩ =
        ((catalogs ((Host.answerEach catalogs).after initial (sent.take position)).2).findConstructor
          key.className types >>= fun found => found.build arguments).isOk
  unbound : ∀ (position : Nat) handle className types arguments,
    sent[position]? = some (.construct handle className types arguments) →
      ((Host.answerEach catalogs).after initial (sent.take position)).1.instances.contains
        ⟨className, handle⟩ = false

namespace Tally

variable {catalogs : Nat → Catalog σ} {initial : Host σ × Nat} {sent : List Request}
  {registry : Registry}

theorem initially {initial : Host σ × Nat} (empty : initial.1.instances = {}) :
    Tally catalogs initial [] {} where
  numbered := by simp
  image := by simp [Execution.after, empty, Association.contains]
  requested := by simp
  built := by simp
  unbound := by simp

/-- The next handle names no instance in any class. -/
theorem next_unbound (tally : Tally catalogs initial sent registry) (sound : registry.Sound)
    (room : registry.issued < Registry.capacity) (className : String) :
    ((Host.answerEach catalogs).after initial sent).1.instances.contains
      ⟨className, handleNumbered (registry.issued + 1)⟩ = false := by
  apply Bool.eq_false_iff.mpr
  intro bound
  obtain ⟨object, found⟩ := tally.image _ bound
  exact sound.next_unused room _ found

/-- The next handle was sent in no construction. -/
theorem next_unsent (tally : Tally catalogs initial sent registry)
    (room : registry.issued < Registry.capacity) (className : String) (types : List ValueType)
    (arguments : List Value) :
    .construct (handleNumbered (registry.issued + 1)) className types arguments ∉ sent := by
  intro member
  obtain ⟨count, within, same⟩ := tally.numbered _ _ _ _ member
  have equal := Registry.handleNumbered_injective (by omega) (by omega) same
  omega

/-- One more request, whose key is free if it is a construction. -/
theorem unbound_concat (tally : Tally catalogs initial sent registry) {request : Request}
    (free : ∀ handle className types arguments,
      request = .construct handle className types arguments →
        ((Host.answerEach catalogs).after initial sent).1.instances.contains ⟨className, handle⟩ =
          false)
    (position : Nat) (handle : Handle) (className : String) (types : List ValueType)
    (arguments : List Value)
    (found : (sent ++ [request])[position]? =
      some (.construct handle className types arguments)) :
    ((Host.answerEach catalogs).after initial
      ((sent ++ [request]).take position)).1.instances.contains ⟨className, handle⟩ = false := by
  rcases getElem?_concat_cases found with ⟨earlier, before⟩ | ⟨last, before⟩
  · rw [before]
    exact tally.unbound position handle className types arguments earlier
  · rw [before]
    exact free handle className types arguments last.symm

theorem construct (tally : Tally catalogs initial sent registry) (sound : registry.Sound)
    (key : RegistryKey) {types : List ValueType} {arguments : List Value}
    (absent : registry.entries.find? key = none) (room : registry.issued < Registry.capacity)
    (shape : (Request.construct (handleNumbered (registry.issued + 1)) key.className types
      arguments).checkShape = .ok ()) :
    Tally catalogs initial
      (sent ++ [.construct (handleNumbered (registry.issued + 1)) key.className types arguments])
      { entries := registry.entries.set key (handleNumbered (registry.issued + 1))
        issued := registry.issued + 1 } := by
  have free := tally.next_unbound sound room key.className
  have contains := Host.contains_answer_construct
    (catalogs ((Host.answerEach catalogs).after initial sent).2) _ shape free
  have known : ∀ other handle, key ≠ other → registry.entries.find? other = some handle →
      handleNumbered (registry.issued + 1) ≠ handle := fun other handle _ found same =>
    sound.next_unused room other (same ▸ found)
  refine ⟨?_, ?_, ?_, ?_, tally.unbound_concat ?_⟩
  · intro handle className types arguments member
    rcases List.mem_append.mp member with earlier | last
    · obtain ⟨count, within, same⟩ := tally.numbered _ _ _ _ earlier
      exact ⟨count, Nat.le_succ_of_le within, same⟩
    · cases List.mem_singleton.mp last
      exact ⟨_, Nat.le_refl _, rfl⟩
  · intro other bound
    rw [Execution.after_concat, Host.answerEach_state, contains, Bool.or_eq_true,
      Bool.and_eq_true] at bound
    rcases bound with ⟨same, _⟩ | before
    · rw [← of_decide_eq_true same]
      exact ⟨key.object, by simp⟩
    · obtain ⟨object, found⟩ := tally.image other before
      have apart : key ≠ ⟨other.className, object⟩ := by
        intro same
        rw [← same, absent] at found
        cases found
      exact ⟨object, by simpa [apart] using found⟩
  · intro other handle found
    rw [Association.find?_set] at found
    split at found
    · rename_i same
      subst same
      cases found
      exact ⟨sent.length, types, arguments, List.getElem?_concat_length⟩
    · obtain ⟨position, types, arguments, there⟩ := tally.requested other handle found
      exact ⟨position, types, arguments, getElem?_of_isPrefix (List.prefix_append _ _) there⟩
  · intro other handle position otherTypes otherArguments found there
    rw [Execution.after_concat, Host.answerEach_state, contains]
    rw [Association.find?_set] at found
    rcases getElem?_concat_cases there with ⟨earlier, before⟩ | ⟨last, before⟩
    · -- an earlier construction has another handle, so its entry is an earlier one too
      split at found
      · cases found
        exact absurd (List.mem_of_getElem? earlier) (tally.next_unsent room _ _ _)
      · rename_i apart
        have other := tally.built other handle position otherTypes otherArguments found earlier
        simp [known _ _ apart found, other, before]
    · obtain ⟨handles, _, rfl, rfl⟩ := Request.construct.inj last
      split at found
      · rename_i same
        subst same
        simp [handles, free, before]
      · rename_i apart
        exact absurd handles.symm (known _ _ apart found)
  · intro handle className types arguments same
    cases same
    exact free

/-- A request that constructs nothing leaves the books right if the registry loses no more than the
table does. -/
theorem extend (tally : Tally catalogs initial sent registry) {request : Request}
    (other : ∀ handle className types arguments,
      request ≠ .construct handle className types arguments) {next : Registry}
    (issued : registry.issued ≤ next.issued)
    (kept : ∀ key handle, next.entries.find? key = some handle →
      registry.entries.find? key = some handle ∧
        ((Host.answerEach catalogs).after initial (sent ++ [request])).1.instances.contains
            ⟨key.className, handle⟩ =
          ((Host.answerEach catalogs).after initial sent).1.instances.contains
            ⟨key.className, handle⟩)
    (image : ∀ key,
      ((Host.answerEach catalogs).after initial (sent ++ [request])).1.instances.contains key =
          true →
        ∃ object, next.entries.find? ⟨key.className, object⟩ = some key.handle) :
    Tally catalogs initial (sent ++ [request]) next := by
  refine ⟨?_, image, ?_, ?_, tally.unbound_concat fun _ _ _ _ same => absurd same (other _ _ _ _)⟩
  · intro handle className types arguments member
    rcases List.mem_append.mp member with known | last
    · obtain ⟨count, within, same⟩ := tally.numbered _ _ _ _ known
      exact ⟨count, Nat.le_trans within issued, same⟩
    · exact absurd (List.mem_singleton.mp last).symm (other handle className types arguments)
  · intro key handle found
    obtain ⟨position, types, arguments, there⟩ := tally.requested key handle (kept key handle found).1
    exact ⟨position, types, arguments, getElem?_of_isPrefix (List.prefix_append _ _) there⟩
  · intro key handle position types arguments found there
    rw [(kept key handle found).2]
    rcases getElem?_concat_cases there with ⟨earlier, before⟩ | ⟨last, -⟩
    · rw [before]
      exact tally.built key handle position types arguments (kept key handle found).1 earlier
    · exact absurd last.symm (other _ _ _ _)

theorem finalize (tally : Tally catalogs initial sent registry) (sound : registry.Sound)
    (key : RegistryKey) {handle : Handle} (found : registry.entries.find? key = some handle)
    (shape : (Request.finalize handle key.className).checkShape = .ok ()) :
    Tally catalogs initial (sent ++ [.finalize handle key.className])
      (registry.unregister key).state := by
  have contains := Host.contains_answer_finalize
    (catalogs ((Host.answerEach catalogs).after initial sent).2)
    ((Host.answerEach catalogs).after initial sent).1 shape
  refine tally.extend (by simp) (by simp) ?_ ?_
  · intro other otherHandle entry
    rw [Registry.find?_unregister] at entry
    split at entry
    · cases entry
    · rename_i apart
      have handles : handle ≠ otherHandle := fun same =>
        apart (sound.distinct key other handle found (same ▸ entry))
      rw [Execution.after_concat, Host.answerEach_state, contains]
      exact ⟨entry, by simp [handles]⟩
  · intro other bound
    rw [Execution.after_concat, Host.answerEach_state, contains, Bool.and_eq_true] at bound
    obtain ⟨object, entry⟩ := tally.image other bound.2
    have apart : key ≠ ⟨other.className, object⟩ := by
      rintro rfl
      rw [entry] at found
      obtain rfl := Option.some.inj found
      simp at bound
    exact ⟨object, by simpa [apart] using entry⟩

theorem use (tally : Tally catalogs initial sent registry) {request : Request}
    (use : request.isLifecycle = false) :
    Tally catalogs initial (sent ++ [request]) registry := by
  have contains := Host.contains_answer_use
    (catalogs ((Host.answerEach catalogs).after initial sent).2)
    ((Host.answerEach catalogs).after initial sent).1 use
  refine tally.extend ?_ (Nat.le_refl _) ?_ ?_
  · rintro handle className types arguments rfl
    cases use
  · intro key handle found
    rw [Execution.after_concat, Host.answerEach_state, contains]
    exact ⟨found, rfl⟩
  · intro key bound
    rw [Execution.after_concat, Host.answerEach_state, contains] at bound
    exact tally.image key bound

/-- Every complete operation leaves the books right. -/
theorem transition (tally : Tally catalogs initial sent registry) (sound : registry.Sound)
    {requests : List Request} {next : Registry}
    (transition : Proxy.Transition registry requests next) :
    Tally catalogs initial (sent ++ requests) next := by
  cases transition with
  | quiet entries issued =>
      rw [List.append_nil]
      refine ⟨?_, ?_, ?_, ?_, tally.unbound⟩
      · intro handle className types arguments member
        obtain ⟨count, within, same⟩ := tally.numbered _ _ _ _ member
        exact ⟨count, Nat.le_trans within issued, same⟩
      · simpa only [entries] using tally.image
      · simpa only [entries] using tally.requested
      · simpa only [entries] using tally.built
  | constructs key absent room shape => exact tally.construct sound key absent room shape
  | finalizes key found shape => exact tally.finalize sound key found shape
  | uses use => exact tally.use use

end Tally

/-- Both sides agree: each instance belongs to exactly one entry of the registry, an entry has no
instance exactly if its constructor was not found or did not accept its arguments or failed at its time,
and no construction came to a key that was bound. -/
structure Agreement (catalogs : Nat → Catalog σ) (initial : Host σ) (sent : List Request)
    (registry : Registry) (host : Host σ) : Prop where
  executed : host = ((Host.answerEach catalogs).after (initial, 0) sent).1
  image : ∀ key, host.instances.contains key = true →
    ∃ entry : RegistryKey, entry.className = key.className ∧
      registry.entries.find? entry = some key.handle ∧
      ∀ other, registry.entries.find? other = some key.handle → other = entry
  missing : ∀ entry handle, registry.entries.find? entry = some handle →
    (∃ (position : Nat) (types : List ValueType) (arguments : List Value),
      sent[position]? = some (.construct handle entry.className types arguments)) ∧
    ∀ (position : Nat) types arguments,
      sent[position]? = some (.construct handle entry.className types arguments) →
        let served := ((Host.answerEach catalogs).after (initial, 0) (sent.take position)).2
        (host.instances.contains ⟨entry.className, handle⟩ = false ↔
          ∃ failure, ((catalogs served).findConstructor entry.className types >>= fun found =>
            found.build arguments) = .error failure)
  unbound : ∀ (position : Nat) handle className types arguments,
    sent[position]? = some (.construct handle className types arguments) →
      ((Host.answerEach catalogs).after (initial, 0) (sent.take position)).1.instances.contains
        ⟨className, handle⟩ = false

theorem Tally.agreement {catalogs : Nat → Catalog σ} {initial : Host σ} {sent : List Request}
    {registry : Registry} (tally : Tally catalogs (initial, 0) sent registry)
    (sound : registry.Sound) :
    Agreement catalogs initial sent registry
      ((Host.answerEach catalogs).after (initial, 0) sent).1 where
  executed := rfl
  image := by
    intro key bound
    obtain ⟨object, found⟩ := tally.image key bound
    exact ⟨⟨key.className, object⟩, rfl, found, fun other same =>
      sound.distinct other _ key.handle same found⟩
  missing := by
    intro entry handle found
    refine ⟨tally.requested entry handle found, fun position types arguments there => ?_⟩
    intro served
    rw [tally.built entry handle position types arguments found there]
    cases (catalogs served).findConstructor entry.className types >>= fun found =>
        found.build arguments with
    | error failure => simp [Except.isOk, Except.toBool]
    | ok built => simp [Except.isOk, Except.toBool]
  unbound := tally.unbound

end RemoteObjects
