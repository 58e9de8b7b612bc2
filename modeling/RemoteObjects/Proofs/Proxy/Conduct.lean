import RemoteObjects.Proofs.Proxy.Callers
import RemoteObjects.Proofs.Registry

namespace RemoteObjects.Proxy

/-- The handle with which an operation goes on, or the result with which it is over before that. -/
def Operation.target (registry : Registry) (operation : Operation) : Except Result Handle :=
  match operation.action, operation.action.object? with
  | .construct object _ _, _ =>
      match (registry.register (operation.key object)).result with
      | .error failure => .error (.error (.ofRegistry failure))
      | .ok (.existing handle) => .error (.ok (.handle handle))
      | .ok (.fresh handle) => .ok handle
  | _, some object =>
      (registry.lookup (operation.key object)).mapError fun failure => .error (.ofRegistry failure)
  | _, none => .ok .static

/-- What an operation does once it has its handle. -/
def Operation.opening (policy : Policy) (operation : Operation) (handle : Handle) : Opening :=
  let request := operation.request handle
  match request.checkShape with
  | .error violation => { begun := .finished (.error (.faulty violation.fault)) }
  | .ok () =>
      { begun :=
          if policy request.kind request then .sending (operation.pending handle)
          else .finished (.error (.permissionDenied request.kind request.className))
        asked := [request] }

/-- A construction holds its handle while its request is sent. -/
def Operation.enrolled (registry : Registry) (operation : Operation) : Registry :=
  match operation.action with
  | .construct object _ _ => (registry.register (operation.key object)).state
  | _ => registry

/-- What the beginning of an operation can do to the registry. If it sends nothing, then the registry
stays as it was, or an entry is taken back that has just been made. -/
inductive Operation.Begins (registry : Registry) (operation : Operation) (next : Registry) :
    Begun → Prop where
  | sends (pending : Pending) (enrolled : next = operation.enrolled registry) :
      Begins registry operation next (.sending pending)
  | ends (result : Result) (unchanged : next = registry) :
      Begins registry operation next (.finished result)
  | retracts (result : Result) (object : ObjectId)
      (absent : registry.entries.find? (operation.key object) = none)
      (retracted : next = ((registry.register (operation.key object)).state.unregister
        (operation.key object)).state) :
      Begins registry operation next (.finished result)

section Beginning

variable (policy : Policy) (enclave : String) (registry : Registry) (operation : Operation)

theorem opening_eq_check (handle : Handle) :
    operation.opening policy handle =
      { begun :=
          match (check policy enclave (operation.request handle)).result with
          | .error failure => .finished (.error failure)
          | .ok () => .sending (operation.pending handle)
        asked := (check policy enclave (operation.request handle)).state } := by
  simp only [Operation.opening, check]
  cases (operation.request handle).checkShape with
  | error violation => rfl
  | ok _ =>
      by_cases permitted : policy (operation.request handle).kind (operation.request handle) = true
      · simp [permitted]
      · simp [permitted]

theorem beginOn_ok (handle : Handle) :
    (beginOn policy enclave registry operation (.ok handle)).result =
      operation.opening policy handle := by
  rw [opening_eq_check policy enclave]
  simp only [beginOn]
  cases (check policy enclave (operation.request handle)).result <;> rfl

theorem beginOn_state (found : Except Registry.Failure Handle) :
    (beginOn policy enclave registry operation found).state = registry := by
  unfold beginOn
  split
  · rfl
  · dsimp only
    split <;> rfl

/-- Every operation finds its handle and then goes the same way. -/
theorem begin_result :
    (Proxy.begin policy enclave registry operation).result =
      match operation.target registry with
      | .error result => { begun := .finished result }
      | .ok handle => operation.opening policy handle := by
  have looking (object : ObjectId) :
      (beginOn policy enclave registry operation
          (registry.lookup (operation.key object))).result =
        match (registry.lookup (operation.key object)).mapError
            (fun failure => (.error (.ofRegistry failure) : Result)) with
        | .error result => { begun := .finished result }
        | .ok handle => operation.opening policy handle := by
    cases registry.lookup (operation.key object) with
    | error failure => rfl
    | ok handle => exact beginOn_ok policy enclave registry operation handle
  obtain ⟨className, action⟩ := operation
  cases action with
  | construct object types arguments =>
      simp only [Proxy.begin, beginConstruct, Operation.target]
      cases (registry.register (Operation.key ⟨className, .construct object types arguments⟩
        object)).result with
      | error failure => rfl
      | ok registration =>
          cases registration with
          | existing handle => rfl
          | fresh handle =>
              simp only [opening_eq_check policy enclave]
              cases (check policy enclave _).result <;> rfl
  | invoke object method types arguments =>
      cases object with
      | none => exact beginOn_ok policy enclave registry _ _
      | some object => exact looking object
  | finalize object => exact looking object
  | readField object name => exact looking object
  | writeField object name value => exact looking object
  | readStaticField name => exact beginOn_ok policy enclave registry _ _
  | writeStaticField name value => exact beginOn_ok policy enclave registry _ _

variable {policy enclave registry operation} in
/-- What is sent has a handle that was found and a shape that was checked. -/
theorem begin_sending_target {pending : Pending}
    (sending : (Proxy.begin policy enclave registry operation).result.begun = .sending pending) :
    ∃ handle, operation.target registry = .ok handle ∧
      (operation.request handle).checkShape = .ok () ∧ pending = operation.pending handle := by
  rw [begin_result] at sending
  cases target : operation.target registry with
  | error result => simp [target] at sending
  | ok handle =>
      simp only [target, Operation.opening] at sending
      cases shape : (operation.request handle).checkShape with
      | error violation => simp [shape] at sending
      | ok _ =>
          simp only [shape] at sending
          split at sending
          · exact ⟨handle, rfl, shape, (Begun.sending.inj sending).symm⟩
          · cases sending

theorem begin_begins :
    operation.Begins registry (Proxy.begin policy enclave registry operation).state
      (Proxy.begin policy enclave registry operation).result.begun := by
  have others (found : Except Registry.Failure Handle)
      (same : Proxy.begin policy enclave registry operation =
        beginOn policy enclave registry operation found)
      (enrolled : operation.enrolled registry = registry) :
      operation.Begins registry (Proxy.begin policy enclave registry operation).state
        (Proxy.begin policy enclave registry operation).result.begun := by
    rw [same, beginOn_state]
    cases (beginOn policy enclave registry operation found).result.begun with
    | sending pending => exact .sends pending enrolled.symm
    | finished result => exact .ends result rfl
  obtain ⟨className, action⟩ := operation
  cases action with
  | construct object types arguments =>
      simp only [Proxy.begin, beginConstruct]
      rcases registry.register_cases (Operation.key ⟨className, .construct object types arguments⟩
          object) with ⟨handle, _, result, state⟩ | ⟨absent, _, result, _⟩ | ⟨_, result, state⟩
      · rw [result, state]
        exact .ends _ rfl
      · rw [result]
        dsimp only
        cases (check policy enclave _).result with
        | error failure => exact .retracts _ object absent rfl
        | ok _ => exact .sends _ rfl
      · rw [result, state]
        exact .ends _ rfl
  | invoke object method types arguments =>
      cases object with
      | none => exact others (.ok .static) rfl rfl
      | some object => exact others _ rfl rfl
  | finalize object => exact others _ rfl rfl
  | readField object name => exact others _ rfl rfl
  | writeField object name value => exact others _ rfl rfl
  | readStaticField name => exact others (.ok .static) rfl rfl
  | writeStaticField name value => exact others (.ok .static) rfl rfl

variable {policy enclave registry operation}

/-- The policy matters only through what it says about the request with the handle that was found. -/
theorem begin_congr {other : Policy}
    (same : ∀ handle, operation.target registry = .ok handle →
      check other enclave (operation.request handle) =
        check policy enclave (operation.request handle)) :
    Proxy.begin other enclave registry operation =
      Proxy.begin policy enclave registry operation := by
  have looking (found : Except Registry.Failure Handle)
      (target : operation.target registry =
        found.mapError fun failure => .error (.ofRegistry failure)) :
      beginOn other enclave registry operation found =
        beginOn policy enclave registry operation found := by
    cases found with
    | error failure => rfl
    | ok handle => simp only [beginOn, same handle target]
  obtain ⟨className, action⟩ := operation
  cases action with
  | construct object types arguments =>
      simp only [Operation.target] at same
      simp only [Proxy.begin, beginConstruct]
      split
      · rfl
      · rfl
      · rename_i handle fresh
        rw [same handle (by rw [fresh])]
  | invoke object method types arguments =>
      cases object with
      | none => exact looking (.ok .static) rfl
      | some object => exact looking _ rfl
  | finalize object => exact looking _ rfl
  | readField object name => exact looking _ rfl
  | writeField object name value => exact looking _ rfl
  | readStaticField name => exact looking (.ok .static) rfl
  | writeStaticField name value => exact looking (.ok .static) rfl

/-- An operation takes notice of what the policy says about the requests that it asks about, and of
nothing else. -/
theorem begin_asked {other : Policy}
    (agree : ∀ request ∈ (Proxy.begin policy enclave registry operation).result.asked,
      other request.kind request = policy request.kind request) :
    Proxy.begin other enclave registry operation =
      Proxy.begin policy enclave registry operation := by
  apply begin_congr
  intro handle target
  rw [begin_result, target] at agree
  simp only [Operation.opening] at agree
  unfold check
  cases shape : (operation.request handle).checkShape with
  | error violation => rfl
  | ok _ =>
      rw [shape] at agree
      rw [agree _ (List.mem_singleton.mpr rfl)]

end Beginning

/-- An operation that has returned leaves the registry as it was or takes its object out. -/
theorem finish_state (enclave : String) (registry : Registry) (pending : Pending)
    (outcome : Except Transport.Failure (Option Reply)) :
    (finish enclave registry pending outcome).state = registry ∨
      ∃ object, pending.operation.action.object? = some object ∧
        (finish enclave registry pending outcome).state =
          (registry.unregister (pending.operation.key object)).state := by
  unfold finish
  cases pending.operation.action with
  | construct object types arguments =>
      dsimp only
      unfold finishConstruct
      split
      · exact .inl rfl
      · exact .inr ⟨object, rfl, rfl⟩
  | finalize object =>
      dsimp only
      unfold finishFinalize
      dsimp only
      split <;> exact .inr ⟨object, rfl, rfl⟩
  | invoke object method types arguments => exact .inl rfl
  | readField object name => exact .inl rfl
  | writeField object name value => exact .inl rfl
  | readStaticField name => exact .inl rfl
  | writeStaticField name value => exact .inl rfl

/-- Proxies that share a registry, and the operations of theirs that wait for a transport. -/
structure Shared where
  registry : Registry := {}
  waiting : List (String × Pending) := []

namespace Shared

/-- An operation ends with any outcome of its sending, or never. Objects may also be registered and
unregistered by hand. -/
inductive Move where
  | start (policy : Policy) (enclave : String) (operation : Operation)
  | finish (place : Nat) (outcome : Except Transport.Failure (Option Reply))
  | register (key : RegistryKey)
  | unregister (key : RegistryKey)

def after (shared : Shared) : Move → Shared
  | .start policy enclave operation =>
      let begun := Proxy.begin policy enclave shared.registry operation
      match begun.result.begun with
      | .finished _ => { shared with registry := begun.state }
      | .sending pending =>
          { registry := begun.state, waiting := shared.waiting ++ [(enclave, pending)] }
  | .finish place outcome =>
      match shared.waiting[place]? with
      | none => shared
      | some (enclave, pending) =>
          { registry := (Proxy.finish enclave shared.registry pending outcome).state
            waiting := shared.waiting.eraseIdx place }
  | .register key => { shared with registry := (shared.registry.register key).state }
  | .unregister key => { shared with registry := (shared.registry.unregister key).state }

def run (shared : Shared) (moves : List Move) : Shared :=
  moves.foldl after shared

end Shared

end RemoteObjects.Proxy

namespace RemoteObjects.Registry.Sound

open Proxy

variable {registry : Registry}

theorem enrolled (sound : registry.Sound) (operation : Operation) :
    (operation.enrolled registry).Sound := by
  unfold Operation.enrolled
  split
  · exact sound.register _
  · exact sound

theorem begins (sound : registry.Sound) {operation : Operation} {next : Registry} {begun : Begun}
    (begins : operation.Begins registry next begun) : next.Sound := by
  cases begins with
  | sends pending enrolled => exact enrolled ▸ sound.enrolled operation
  | ends result unchanged => exact unchanged ▸ sound
  | retracts result object absent retracted => exact retracted ▸ (sound.register _).unregister _

theorem finish (sound : registry.Sound) (enclave : String) (pending : Pending)
    (outcome : Except Transport.Failure (Option Reply)) :
    (Proxy.finish enclave registry pending outcome).state.Sound := by
  rcases finish_state enclave registry pending outcome with unchanged | ⟨object, _, removed⟩
  · rw [unchanged]
    exact sound
  · rw [removed]
    exact sound.unregister _

theorem after {shared : Shared} (sound : shared.registry.Sound) (move : Shared.Move) :
    (shared.after move).registry.Sound := by
  cases move with
  | start policy enclave operation =>
      have next := sound.begins (begin_begins policy enclave shared.registry operation)
      simp only [Shared.after]
      split <;> exact next
  | finish place outcome =>
      simp only [Shared.after]
      split
      · exact sound
      · exact sound.finish _ _ _
  | register key => exact sound.register key
  | unregister key => exact sound.unregister key

/-- However proxies work with a registry, it stays sound. -/
theorem run {shared : Shared} (sound : shared.registry.Sound) (moves : List Shared.Move) :
    (shared.run moves).registry.Sound := by
  induction moves generalizing shared with
  | nil => exact sound
  | cons move moves ih => exact ih (sound.after move)

end RemoteObjects.Registry.Sound

namespace RemoteObjects.Proxy

/-- The only shape that an operation can break: a construction or an invocation has as many types as
arguments. -/
def Action.mismatch : Action → Option Request.Violation
  | .construct _ types arguments | .invoke _ _ types arguments =>
      if types.length = arguments.length then none
      else some (.arity types.length arguments.length)
  | .finalize _ | .readField _ _ | .writeField _ _ _ | .readStaticField _ | .writeStaticField _ _ =>
      none

/-- A handle from the registry names an instance, and static operations have the static one. -/
def Action.Suits (handle : Handle) (action : Action) : Prop :=
  match action.object? with
  | some _ => handle.isInstance = true
  | none => handle = .static

theorem target_suits {registry : Registry} (sound : registry.Sound) {operation : Operation}
    {handle : Handle} (found : operation.target registry = .ok handle) :
    operation.action.Suits handle := by
  have looked (object : ObjectId)
      (found : (registry.lookup (operation.key object)).mapError
        (fun failure => (.error (.ofRegistry failure) : Result)) = .ok handle) :
      handle.isInstance = true := by
    unfold Registry.lookup at found
    cases entry : registry.entries.find? (operation.key object) with
    | none => simp [entry, Except.mapError] at found
    | some known =>
        simp only [entry, Except.mapError, Except.ok.injEq] at found
        exact found ▸ sound.isInstance entry
  obtain ⟨className, action⟩ := operation
  cases action with
  | construct object types arguments =>
      simp only [Operation.target] at found
      rcases registry.register_cases (Operation.key ⟨className, .construct object types arguments⟩
          object) with ⟨_, _, result, _⟩ | ⟨_, room, result, _⟩ | ⟨_, result, _⟩
      · simp [result] at found
      · rw [result] at found
        exact Except.ok.inj found ▸
          Registry.isInstance_handleNumbered (Nat.succ_pos _) (Nat.succ_le_of_lt room)
      · simp [result] at found
  | invoke object method types arguments =>
      cases object with
      | none => exact (Except.ok.inj found).symm
      | some object => exact looked object found
  | finalize object => exact looked object found
  | readField object name => exact looked object found
  | writeField object name value => exact looked object found
  | readStaticField name => exact (Except.ok.inj found).symm
  | writeStaticField name value => exact (Except.ok.inj found).symm

theorem isStatic_of_isInstance {handle : Handle} (isInstance : handle.isInstance = true) :
    handle.isStatic = false := by
  apply Bool.eq_false_iff.mpr
  intro static
  rw [of_decide_eq_true static] at isInstance
  contradiction

theorem requireInstance_ok (action : String) {handle : Handle}
    (isInstance : handle.isInstance = true) : Request.requireInstance action handle = .ok () := by
  simp [Request.requireInstance, isInstance]

theorem requireTarget_object {handle : Handle} (isInstance : handle.isInstance = true) :
    Request.requireTarget .object handle = .ok () := by
  simp [Request.requireTarget, isStatic_of_isInstance isInstance, requireInstance_ok _ isInstance]

/-- With a handle that suits it, an operation breaks no other shape. -/
theorem checkShape_request (operation : Operation) {handle : Handle}
    (suits : operation.action.Suits handle) :
    (operation.request handle).checkShape =
      match operation.action.mismatch with
      | none => .ok ()
      | some violation => .error violation := by
  have arity (types : List ValueType) (arguments : List Value) :
      Request.requireArity types arguments =
        match (if types.length = arguments.length then none
            else some (Request.Violation.arity types.length arguments.length)) with
        | none => .ok ()
        | some violation => .error violation := by
    unfold Request.requireArity
    split <;> rfl
  obtain ⟨className, action⟩ := operation
  cases action with
  | construct object types arguments =>
      simp only [Operation.request, Request.checkShape, requireInstance_ok _ suits]
      exact arity types arguments
  | invoke object method types arguments =>
      have callable : (handle.isStatic || handle.isInstance) = true := by
        cases object with
        | none => simp [show handle = .static from suits, Handle.isStatic]
        | some object => simp [show handle.isInstance = true from suits]
      simp only [Operation.request, Request.checkShape, callable, if_true]
      exact arity types arguments
  | finalize object => exact requireInstance_ok _ suits
  | readField object name =>
      simp only [Operation.request, Request.readField, Request.checkShape,
        requireTarget_object suits]
      rfl
  | writeField object name value =>
      simp only [Operation.request, Request.writeField, Request.checkShape,
        requireTarget_object suits]
      rfl
  | readStaticField name => rfl
  | writeStaticField name value => rfl

/-- A transport of any kind: it changes with each request and tells an outcome. -/
abbrev Sender (τ : Type) :=
  τ → Request → Bool → τ × Except Transport.Failure (Option Reply)

/-- The same transport with a list of what it was given to send. -/
def Sender.logged {τ : Type} (send : Sender τ) : Sender (τ × List (Request × Bool)) :=
  fun (transport, sent) request oneWay =>
    let next := send transport request oneWay
    ((next.1, sent ++ [(request, oneWay)]), next.2)

/-- A complete operation: the registry and the transport after it, the requests about which the policy
was asked, and the result. -/
structure Performed (τ : Type) where
  registry : Registry
  transport : τ
  asked : List Request
  result : Result

/-- Others may change the registry while the operation waits for the transport. -/
def perform {τ : Type} (policy : Policy) (enclave : String) (send : Sender τ)
    (meanwhile : Registry → Registry) (registry : Registry) (transport : τ)
    (operation : Operation) : Performed τ :=
  let begun := Proxy.begin policy enclave registry operation
  match begun.result.begun with
  | .finished result => { registry := begun.state, transport, asked := begun.result.asked, result }
  | .sending pending =>
      let sent := send transport pending.request pending.oneWay
      let finished := Proxy.finish enclave (meanwhile begun.state) pending sent.2
      { registry := finished.state
        transport := sent.1
        asked := begun.result.asked
        result := finished.result }

/-- Whom an operation contacts: the requests about which the policy is asked and the requests that are
sent. An operation that stops before the policy contacts nobody. -/
inductive Operation.Contacts (policy : Policy) (registry : Registry) (operation : Operation) :
    List Request → List (Request × Bool) → Result → Prop where
  | nobody {result : Result}
      (stopped : ∀ handle, operation.target registry = .ok handle →
        ∃ violation, (operation.request handle).checkShape = .error violation) :
      Contacts policy registry operation [] [] result
  | denied {handle : Handle} (target : operation.target registry = .ok handle)
      (shape : (operation.request handle).checkShape = .ok ())
      (denied : policy (operation.request handle).kind (operation.request handle) = false) :
      Contacts policy registry operation [operation.request handle] []
        (.error (.permissionDenied (operation.request handle).kind
          (operation.request handle).className))
  | permitted {handle : Handle} {result : Result} (target : operation.target registry = .ok handle)
      (shape : (operation.request handle).checkShape = .ok ())
      (permitted : policy (operation.request handle).kind (operation.request handle) = true) :
      Contacts policy registry operation [operation.request handle]
        [(operation.request handle, (operation.request handle).isOneWay)] result

section Contacts

variable {τ : Type} (policy : Policy) (enclave : String) (send : Sender τ)
  (meanwhile : Registry → Registry) (registry : Registry) (transport : τ) (operation : Operation)

theorem perform_contacts :
    let performed := perform policy enclave send.logged meanwhile registry (transport, []) operation
    operation.Contacts policy registry performed.asked performed.transport.2 performed.result := by
  have begun := begin_result policy enclave registry operation
  cases target : operation.target registry with
  | error result =>
      rw [target] at begun
      simp only [perform, begun]
      exact .nobody fun handle found => by simp [target] at found
  | ok handle =>
      simp only [target, Operation.opening] at begun
      cases shape : (operation.request handle).checkShape with
      | error violation =>
          rw [shape] at begun
          simp only [perform, begun]
          refine .nobody fun other found => ⟨violation, ?_⟩
          cases Except.ok.inj (target.symm.trans found)
          exact shape
      | ok _ =>
          rw [shape] at begun
          cases permitted : policy (operation.request handle).kind (operation.request handle) with
          | false =>
              simp only [permitted, Bool.false_eq_true, if_false] at begun
              simp only [perform, begun]
              exact .denied target shape permitted
          | true =>
              simp only [permitted, if_true] at begun
              have oneWay := operation.isOneWay_request handle
              simp only [perform, begun, Operation.pending, Sender.logged, ← oneWay]
              exact .permitted target shape permitted

variable {policy enclave send meanwhile registry transport operation}

/-- An operation takes notice of what the policy says about the requests that it asks about, and of
nothing else. -/
theorem perform_asked {other : Policy}
    (agree : ∀ request ∈ (perform policy enclave send meanwhile registry transport operation).asked,
      other request.kind request = policy request.kind request) :
    perform other enclave send meanwhile registry transport operation =
      perform policy enclave send meanwhile registry transport operation := by
  have recorded : (perform policy enclave send meanwhile registry transport operation).asked =
      (Proxy.begin policy enclave registry operation).result.asked := by
    simp only [perform]
    split <;> rfl
  have same : Proxy.begin other enclave registry operation =
      Proxy.begin policy enclave registry operation := begin_asked (recorded ▸ agree)
  simp only [perform, same]

end Contacts

namespace Operation.Contacts

variable {policy : Policy} {registry : Registry} {operation : Operation} {asked : List Request}
  {sent : List (Request × Bool)} {result : Result}

theorem once (contacts : operation.Contacts policy registry asked sent result) :
    asked.length ≤ 1 ∧ sent.length ≤ 1 := by
  cases contacts <;> simp

theorem wellShaped (contacts : operation.Contacts policy registry asked sent result) :
    ∀ request ∈ asked, request.checkShape = .ok () := by
  cases contacts with
  | nobody stopped => simp
  | denied target shape denied => simpa using shape
  | permitted target shape permitted => simpa using shape

theorem approved (contacts : operation.Contacts policy registry asked sent result)
    {request : Request} {oneWay : Bool} (member : (request, oneWay) ∈ sent) :
    request ∈ asked ∧ policy request.kind request = true ∧ oneWay = request.isOneWay := by
  cases contacts with
  | nobody stopped => cases member
  | denied target shape denied => cases member
  | permitted target shape permitted =>
      cases List.mem_singleton.mp member
      exact ⟨by simp, permitted, rfl⟩

theorem refused (contacts : operation.Contacts policy registry asked sent result)
    {request : Request} (member : request ∈ asked)
    (no : policy request.kind request = false) :
    sent = [] ∧ result = .error (.permissionDenied request.kind request.className) := by
  cases contacts with
  | nobody stopped => cases member
  | denied target shape denied =>
      cases List.mem_singleton.mp member
      exact ⟨rfl, rfl⟩
  | permitted target shape permitted =>
      rw [List.mem_singleton.mp member, permitted] at no
      cases no

/-- A request of the right shape comes before the policy, and is sent if that permits it. -/
theorem complete (contacts : operation.Contacts policy registry asked sent result)
    {handle : Handle} (target : operation.target registry = .ok handle)
    (shape : (operation.request handle).checkShape = .ok ()) :
    asked = [operation.request handle] ∧
      (policy (operation.request handle).kind (operation.request handle) = true →
        sent = [(operation.request handle, (operation.request handle).isOneWay)]) := by
  cases contacts with
  | nobody stopped =>
      obtain ⟨violation, malformed⟩ := stopped handle target
      rw [shape] at malformed
      cases malformed
  | denied found _ denied =>
      cases Except.ok.inj (target.symm.trans found)
      exact ⟨rfl, fun yes => by simp [denied] at yes⟩
  | permitted found _ _ =>
      cases Except.ok.inj (target.symm.trans found)
      exact ⟨rfl, fun _ => rfl⟩

end Operation.Contacts

/-- Whatever an operation sends was checked for its shape and then permitted, and nothing else reaches the
policy or the transport. -/
theorem boundary_checked {τ : Type} (moves : List Shared.Move) (policy : Policy)
    (enclave : String) (operation : Operation) (send : Sender τ) (transport : τ)
    (meanwhile : Registry → Registry) :
    let registry := (Shared.run {} moves).registry
    let performed policy :=
      perform policy enclave send.logged meanwhile registry (transport, []) operation
    let asked := (performed policy).asked
    let sent := (performed policy).transport.2
    asked.length ≤ 1 ∧ sent.length ≤ 1 ∧
      (∀ request ∈ asked, request.checkShape = .ok ()) ∧
      (∀ request oneWay, (request, oneWay) ∈ sent →
        request.checkShape = .ok () ∧ request ∈ asked ∧ policy request.kind request = true ∧
          oneWay = request.isOneWay) ∧
      (∀ request ∈ asked, policy request.kind request = false →
        sent = [] ∧
          (performed policy).result =
            .error (.permissionDenied request.kind request.className)) ∧
      (∀ other : Policy,
        (∀ request ∈ asked, other request.kind request = policy request.kind request) →
          performed other = performed policy) ∧
      ∀ handle, operation.target registry = .ok handle →
        (operation.request handle).checkShape =
            (match operation.action.mismatch with
            | none => .ok ()
            | some violation => .error violation) ∧
          (operation.action.mismatch = none →
            asked = [operation.request handle] ∧
              (policy (operation.request handle).kind (operation.request handle) = true →
                sent = [(operation.request handle, (operation.request handle).isOneWay)])) := by
  intro registry performed asked sent
  have sound : registry.Sound := Registry.Sound.run .empty moves
  have contacts : operation.Contacts policy registry asked sent (performed policy).result :=
    perform_contacts policy enclave send meanwhile registry transport operation
  refine ⟨contacts.once.1, contacts.once.2, contacts.wellShaped, ?_,
    fun request member no => contacts.refused member no, fun other agree => perform_asked agree, ?_⟩
  · intro request oneWay member
    have approved := contacts.approved member
    exact ⟨contacts.wellShaped request approved.1, approved⟩
  · intro handle target
    have shape := checkShape_request operation (target_suits sound target)
    refine ⟨shape, fun equal => contacts.complete target ?_⟩
    rw [shape, equal]

end RemoteObjects.Proxy
