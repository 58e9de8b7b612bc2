import RemoteObjects.Proofs.Association
import RemoteObjects.Proofs.Proxy.Conduct

namespace RemoteObjects

theorem Registry.state_unregister (registry : Registry) (key : RegistryKey) :
    (registry.unregister key).state = { registry with entries := registry.entries.erase key } := by
  unfold unregister
  cases found : registry.entries.find? key with
  | some handle => rfl
  | none => simp [Association.erase_of_absent found]

/-- An entry that is made and taken back leaves nothing but the number that it has used up. -/
theorem Registry.entries_unregister_register {registry : Registry} {key : RegistryKey}
    (absent : registry.entries.find? key = none) :
    ((registry.register key).state.unregister key).state.entries = registry.entries := by
  rw [state_unregister]
  rcases registry.register_cases key with ⟨_, found, _, _⟩ | ⟨_, _, _, state⟩ | ⟨_, _, state⟩
  · cases found.symm.trans absent
  · rw [state, Association.erase_set, Association.erase_of_absent absent]
  · rw [state, Association.erase_of_absent absent]

/-- A fresh handle is given to a new object, with an entry. -/
theorem Registry.entries_register_fresh {registry : Registry} {key : RegistryKey} {handle : Handle}
    (fresh : (registry.register key).result = .ok (.fresh handle)) :
    registry.entries.find? key = none ∧
      (registry.register key).state.entries = registry.entries.set key handle := by
  rcases registry.register_cases key with
    ⟨_, _, result, _⟩ | ⟨absent, _, result, state⟩ | ⟨_, result, _⟩
  · cases result.symm.trans fresh
  · cases result.symm.trans fresh
    exact ⟨absent, by rw [state]⟩
  · cases result.symm.trans fresh

namespace Proxy

def Action.isConstruction : Action → Bool
  | .construct .. => true
  | .finalize .. | .invoke .. | .readField .. | .writeField .. | .readStaticField ..
  | .writeStaticField .. => false

/-- An action that may change the registry. -/
def Action.isLifecycle : Action → Bool
  | .construct .. | .finalize .. => true
  | .invoke .. | .readField .. | .writeField .. | .readStaticField .. | .writeStaticField .. => false

/-- The request with this handle has the right shape and is permitted. -/
def Operation.Passes (policy : Policy) (operation : Operation) (handle : Handle) : Prop :=
  let request := operation.request handle
  request.checkShape = .ok () ∧ policy request.kind request = true

/-- The object has a handle, with which the request of the operation passes. -/
def Operation.Reaches (policy : Policy) (registry : Registry) (operation : Operation)
    (object : ObjectId) : Prop :=
  ∃ handle, registry.entries.find? (operation.key object) = some handle ∧
    operation.Passes policy handle

/-- What an operation leaves of the registry, whatever comes of its sending. -/
structure Settles {τ : Type} (policy : Policy) (send : Sender τ) (registry : Registry)
    (transport : τ) (operation : Operation) (performed : Performed (τ × List (Request × Bool))) :
    Prop where
  /-- A construction that fails leaves all entries as they were. -/
  failed : ∀ object types arguments failure, operation.action = .construct object types arguments →
    performed.result = .error failure → performed.registry.entries = registry.entries
  /-- A construction of a new object that succeeds adds its entry, with the handle that was sent. -/
  constructed : ∀ object types arguments answer,
    operation.action = .construct object types arguments →
    registry.entries.find? (operation.key object) = none → performed.result = .ok answer →
      ∃ handle, answer = .handle handle ∧
        performed.registry.entries.entries =
          registry.entries.entries ++ [(operation.key object, handle)] ∧
        performed.transport.2 =
          [(.construct handle operation.className types arguments, true)]
  /-- With a fresh handle that passes, a construction succeeds exactly if its one sending does. -/
  sent : ∀ object types arguments handle, operation.action = .construct object types arguments →
    (registry.register (operation.key object)).result = .ok (.fresh handle) →
    operation.Passes policy handle →
      let request := .construct handle operation.className types arguments
      performed.transport.2 = [(request, true)] ∧
        (∀ reply, (send transport request true).2 = .ok reply →
          performed.result = .ok (.handle handle)) ∧
        ∀ failure, (send transport request true).2 = .error failure →
          performed.result = .error (.ofTransport failure) ∧
            performed.registry.entries = registry.entries
  /-- Without one, a construction of a new object fails and sends nothing. -/
  barred : ∀ object types arguments, operation.action = .construct object types arguments →
    registry.entries.find? (operation.key object) = none →
    (∀ handle, (registry.register (operation.key object)).result = .ok (.fresh handle) →
      ¬ operation.Passes policy handle) →
      (∃ failure, performed.result = .error failure) ∧ performed.transport.2 = []
  /-- A construction of a known object contacts nobody. -/
  known : ∀ object types arguments handle,
    operation.action = .construct object types arguments →
    registry.entries.find? (operation.key object) = some handle →
      performed.registry = registry ∧ performed.result = .ok (.handle handle) ∧
        performed.asked = [] ∧ performed.transport.2 = []
  /-- A finalization removes the entry of its object exactly if the other side is to be told. -/
  finalized : ∀ object, operation.action = .finalize object →
    (operation.Reaches policy registry object →
      performed.registry =
        { registry with entries := registry.entries.erase (operation.key object) }) ∧
    (¬ operation.Reaches policy registry object → performed.registry = registry)
  /-- It tells the other side once, and succeeds exactly if this does. -/
  told : ∀ object handle, operation.action = .finalize object →
    registry.entries.find? (operation.key object) = some handle →
    operation.Passes policy handle →
      let request := .finalize handle operation.className
      performed.transport.2 = [(request, true)] ∧
        (∀ reply, (send transport request true).2 = .ok reply → performed.result = .ok .done) ∧
        ∀ failure, (send transport request true).2 = .error failure →
          performed.result = .error (.ofTransport failure)
  used : operation.action.isLifecycle = false → performed.registry = registry
  /-- An operation on an object without a handle contacts nobody. -/
  unknown : ∀ object, operation.action.object? = some object →
    operation.action.isConstruction = false →
    registry.entries.find? (operation.key object) = none →
      performed.result = .error (.handleNotFound operation.className) ∧
        performed.asked = [] ∧ performed.transport.2 = []

section Targets

variable {registry : Registry} {operation : Operation} {object : ObjectId}
  {types : List ValueType} {arguments : List Value} {handle : Handle}

theorem target_known (action : operation.action = .construct object types arguments)
    (found : registry.entries.find? (operation.key object) = some handle) :
    operation.target registry = .error (.ok (.handle handle)) := by
  simp [Operation.target, action, Registry.register, found]

theorem target_fresh (action : operation.action = .construct object types arguments)
    (fresh : (registry.register (operation.key object)).result = .ok (.fresh handle)) :
    operation.target registry = .ok handle := by
  simp [Operation.target, action, fresh]

/-- The registration behind a construction. -/
theorem enrolled_construct (action : operation.action = .construct object types arguments) :
    operation.enrolled registry = (registry.register (operation.key object)).state := by
  simp [Operation.enrolled, action]

/-- A new object gets a fresh handle, or there is none left. -/
theorem target_new (action : operation.action = .construct object types arguments)
    (absent : registry.entries.find? (operation.key object) = none) :
    operation.target registry = .error (.error .handlesExhausted) ∨
      ∃ handle, (registry.register (operation.key object)).result = .ok (.fresh handle) := by
  rcases registry.register_cases (operation.key object) with
    ⟨_, found, _, _⟩ | ⟨_, _, result, _⟩ | ⟨_, result, _⟩
  · cases found.symm.trans absent
  · exact .inr ⟨_, result⟩
  · exact .inl (by simp [Operation.target, action, result, Failure.ofRegistry])

theorem target_use (addressed : operation.action.object? = some object)
    (use : operation.action.isConstruction = false) :
    operation.target registry =
      match registry.entries.find? (operation.key object) with
      | some handle => .ok handle
      | none => .error (.error (.handleNotFound operation.className)) := by
  have looked : operation.target registry =
      (registry.lookup (operation.key object)).mapError
        fun failure => .error (.ofRegistry failure) := by
    obtain ⟨className, action⟩ := operation
    cases action with
    | construct other types arguments => cases use
    | readStaticField name => cases addressed
    | writeStaticField name value => cases addressed
    | invoke | finalize | readField | writeField =>
        cases addressed
        rfl
  rw [looked, Registry.lookup]
  cases registry.entries.find? (operation.key object) <;> rfl

end Targets

section Beginning

variable {policy : Policy} {enclave : String} {registry : Registry} {operation : Operation}

theorem begin_use (use : operation.action.isConstruction = false) :
    (Proxy.begin policy enclave registry operation).state = registry := by
  unfold Proxy.begin
  split
  · rename_i action
    simp [action, Action.isConstruction] at use
  · exact beginOn_state ..
  · exact beginOn_state ..

theorem begin_stopped {result : Result} (stopped : operation.target registry = .error result) :
    (Proxy.begin policy enclave registry operation).state = registry := by
  cases action : operation.action with
  | construct object types arguments =>
      simp only [Operation.target, action] at stopped
      simp only [Proxy.begin, action, beginConstruct]
      rcases registry.register_cases (operation.key object) with
        ⟨_, _, registered, state⟩ | ⟨_, _, registered, _⟩ | ⟨_, registered, state⟩
      · rw [registered]
        exact state
      -- With a fresh handle the operation would have gone on.
      · rw [registered] at stopped
        cases stopped
      · rw [registered]
        exact state
  | finalize | invoke | readField | writeField | readStaticField | writeStaticField =>
      exact begin_use (by rw [action]; rfl)

theorem begin_finished {result : Result}
    (finished : (Proxy.begin policy enclave registry operation).result.begun = .finished result) :
    (Proxy.begin policy enclave registry operation).state.entries = registry.entries := by
  have begins := begin_begins policy enclave registry operation
  rw [finished] at begins
  cases begins with
  | ends _ unchanged => rw [unchanged]
  | retracts _ object absent retracted =>
      rw [retracted]
      exact Registry.entries_unregister_register absent

theorem begin_sent {pending : Pending}
    (sending : (Proxy.begin policy enclave registry operation).result.begun = .sending pending) :
    (Proxy.begin policy enclave registry operation).state = operation.enrolled registry := by
  have begins := begin_begins policy enclave registry operation
  rw [sending] at begins
  cases begins with
  | sends _ enrolled => exact enrolled

end Beginning

section Finishing

variable {operation : Operation} {object : ObjectId} (enclave : String) (registry : Registry)
  (handle : Handle) (outcome : Except Transport.Failure (Option Reply))

/-- A construction keeps its entry exactly if its request was sent. -/
theorem finish_construct {types : List ValueType} {arguments : List Value}
    (action : operation.action = .construct object types arguments) :
    let finished := finish enclave registry (operation.pending handle) outcome
    (∃ reply, outcome = .ok reply ∧ finished.result = .ok (.handle handle) ∧
        finished.state = registry) ∨
      ∃ failure, outcome = .error failure ∧ finished.result = .error (.ofTransport failure) ∧
        finished.state = (registry.unregister (operation.key object)).state := by
  simp only [finish, Operation.pending, action, finishConstruct]
  cases outcome with
  | ok reply => exact .inl ⟨reply, rfl, rfl, rfl⟩
  | error failure => exact .inr ⟨failure, rfl, rfl, rfl⟩

theorem finish_finalize (action : operation.action = .finalize object) :
    let finished := finish enclave registry (operation.pending handle) outcome
    finished.result = (sendResult outcome).map (fun _ => .done) ∧
      finished.state = (registry.unregister (operation.key object)).state := by
  simp only [finish, Operation.pending, action, finishFinalize]
  cases sendResult outcome <;> exact ⟨rfl, rfl⟩

theorem finish_use (use : operation.action.isLifecycle = false) :
    (finish enclave registry (operation.pending handle) outcome).state = registry := by
  obtain ⟨className, action⟩ := operation
  cases action with
  | construct | finalize => cases use
  | invoke | readField | writeField | readStaticField | writeStaticField => rfl

end Finishing

section Performing

variable {τ : Type} (policy : Policy) (enclave : String) (send : Sender τ) (registry : Registry)
  (transport : τ) {operation : Operation}

/-- An operation that does not get a handle contacts nobody and changes nothing. -/
theorem perform_of_stopped {result : Result} (stopped : operation.target registry = .error result) :
    perform policy enclave send.logged id registry (transport, []) operation =
      { registry, transport := (transport, []), asked := [], result } := by
  have begun := begin_result policy enclave registry operation
  rw [stopped] at begun
  simp only [perform, begun, begin_stopped stopped]

/-- An operation that does not pass fails. -/
theorem perform_of_barred {handle : Handle} (target : operation.target registry = .ok handle)
    (barred : ¬ operation.Passes policy handle) :
    let begun := Proxy.begin policy enclave registry operation
    ∃ failure, begun.result.begun = .finished (.error failure) ∧
      perform policy enclave send.logged id registry (transport, []) operation =
        { registry := begun.state
          transport := (transport, [])
          asked := begun.result.asked
          result := .error failure } := by
  intro begun
  have finished : ∃ failure, begun.result.begun = .finished (.error failure) := by
    have opening := begin_result policy enclave registry operation
    simp only [target, Operation.opening] at opening
    cases shape : (operation.request handle).checkShape with
    | error violation =>
        rw [shape] at opening
        exact ⟨_, congrArg Opening.begun opening⟩
    | ok _ =>
        have denied : policy (operation.request handle).kind (operation.request handle) ≠ true :=
          fun permitted => barred ⟨shape, permitted⟩
        rw [shape, if_neg denied] at opening
        exact ⟨_, congrArg Opening.begun opening⟩
  obtain ⟨failure, finished⟩ := finished
  refine ⟨failure, finished, ?_⟩
  simp only [begun] at finished ⊢
  simp only [perform, finished]

/-- An operation that passes ends with what comes of its sending. -/
theorem perform_of_passes {handle : Handle} (target : operation.target registry = .ok handle)
    (passes : operation.Passes policy handle) :
    let sent := send transport (operation.request handle) (!operation.action.awaitsReply)
    let finished := finish enclave (operation.enrolled registry) (operation.pending handle) sent.2
    perform policy enclave send.logged id registry (transport, []) operation =
      { registry := finished.state
        transport := (sent.1, [(operation.request handle, !operation.action.awaitsReply)])
        asked := [operation.request handle]
        result := finished.result } := by
  have begun := begin_result policy enclave registry operation
  simp only [target, Operation.opening, passes.1, if_pos passes.2] at begun
  have sending : (Proxy.begin policy enclave registry operation).result.begun =
      .sending (operation.pending handle) := by rw [begun]
  simp only [perform, begun, begin_sent sending]
  rfl

section Construction

variable {object : ObjectId} {types : List ValueType} {arguments : List Value}

/-- A construction with a fresh handle that passes sends once, and then keeps its entry or takes it
back. -/
theorem perform_fresh {handle : Handle}
    (action : operation.action = .construct object types arguments)
    (fresh : (registry.register (operation.key object)).result = .ok (.fresh handle))
    (passes : operation.Passes policy handle) :
    let request := .construct handle operation.className types arguments
    let performed := perform policy enclave send.logged id registry (transport, []) operation
    performed.transport.2 = [(request, true)] ∧
      ((∃ reply, (send transport request true).2 = .ok reply ∧
          performed.result = .ok (.handle handle) ∧
          performed.registry.entries = registry.entries.set (operation.key object) handle) ∨
        ∃ failure, (send transport request true).2 = .error failure ∧
          performed.result = .error (.ofTransport failure) ∧
          performed.registry.entries = registry.entries) := by
  intro request performed
  have sending : operation.request handle = request ∧ (!operation.action.awaitsReply) = true := by
    simp [request, Operation.request, Action.awaitsReply, action]
  obtain ⟨absent, entries⟩ := Registry.entries_register_fresh fresh
  have ended := perform_of_passes policy enclave send registry transport
    (target_fresh action fresh) passes
  rw [sending.1, sending.2, enrolled_construct action] at ended
  simp only [performed, ended]
  refine ⟨trivial, ?_⟩
  rcases finish_construct enclave (registry.register (operation.key object)).state handle
      (send transport request true).2 action with
    ⟨reply, sent, result, state⟩ | ⟨failure, sent, result, state⟩
  · exact .inl ⟨reply, sent, result, by rw [state, entries]⟩
  · refine .inr ⟨failure, sent, result, ?_⟩
    rw [state]
    exact Registry.entries_unregister_register absent

/-- A construction of a new object without a fresh handle that passes fails, and sends nothing. -/
theorem perform_barred (action : operation.action = .construct object types arguments)
    (absent : registry.entries.find? (operation.key object) = none)
    (barred : ∀ handle, (registry.register (operation.key object)).result = .ok (.fresh handle) →
      ¬ operation.Passes policy handle) :
    let performed := perform policy enclave send.logged id registry (transport, []) operation
    (∃ failure, performed.result = .error failure) ∧
      performed.registry.entries = registry.entries ∧ performed.transport.2 = [] := by
  dsimp only
  rcases target_new action absent with exhausted | ⟨handle, fresh⟩
  · rw [perform_of_stopped policy enclave send registry transport exhausted]
    exact ⟨⟨_, rfl⟩, rfl, rfl⟩
  · obtain ⟨failure, finished, ended⟩ := perform_of_barred policy enclave send registry transport
      (target_fresh action fresh) (barred handle fresh)
    rw [ended]
    exact ⟨⟨failure, rfl⟩, begin_finished finished, rfl⟩

/-- A construction of a new object fails and leaves all entries as they were, or it succeeds and adds
its own. -/
theorem perform_new (action : operation.action = .construct object types arguments)
    (absent : registry.entries.find? (operation.key object) = none) :
    let performed := perform policy enclave send.logged id registry (transport, []) operation
    (∃ failure, performed.result = .error failure ∧
        performed.registry.entries = registry.entries) ∨
      ∃ handle, performed.result = .ok (.handle handle) ∧
        performed.registry.entries = registry.entries.set (operation.key object) handle ∧
        performed.transport.2 =
          [(.construct handle operation.className types arguments, true)] := by
  dsimp only
  by_cases granted : ∃ handle, (registry.register (operation.key object)).result =
      .ok (.fresh handle) ∧ operation.Passes policy handle
  · obtain ⟨handle, fresh, passes⟩ := granted
    obtain ⟨sent, ⟨_, _, result, entries⟩ | ⟨failure, _, result, entries⟩⟩ :=
      perform_fresh policy enclave send registry transport action fresh passes
    · exact .inr ⟨handle, result, entries, sent⟩
    · exact .inl ⟨_, result, entries⟩
  · obtain ⟨⟨failure, result⟩, entries, _⟩ :=
      perform_barred policy enclave send registry transport action absent
        fun handle fresh passes => granted ⟨handle, fresh, passes⟩
    exact .inl ⟨failure, result, entries⟩

end Construction

/-- A finalization removes the entry of its object exactly if it passes, and nothing else. -/
theorem perform_finalize {object : ObjectId} (action : operation.action = .finalize object) :
    let performed := perform policy enclave send.logged id registry (transport, []) operation
    (operation.Reaches policy registry object →
        performed.registry =
          { registry with entries := registry.entries.erase (operation.key object) }) ∧
      (¬ operation.Reaches policy registry object → performed.registry = registry) := by
  dsimp only [Operation.Reaches]
  have use : operation.action.isConstruction = false := by simp [action, Action.isConstruction]
  have addressed : operation.action.object? = some object := by simp [action, Action.object?]
  have target : operation.target registry = _ := target_use addressed use
  cases found : registry.entries.find? (operation.key object) with
  | none =>
      rw [found] at target
      rw [perform_of_stopped policy enclave send registry transport target]
      simp
  | some handle =>
      rw [found] at target
      by_cases passes : operation.Passes policy handle
      · rw [perform_of_passes policy enclave send registry transport target passes]
        refine ⟨fun _ => ?_, fun barred => absurd ⟨handle, rfl, passes⟩ barred⟩
        rw [(finish_finalize _ _ _ _ action).2, Registry.state_unregister]
        simp [Operation.enrolled, action]
      · obtain ⟨failure, finished, barred⟩ :=
          perform_of_barred policy enclave send registry transport target passes
        rw [barred, begin_use use]
        refine ⟨?_, fun _ => rfl⟩
        rintro ⟨other, same, permitted⟩
        cases same
        exact absurd permitted passes

theorem perform_use (use : operation.action.isLifecycle = false) :
    (perform policy enclave send.logged id registry (transport, []) operation).registry =
      registry := by
  have unbuilt : operation.action.isConstruction = false ∧
      operation.enrolled registry = registry := by
    obtain ⟨className, action⟩ := operation
    cases action with
    | construct | finalize => cases use
    | invoke | readField | writeField | readStaticField | writeStaticField => exact ⟨rfl, rfl⟩
  cases target : operation.target registry with
  | error result => rw [perform_of_stopped policy enclave send registry transport target]
  | ok handle =>
      by_cases passes : operation.Passes policy handle
      · rw [perform_of_passes policy enclave send registry transport target passes]
        exact (finish_use enclave _ handle _ use).trans unbuilt.2
      · obtain ⟨failure, finished, barred⟩ :=
          perform_of_barred policy enclave send registry transport target passes
        rw [barred]
        exact begin_use unbuilt.1

end Performing

/-- This is what any operation leaves of any registry that nobody else uses meanwhile. -/
theorem operations_settle_registry {τ : Type} (policy : Policy) (enclave : String)
    (send : Sender τ) (registry : Registry) (transport : τ) (operation : Operation) :
    Settles policy send registry transport operation
      (perform policy enclave send.logged id registry (transport, []) operation) where
  failed object types arguments failure action failed := by
    cases found : registry.entries.find? (operation.key object) with
    | some handle =>
        rw [perform_of_stopped policy enclave send registry transport (target_known action found)]
    | none =>
        rcases perform_new policy enclave send registry transport action found with
          ⟨_, _, entries⟩ | ⟨handle, succeeded, _⟩
        · exact entries
        · cases succeeded.symm.trans failed
  constructed object types arguments answer action absent succeeded := by
    rcases perform_new policy enclave send registry transport action absent with
      ⟨_, failed, _⟩ | ⟨handle, result, entries, sent⟩
    · cases failed.symm.trans succeeded
    · refine ⟨handle, Except.ok.inj (succeeded.symm.trans result), ?_, sent⟩
      rw [entries]
      exact Association.entries_set_of_absent absent handle
  sent object types arguments handle action fresh passes := by
    obtain ⟨sent, ⟨_, outcome, result, _⟩ | ⟨_, outcome, result, entries⟩⟩ :=
      perform_fresh policy enclave send registry transport action fresh passes
    · refine ⟨sent, fun _ _ => result, fun failure failed => ?_⟩
      cases outcome.symm.trans failed
    · refine ⟨sent, fun reply succeeded => ?_, fun failure failed => ?_⟩
      · cases outcome.symm.trans succeeded
      · cases outcome.symm.trans failed
        exact ⟨result, entries⟩
  barred object types arguments action absent barred :=
    let ended := perform_barred policy enclave send registry transport action absent barred
    ⟨ended.1, ended.2.2⟩
  known object types arguments handle action found := by
    rw [perform_of_stopped policy enclave send registry transport (target_known action found)]
    exact ⟨rfl, rfl, rfl, rfl⟩
  finalized object action := perform_finalize policy enclave send registry transport action
  told object handle action found passes := by
    have addressed : operation.action.object? = some object := by simp [action, Action.object?]
    have use : operation.action.isConstruction = false := by simp [action, Action.isConstruction]
    have target : operation.target registry = .ok handle := by rw [target_use addressed use, found]
    have sending : operation.request handle = .finalize handle operation.className ∧
        (!operation.action.awaitsReply) = true := by
      simp [Operation.request, Action.awaitsReply, action]
    rw [perform_of_passes policy enclave send registry transport target passes, sending.1, sending.2,
      (finish_finalize _ _ _ _ action).1]
    refine ⟨rfl, fun reply succeeded => ?_, fun failure failed => ?_⟩
    · rw [succeeded]
      rfl
    · rw [failed]
      rfl
  used use := perform_use policy enclave send registry transport use
  unknown object addressed use absent := by
    have target : operation.target registry = _ := target_use addressed use
    rw [absent] at target
    rw [perform_of_stopped policy enclave send registry transport target]
    exact ⟨rfl, rfl, rfl⟩

end Proxy

end RemoteObjects
