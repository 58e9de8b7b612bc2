import RemoteObjects.Proofs.Catalog.Members
import RemoteObjects.Proofs.Host.Outcome

namespace RemoteObjects

variable {σ : Type}

namespace Host

/-- One instance may have a new state; all else is as before. -/
inductive OnlyChanged (host : Host σ) (key : InstanceKey) : Host σ → Prop where
  | state {target : Instance σ} (found : host.instances.find? key = some target) (state : σ) :
      OnlyChanged host key { host with instances := host.instances.set key { target with state } }

namespace Effect

variable {catalog : Catalog σ} {host next : Host σ} {request : Request} {failure : Failure}

/-- A failure for which no body is to blame goes with no change. -/
theorem unchanged_of_refused (effect : Effect catalog host request (some failure) next)
    (refused : ∀ text, failure.reason ≠ .invocationFailed text) : next = host := by
  cases effect with
  | nothing => rfl
  | changes state changes addressed found ran =>
      obtain ⟨text, blamed⟩ := ran failure rfl
      exact absurd blamed (refused text)

theorem unchanged_of_lifecycle (effect : Effect catalog host request (some failure) next)
    (lifecycle : request.isLifecycle = true) : next = host := by
  cases effect with
  | nothing => rfl
  | changes state changes => cases changes <;> cases lifecycle

theorem unchanged_of_read {ending : Option Failure} (effect : Effect catalog host request ending next)
    (read : request.kind = .readField) : next = host := by
  cases effect with
  | nothing => rfl
  | changes state changes => cases changes <;> cases read
  | builds | stores | releases => cases read

/-- A static invocation is addressed to no instance that it could change. -/
theorem unchanged_of_static {ending : Option Failure}
    (effect : Effect catalog host request ending next) (invocation : request.kind = .invoke)
    (static : request.handle.isStatic = true) : next = host := by
  cases effect with
  | nothing => rfl
  | changes state changes addressed =>
      cases changes with
      | invoke method types arguments =>
          simp only [Request.handle] at static
          simp [Request.target?, static] at addressed
      | write name value => cases invocation
  | builds | stores | releases => cases invocation

theorem confined (effect : Effect catalog host request (some failure) next) :
    next = host ∨
      ∃ key, request.Changes key ∧ request.target? = some key ∧ host.OnlyChanged key next := by
  cases effect with
  | nothing => exact .inl rfl
  | changes state changes addressed found => exact .inr ⟨_, changes, addressed, .state found state⟩

end Effect

/-- What a step with a request leaves as it is, if it ends with this refusal or with none. The refusal
is what the caller is told, and it is the only thing that is logged as a warning. -/
structure Spares (host : Host σ) (request : Request) (step : Step (Host σ) (Option Reply))
    (refusal : Option Refusal) : Prop where
  told : request.isOneWay = false →
    ∀ reason, step.result = some (.refused reason) ↔ refusal = some reason
  logged : step.warnings = refusal.toList.length
  refused : ∀ reason, refusal = some reason → (∀ text, reason ≠ .invocationFailed text) →
    step.state = host
  lifecycle : request.isLifecycle = true → refusal.isSome = true → step.state = host
  read : request.kind = .readField → step.state = host
  static : request.kind = .invoke → request.handle.isStatic = true → step.state = host
  failed : ∀ text, refusal = some (.invocationFailed text) →
    step.state = host ∨
      ∃ key, request.Changes key ∧ request.target? = some key ∧ host.OnlyChanged key step.state

theorem execute_spares (catalog : Catalog σ) (host : Host σ) (request : Request) :
    host.Spares request (execute catalog host request)
      ((host.failure? catalog request).map Failure.reason) := by
  have effect := host.execute_effect catalog request
  have warned := host.warnings_execute catalog request
  have read := effect.unchanged_of_read
  have static := effect.unchanged_of_static
  cases ending : host.failure? catalog request with
  | none =>
      rw [ending] at warned
      refine ⟨?_, warned, nofun, nofun, read, static, nofun⟩
      intro awaits reason
      have replied := host.result_execute catalog awaits
      rw [ending] at replied
      obtain ⟨value, granted⟩ := replied
      simp [granted]
  | some failure =>
      rw [ending] at warned effect
      refine ⟨?_, warned, ?_, fun building _ => effect.unchanged_of_lifecycle building, read, static,
        fun _ _ => effect.confined⟩
      · intro awaits reason
        have replied := host.result_execute catalog awaits
        rw [ending] at replied
        rw [replied]
        simp
      · intro reason refused other
        cases refused
        exact effect.unchanged_of_refused other

end Host

namespace Session

namespace Stores

variable (stores : Stores) (dispatcher : Dispatcher) {handle : Handle} {className : String}
  {types : List ValueType} {arguments : List Value}

end Stores

end Session

namespace Host

/-- The reason for which an endpoint refuses a request: it is malformed, or its operation fails. -/
def refusal? (catalog : Catalog σ) (host : Host σ) (request : Request) : Option Refusal :=
  match request.checkShape with
  | .error _ => some .unsupported
  | .ok () => (host.failure? catalog request).map Failure.reason

theorem answer_spares (catalog : Catalog σ) (host : Host σ) (request : Request) :
    host.Spares request (answer catalog host request) (host.refusal? catalog request) := by
  unfold answer Execution.guarded refusal?
  cases request.checkShape with
  | ok _ => exact host.execute_spares catalog request
  | error violation =>
      refine ⟨?_, rfl, fun _ _ _ => rfl, fun _ _ => rfl, fun _ => rfl, fun _ _ => rfl, nofun⟩
      intro awaits reason
      simp [Execution.refuseMalformed, awaits]

end Host

end RemoteObjects
