import RemoteObjects.Proofs.Host.Refusals
import RemoteObjects.Proofs.Request.Shape
import RemoteObjects.Proofs.Service.Answering
import RemoteObjects.Proofs.Signature

namespace RemoteObjects

variable {σ : Type}

theorem Constructor.build_succeeds_iff (constructor : Constructor σ) (arguments : List Value) :
    (∃ built, constructor.build arguments = .ok built) ↔
      constructor.types.Admits arguments ∧ ∃ state, constructor.body arguments = .ok state := by
  rw [build, check_succeeds_iff, Signature.require_eq_ok_iff]
  cases constructor.body arguments with
  | error failure => simp [throw, throwThe, MonadExceptOf.throw]
  | ok state => simp [pure, Except.pure]

theorem Method.invokeStatic_succeeds_iff (method : Method σ) (arguments : List Value) :
    (∃ value, method.invokeStatic arguments = .ok value) ↔
      method.types.Admits arguments ∧
        ∃ run value, method.body = .static run ∧ run arguments = .ok value := by
  rw [invokeStatic, check_succeeds_iff, Signature.require_eq_ok_iff]
  cases method.body with
  | object run => simp [throw, throwThe, MonadExceptOf.throw]
  | static run => simp [mapError_eq_ok_iff]

theorem Method.invoke_succeeds_iff (method : Method σ) (scope : method.scope = .object)
    (target : Instance σ) (arguments : List Value) :
    (∃ value, (method.invoke target arguments).2 = .ok value) ↔
      method.types.Admits arguments ∧ target.type = method.owner.objectType ∧
        ∃ run value, method.body = .object run ∧ (run target.state arguments).2 = .ok value := by
  rw [invoke, ← Signature.require_eq_ok_iff]
  cases method.types.require arguments with
  | error failure => simp
  | ok _ =>
      cases body : method.body with
      | static run => simp [Method.scope, body] at scope
      | object run =>
          by_cases fits : target.type = method.owner.objectType
          · simp [fits, mapError_eq_ok_iff]
          · simp [fits]

theorem Field.read_succeeds_iff (field : Field σ) (scope : field.scope = .object)
    (statics : Statics) (target : Instance σ) :
    (∃ value, field.read statics (some target) = .ok value) ↔
      target.type = field.owner.objectType := by
  cases store : field.store with
  | static => simp [Field.scope, store] at scope
  | object get set =>
      by_cases fits : target.type = field.owner.objectType
      · simp [read, store, fits]
      · simp [read, store, fits]

theorem Field.write_succeeds_iff (field : Field σ) (scope : field.scope = .object)
    (statics : Statics) (target : Instance σ) (value : Value) :
    (field.write statics (some target) value).2.2 = .ok () ↔
      field.type.accepts value = true ∧ target.type = field.owner.objectType ∧
        ∃ get set, field.store = .object get set ∧ (set target.state value).2 = .ok () := by
  unfold write
  rw [← field.require_eq_ok_iff]
  cases store : field.store with
  | static => simp [Field.scope, store] at scope
  | object get set =>
      cases field.require value with
      | error failure => simp
      | ok _ =>
          by_cases fits : target.type = field.owner.objectType
          · simp [fits, mapError_eq_ok_iff]
          · simp [fits]

namespace Host

/-- Everything that the operation of a request needs is there: its instance, its member with this name,
these types and this scope, arguments and values that fit, an instance of the right type, and bodies that do
not fail. A construction is judged as if its key were free. -/
inductive Succeeds (catalog : Catalog σ) (host : Host σ) : Request → Prop where
  | construct {handle className types arguments} {constructor : Constructor σ} {state : σ}
      (found : catalog.findConstructor className types = .ok constructor)
      (fits : constructor.types.Admits arguments)
      (ran : constructor.body arguments = .ok state) :
      Succeeds catalog host (.construct handle className types arguments)
  | invokeStatic {handle className name types arguments} {method : Method σ}
      {run : List Value → Except BodyFailure Value} {value : Value}
      (static : handle.isStatic = true)
      (found : catalog.findMethod className name types .static = .ok method)
      (fits : method.types.Admits arguments)
      (body : method.body = .static run) (ran : run arguments = .ok value) :
      Succeeds catalog host (.invoke handle className name types arguments)
  | invoke {handle className name types arguments} {target : Instance σ} {method : Method σ}
      {run : σ → List Value → σ × Except BodyFailure Value} {value : Value}
      (proper : handle.isStatic = false)
      (bound : host.instances.find? ⟨className, handle⟩ = some target)
      (found : catalog.findMethod className name types .object = .ok method)
      (fits : method.types.Admits arguments) (typed : target.type = method.owner.objectType)
      (body : method.body = .object run) (ran : (run target.state arguments).2 = .ok value) :
      Succeeds catalog host (.invoke handle className name types arguments)
  | readStatic {handle className name value} {field : Field σ}
      (found : catalog.findField className name .static = .ok field) :
      Succeeds catalog host (.field handle className name value .read .static)
  | read {handle className name value} {target : Instance σ} {field : Field σ}
      (bound : host.instances.find? ⟨className, handle⟩ = some target)
      (found : catalog.findField className name .object = .ok field)
      (typed : target.type = field.owner.objectType) :
      Succeeds catalog host (.field handle className name value .read .object)
  | writeStatic {handle className name value} {field : Field σ}
      (found : catalog.findField className name .static = .ok field)
      (fits : field.type.accepts (value.getD .null) = true) :
      Succeeds catalog host (.field handle className name value .write .static)
  | write {handle className name value} {target : Instance σ} {field : Field σ} {get : σ → Value}
      {set : σ → Value → σ × Except BodyFailure Unit}
      (bound : host.instances.find? ⟨className, handle⟩ = some target)
      (found : catalog.findField className name .object = .ok field)
      (fits : field.type.accepts (value.getD .null) = true)
      (typed : target.type = field.owner.objectType) (store : field.store = .object get set)
      (ran : (set target.state (value.getD .null)).2 = .ok ()) :
      Succeeds catalog host (.field handle className name value .write .object)
  | finalize {handle className} {target : Instance σ}
      (bound : host.instances.find? ⟨className, handle⟩ = some target) :
      Succeeds catalog host (.finalize handle className)

/-- The request is to build an object under a key that is bound already. -/
def Occupied (host : Host σ) : Request → Prop
  | .construct handle className _ _ => host.instances.contains ⟨className, handle⟩ = true
  | .invoke .. | .field .. | .finalize .. => False

section Operations

variable {catalog : Catalog σ} {host : Host σ} {request : Request}

/-- What succeeds by the rules ends without a failure. -/
theorem failure?_of_succeeds (succeeds : host.Succeeds catalog request)
    (free : ¬ host.Occupied request) : host.failure? catalog request = none := by
  cases succeeds with
  | construct found fits ran =>
      rw [Occupied] at free
      rw [failure?, if_neg free, failureOf?_eq_none_iff]
      simp only [mapError_eq_ok_iff, bind_succeeds_iff]
      exact ⟨_, found, (Constructor.build_succeeds_iff ..).mpr ⟨fits, _, ran⟩⟩
  | invokeStatic static found fits body ran =>
      rw [failure?, invoke, if_pos static, failureOf?_eq_none_iff]
      simp only [mapError_eq_ok_iff, bind_succeeds_iff]
      exact ⟨_, found, (Method.invokeStatic_succeeds_iff ..).mpr ⟨fits, _, _, body, ran⟩⟩
  | invoke proper bound found fits typed body ran =>
      rw [failure?, invoke, if_neg (by simp [proper]), failureOf?_eq_none_iff]
      simp only [InstanceTable.get, bound, found, mapError_eq_ok_iff]
      exact (Method.invoke_succeeds_iff _ (Catalog.scope_of_findMethod found) _ _).mpr
        ⟨fits, typed, _, _, body, ran⟩
  | readStatic found =>
      have store := Field.store_of_scope _ (Catalog.scope_of_findField found)
      rw [failure?, readField, failureOf?_eq_none_iff]
      simp [found, bind, Except.bind, Field.read, store, mapError_eq_ok_iff]
  | read bound found typed =>
      rw [failure?, readField, failureOf?_eq_none_iff]
      simp only [InstanceTable.get, bound, mapError_eq_ok_iff, bind_succeeds_iff]
      exact ⟨_, found, (Field.read_succeeds_iff _ (Catalog.scope_of_findField found) _ _).mpr typed⟩
  | writeStatic found fits =>
      have store := Field.store_of_scope _ (Catalog.scope_of_findField found)
      rw [failure?, writeField, failureOf?_eq_none_iff]
      simp only [found, Field.write_static _ store, mapError_eq_ok_iff]
      exact ⟨(), (Field.require_eq_ok_iff ..).mpr fits⟩
  | write bound found fits typed store ran =>
      rw [failure?, writeField, failureOf?_eq_none_iff]
      simp only [InstanceTable.get, bound, found, mapError_eq_ok_iff]
      exact ⟨(), (Field.write_succeeds_iff _ (Catalog.scope_of_findField found) ..).mpr
        ⟨fits, typed, _, _, store, ran⟩⟩
  | finalize bound =>
      simp [failure?, InstanceTable.release, bound, failureOf?, Except.mapError]

/-- What ends without a failure had all that it needed. -/
theorem succeeds_of_failure? (ended : host.failure? catalog request = none) :
    host.Succeeds catalog request ∧ ¬ host.Occupied request := by
  cases request with
  | construct handle className types arguments =>
      rw [failure?] at ended
      split at ended
      · cases ended
      · rename_i free
        rw [failureOf?_eq_none_iff] at ended
        simp only [mapError_eq_ok_iff, bind_succeeds_iff, Constructor.build_succeeds_iff] at ended
        obtain ⟨constructor, found, fits, state, ran⟩ := ended
        exact ⟨.construct found fits ran, free⟩
  | invoke handle className name types arguments =>
      refine ⟨?_, id⟩
      rw [failure?, invoke, failureOf?_eq_none_iff] at ended
      split at ended
      · rename_i static
        simp only [mapError_eq_ok_iff, bind_succeeds_iff, Method.invokeStatic_succeeds_iff] at ended
        obtain ⟨method, found, fits, run, value, body, ran⟩ := ended
        exact .invokeStatic static found fits body ran
      · rename_i proper
        simp only [InstanceTable.get] at ended
        cases bound : host.instances.find? ⟨className, handle⟩ with
        | none => simp [bound] at ended
        | some target =>
            cases found : catalog.findMethod className name types .object with
            | error failure => simp [bound, found] at ended
            | ok method =>
                simp only [bound, found, mapError_eq_ok_iff,
                  method.invoke_succeeds_iff (Catalog.scope_of_findMethod found)] at ended
                obtain ⟨fits, typed, run, value, body, ran⟩ := ended
                exact .invoke (by simpa using proper) bound found fits typed body ran
  | field handle className name value mode scope =>
      refine ⟨?_, id⟩
      cases mode with
      | read =>
          rw [failure?, failureOf?_eq_none_iff] at ended
          cases scope with
          | static =>
              simp only [readField, mapError_eq_ok_iff, bind_succeeds_iff] at ended
              obtain ⟨field, found, _⟩ := ended
              exact .readStatic found
          | object =>
              simp only [readField, InstanceTable.get] at ended
              cases bound : host.instances.find? ⟨className, handle⟩ with
              | none => simp [bound] at ended
              | some target =>
                  simp only [bound, mapError_eq_ok_iff, bind_succeeds_iff] at ended
                  obtain ⟨field, found, ran⟩ := ended
                  have scope := Catalog.scope_of_findField found
                  exact .read bound found ((field.read_succeeds_iff scope ..).mp ran)
      | write =>
          rw [failure?, failureOf?_eq_none_iff] at ended
          obtain ⟨_, ended⟩ := ended
          cases scope with
          | static =>
              rw [writeField] at ended
              cases found : catalog.findField className name .static with
              | error failure => simp [found] at ended
              | ok field =>
                  have store := field.store_of_scope (Catalog.scope_of_findField found)
                  simp only [found, field.write_static store, mapError_eq_ok_iff,
                    field.require_eq_ok_iff] at ended
                  exact .writeStatic found ended
          | object =>
              simp only [writeField, InstanceTable.get] at ended
              cases bound : host.instances.find? ⟨className, handle⟩ with
              | none => simp [bound] at ended
              | some target =>
                  cases found : catalog.findField className name .object with
                  | error failure => simp [bound, found] at ended
                  | ok field =>
                      simp only [bound, found, mapError_eq_ok_iff,
                        field.write_succeeds_iff (Catalog.scope_of_findField found)] at ended
                      obtain ⟨fits, typed, get, set, store, ran⟩ := ended
                      exact .write bound found fits typed store ran
  | finalize handle className =>
      refine ⟨?_, id⟩
      cases bound : host.instances.find? ⟨className, handle⟩ with
      | none => simp [failure?, InstanceTable.release, bound, failureOf?, Except.mapError] at ended
      | some target => exact .finalize bound

end Operations

/-- The request is malformed, its operation fails, or its key is occupied. -/
def Troubled (catalog : Catalog σ) (host : Host σ) (request : Request) : Prop :=
  ¬ request.WellShaped ∨ ¬ host.Succeeds catalog request ∨ host.Occupied request

theorem refusal?_eq_none_iff (catalog : Catalog σ) (host : Host σ) (request : Request) :
    host.refusal? catalog request = none ↔ ¬ host.Troubled catalog request := by
  rw [refusal?]
  rcases request.checkShape_tells with ⟨shaped, passed⟩ | ⟨violation, shows, failed⟩
  · have ends : host.failure? catalog request = none ↔
        host.Succeeds catalog request ∧ ¬ host.Occupied request :=
      ⟨succeeds_of_failure?, fun ⟨succeeds, free⟩ => failure?_of_succeeds succeeds free⟩
    simp [passed, Troubled, shaped, ends]
  · simp [failed, Troubled, shows.not_wellShaped]

end Host

/-- The step has logged one warning if there was trouble and none otherwise. It replies exactly to those
who wait, and refuses them exactly if it has warned. -/
structure Step.Reports {η : Type} (step : Step η (Option Reply)) (request : Request)
    (trouble : Prop) : Prop where
  warned : trouble → step.warnings = 1
  quiet : ¬ trouble → step.warnings = 0
  replies : step.result.isSome = true ↔ request.isOneWay = false
  refuses : request.isOneWay = false →
    ((∃ reason, step.result = some (.refused reason)) ↔ step.warnings = 1)

/-- Only the log and the result of a step matter. -/
theorem Step.Reports.congr {η θ : Type} {step : Step η (Option Reply)}
    {other : Step θ (Option Reply)} {request : Request} {trouble : Prop}
    (reports : step.Reports request trouble) (result : other.result = step.result)
    (events : other.events = step.events) : other.Reports request trouble := by
  have warnings : other.warnings = step.warnings := by rw [Step.warnings, Step.warnings, events]
  refine ⟨?_, ?_, ?_, ?_⟩
  · rw [warnings]
    exact reports.warned
  · rw [warnings]
    exact reports.quiet
  · rw [result]
    exact reports.replies
  · rw [warnings, result]
    exact reports.refuses

theorem Host.answer_reports (catalog : Catalog σ) (host : Host σ) (request : Request) :
    (answer catalog host request).Reports request (host.Troubled catalog request) := by
  have spares := host.answer_spares catalog request
  have quiet := host.refusal?_eq_none_iff catalog request
  have responsive := (Host.execute_responsive catalog).guarded host request
  have replies : (answer catalog host request).result.isSome = true ↔ request.isOneWay = false := by
    rw [answer, responsive, Bool.not_eq_true']
  cases refusal : host.refusal? catalog request with
  | none =>
      rw [refusal] at spares quiet
      have warnings : (answer catalog host request).warnings = 0 := spares.logged
      refine ⟨fun trouble => absurd trouble (quiet.mp rfl), fun _ => warnings, replies, ?_⟩
      intro awaits
      simp [spares.told awaits, warnings]
  | some reason =>
      rw [refusal] at spares quiet
      have warnings : (answer catalog host request).warnings = 1 := spares.logged
      have trouble : host.Troubled catalog request := by
        by_contra fine
        cases quiet.mpr fine
      refine ⟨fun _ => warnings, fun fine => absurd trouble fine, replies, ?_⟩
      intro awaits
      simp [spares.told awaits, warnings]

namespace Session.Stores

/-- The host on which a dispatcher executes a request. A constructor that binds keys itself has already
done so. -/
def host (stores : Stores) (dispatcher : Dispatcher) (request : Request) : Host Slots :=
  let prepared := stores.prepare dispatcher request
  { instances := prepared.table dispatcher.table
    statics := prepared.statics dispatcher.catalog }

/-- A dispatcher logs and replies what its host does. -/
theorem answer_host (dispatcher : Dispatcher) (stores : Stores) (request : Request) :
    let answered := Host.answer (stores.catalog dispatcher.catalog) (stores.host dispatcher request)
      request
    (answer dispatcher stores request).result = answered.result ∧
      (answer dispatcher stores request).events = answered.events := by
  simp only [answer, Host.answer, Execution.guarded]
  cases request.checkShape with
  | ok _ => exact ⟨rfl, rfl⟩
  | error violation => exact ⟨rfl, rfl⟩

end Session.Stores

/-- A host logs one warning for each request that fails and none for the others, and whoever waits for a
reply is refused exactly if there was a warning. So do the dispatchers of a session. -/
theorem Host.failures_never_silent (catalog : Catalog σ) (host : Host σ) (request : Request) :
    (answer catalog host request).Reports request (host.Troubled catalog request) ∧
      ∀ (dispatcher : Session.Dispatcher) (stores : Session.Stores),
        (Session.Stores.answer dispatcher stores request).Reports request
          ((stores.host dispatcher request).Troubled (stores.catalog dispatcher.catalog) request) := by
  refine ⟨host.answer_reports catalog request, fun dispatcher stores => ?_⟩
  obtain ⟨result, events⟩ := Session.Stores.answer_host dispatcher stores request
  exact (Host.answer_reports _ _ request).congr result events

end RemoteObjects
