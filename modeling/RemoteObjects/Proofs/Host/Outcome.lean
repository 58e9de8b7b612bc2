import RemoteObjects.Proofs.Except
import RemoteObjects.Proofs.Host.Lifetime
import RemoteObjects.Proofs.Host.StaticFields

namespace RemoteObjects

variable {σ : Type}

/-- The number of warnings that a step has logged. -/
def Step.warnings {α : Type} (step : Step σ α) : Nat :=
  step.events.countP fun event => event.level = .warn

/-- The texts of the errors that a step has logged. -/
def Step.errors {α : Type} (step : Step σ α) : List String :=
  step.events.flatMap fun event =>
    event.fields.filterMap fun (name, text) => if name = "error" then some text else none

/-- A method leaves its target as it is or gives it a new state. In the second case its body has run, so
that only the body can have failed. -/
theorem Method.invoke_target (method : Method σ) (target : Instance σ) (arguments : List Value) :
    (method.invoke target arguments).1 = target ∨
      ∃ state result, method.invoke target arguments =
        ({ target with state }, Except.mapError Catalog.Failure.ofBody result) := by
  unfold Method.invoke
  cases method.types.require arguments with
  | error failure => exact .inl rfl
  | ok _ =>
      cases method.body with
      | static run => exact .inl rfl
      | object run =>
          dsimp only
          split
          · exact .inr ⟨_, _, rfl⟩
          · exact .inl rfl

theorem Field.write_target (field : Field σ) (scope : field.scope = .object) (statics : Statics)
    (target : Instance σ) (value : Value) :
    (field.write statics (some target) value).2.1 = some target ∨
      ∃ state result,
        (field.write statics (some target) value).2.1 = some { target with state } ∧
          (field.write statics (some target) value).2.2 =
            Except.mapError Catalog.Failure.ofBody result := by
  unfold Field.write
  cases field.require value with
  | error failure => exact .inl rfl
  | ok _ =>
      cases store : field.store with
      | static => simp [Field.scope, store] at scope
      | object get set =>
          dsimp only
          split
          · exact .inr ⟨_, _, rfl, rfl⟩
          · exact .inl rfl

theorem Field.store_of_scope (field : Field σ) (scope : field.scope = .static) :
    field.store = .static := by
  cases store : field.store with
  | static => rfl
  | object get set => simp [Field.scope, store] at scope

/-- A write to a static field fails only if its type does not accept the value. -/
theorem Field.write_static (field : Field σ) (static : field.store = .static) (statics : Statics)
    (value : Value) :
    (field.write statics none value).2.2 = field.require value := by
  unfold Field.write
  cases field.require value with
  | error failure => rfl
  | ok _ => simp [static]

theorem Field.require_eq_ok_iff (field : Field σ) (value : Value) :
    field.require value = .ok () ↔ field.type.accepts value = true := by
  unfold Field.require
  split
  · simp [*]
  · simp [*]

namespace Host

/-- The failure with which the operation of a request ends. A construction fails also if its key is
occupied. -/
def failure? (catalog : Catalog σ) (host : Host σ) : Request → Option Failure
  | .construct handle className types arguments =>
      if host.instances.contains { className, handle } then
        some (.table (.occupied { className, handle }))
      else
        failureOf? ((catalog.findConstructor className types >>= fun found =>
          found.build arguments).mapError .catalog)
  | .invoke handle className method types arguments =>
      failureOf? (host.invoke catalog handle className method types arguments).2
  | .field handle className name _ .read scope =>
      failureOf? (host.readField catalog handle className name scope)
  | .field handle className name value .write scope =>
      failureOf? (host.writeField catalog handle className name value scope).2
  | .finalize handle className =>
      failureOf? ((host.instances.release { className, handle }).mapError .table)

/-- Whoever waits for a reply is told the reason of a failure. -/
theorem result_execute (catalog : Catalog σ) (host : Host σ) {request : Request}
    (awaits : request.isOneWay = false) :
    match host.failure? catalog request with
    | none => ∃ value, (execute catalog host request).result = some (.granted value)
    | some failure => (execute catalog host request).result = some (.refused failure.reason) := by
  cases request with
  | construct handle className types arguments => cases awaits
  | invoke handle className method types arguments =>
      simp only [failure?, execute]
      cases (host.invoke catalog handle className method types arguments).2 with
      | ok value => exact ⟨value, rfl⟩
      | error failure => rfl
  | field handle className name value mode scope =>
      cases mode with
      | read =>
          simp only [failure?, execute]
          cases host.readField catalog handle className name scope with
          | ok value => exact ⟨value, rfl⟩
          | error failure => rfl
      | write => cases awaits
  | finalize handle className => cases awaits

/-- A failure is logged once, and nothing else is worth a warning. -/
theorem warnings_execute (catalog : Catalog σ) (host : Host σ) (request : Request) :
    (execute catalog host request).warnings = (host.failure? catalog request).toList.length := by
  cases request with
  | construct handle className types arguments =>
      simp only [failure?, execute, construct]
      split
      · rfl
      · cases catalog.findConstructor className types >>= fun found => found.build arguments with
        | ok built => rfl
        | error failure => rfl
  | invoke handle className method types arguments =>
      simp only [failure?, execute]
      cases (host.invoke catalog handle className method types arguments).2 with
      | ok value => rfl
      | error failure => rfl
  | field handle className name value mode scope =>
      cases mode with
      | read =>
          simp only [failure?, execute]
          cases host.readField catalog handle className name scope with
          | ok value => rfl
          | error failure => rfl
      | write =>
          simp only [failure?, execute]
          cases (host.writeField catalog handle className name value scope).2 with
          | ok value => rfl
          | error failure => rfl
  | finalize handle className =>
      simp only [failure?, execute, finalize]
      cases host.instances.release ⟨className, handle⟩ with
      | ok released => rfl
      | error failure => rfl

/-- The logged errors are those with which the operation ends. -/
theorem errors_execute (catalog : Catalog σ) (host : Host σ) (request : Request) :
    ∀ text ∈ (execute catalog host request).errors,
      ∃ failure, host.failure? catalog request = some failure ∧ text = failure.message := by
  intro text logged
  cases request with
  | construct handle className types arguments =>
      simp only [failure?, execute, construct] at logged ⊢
      split
      · rename_i occupied
        simp [occupied, Step.errors, Event.warn] at logged
      · rename_i free
        cases built : catalog.findConstructor className types >>= fun found =>
          found.build arguments with
        | ok object => simp [free, built, Step.errors, Event.info] at logged
        | error failure =>
            refine ⟨.catalog failure, rfl, ?_⟩
            change text = failure.message
            simpa [free, built, Step.errors, Event.warn] using logged
  | invoke handle className method types arguments =>
      simp only [failure?, execute] at logged ⊢
      cases result : (host.invoke catalog handle className method types arguments).2 with
      | ok value => simp [result, replyTo, Step.errors, Event.debug] at logged
      | error failure =>
          refine ⟨failure, rfl, ?_⟩
          simpa [result, replyTo, Step.errors, Event.debug, Event.warn] using logged
  | field handle className name value mode scope =>
      cases mode with
      | read =>
          simp only [failure?, execute] at logged ⊢
          cases result : host.readField catalog handle className name scope with
          | ok value => simp [result, replyTo, Step.errors, Event.debug] at logged
          | error failure =>
              refine ⟨failure, rfl, ?_⟩
              simpa [result, replyTo, Step.errors, Event.debug, Event.warn] using logged
      | write =>
          simp only [failure?, execute] at logged ⊢
          cases result : (host.writeField catalog handle className name value scope).2 with
          | ok value => simp [result, Step.errors, Event.debug] at logged
          | error failure =>
              refine ⟨failure, rfl, ?_⟩
              simpa [result, Step.errors, Event.debug, Event.warn] using logged
  | finalize handle className =>
      simp only [failure?, execute, finalize] at logged ⊢
      cases result : host.instances.release ⟨className, handle⟩ with
      | ok released => simp [result, Step.errors, Event.info] at logged
      | error failure =>
          refine ⟨.table failure, rfl, ?_⟩
          change text = failure.message
          simpa [result, Step.errors, Event.warn] using logged

/-- What the operation of a request can do to the host, and with which failures. -/
inductive Effect (catalog : Catalog σ) (host : Host σ) :
    Request → Option Failure → Host σ → Prop where
  | nothing (request : Request) (failure : Option Failure) : Effect catalog host request failure host
  | builds (key : InstanceKey) (types : List ValueType) (arguments : List Value)
      {built : Instance σ} (free : host.instances.find? key = none)
      (succeeds : (catalog.findConstructor key.className types >>= fun found =>
        found.build arguments) = .ok built) :
      Effect catalog host (.construct key.handle key.className types arguments) none
        { host with instances := host.instances.set key built }
  | changes {key : InstanceKey} {request : Request} {target : Instance σ}
      {failure : Option Failure} (state : σ) (changes : request.Changes key)
      (addressed : request.target? = some key) (found : host.instances.find? key = some target)
      (ran : ∀ reported ∈ failure, ∃ text, reported.reason = .invocationFailed text) :
      Effect catalog host request failure
        { host with instances := host.instances.set key { target with state } }
  | stores (handle : Handle) {className name : String} (value : Option Value) {field : Field σ}
      (found : catalog.findField className name .static = .ok field)
      (accepted : field.type.accepts (value.getD .null) = true) :
      Effect catalog host (.field handle className name value .write .static) none
        { host with statics := host.statics.set field.key (value.getD .null) }
  | releases (key : InstanceKey) {target : Instance σ}
      (found : host.instances.find? key = some target) :
      Effect catalog host (.finalize key.handle key.className) none
        { host with instances := host.instances.erase key }

/-- A body that was run is the only one to blame for a failure. -/
theorem failureOf?_ofBody {α : Type} (result : Except BodyFailure α) :
    ∀ reported ∈ failureOf? ((result.mapError Catalog.Failure.ofBody).mapError Failure.catalog),
      ∃ text, reported.reason = .invocationFailed text := by
  intro reported member
  cases result with
  | ok value => cases member
  | error failure =>
      cases member
      exact ⟨failure.text, rfl⟩

theorem execute_effect (catalog : Catalog σ) (host : Host σ) (request : Request) :
    Effect catalog host request (host.failure? catalog request)
      (execute catalog host request).state := by
  cases request with
  | construct handle className types arguments =>
      simp only [failure?, execute, construct]
      cases found : host.instances.find? ⟨className, handle⟩ with
      | some target =>
          simp only [Association.contains, found, Option.isSome_some, if_true]
          exact .nothing ..
      | none =>
          simp only [Association.contains, found, Option.isSome_none, Bool.false_eq_true, if_false]
          cases succeeds : catalog.findConstructor className types >>= fun found =>
            found.build arguments with
          | ok built => exact .builds ⟨className, handle⟩ types arguments found succeeds
          | error failure => exact .nothing ..
  | invoke handle className method types arguments =>
      simp only [failure?, execute, invoke]
      split
      · exact .nothing ..
      · rename_i proper
        have addressed : (Request.invoke handle className method types arguments).target? =
            some ⟨className, handle⟩ := by simp [Request.target?, proper]
        cases found : host.instances.find? ⟨className, handle⟩ with
        | none =>
            simp only [InstanceTable.get, found]
            exact .nothing ..
        | some target =>
            simp only [InstanceTable.get, found]
            cases catalog.findMethod className method types .object with
            | error failure => exact .nothing ..
            | ok method =>
                dsimp only
                rcases method.invoke_target target arguments with same | ⟨state, result, ran⟩
                · rw [same, Association.set_self found]
                  exact .nothing ..
                · rw [ran]
                  exact .changes state (.invoke ..) addressed found (failureOf?_ofBody result)
  | field handle className name value mode scope =>
      cases mode with
      | read => exact .nothing ..
      | write =>
          cases scope with
          | static =>
              simp only [failure?, execute, writeField]
              cases known : catalog.findField className name .static with
              | error failure => exact .nothing ..
              | ok field =>
                  have static : field.store = .static :=
                    field.store_of_scope (Catalog.scope_of_findField known)
                  dsimp only
                  rw [field.statics_write_static static, field.write_static static]
                  by_cases accepted : field.type.accepts (value.getD .null) = true
                  · rw [if_pos accepted, (field.require_eq_ok_iff _).mpr accepted]
                    exact .stores handle value known accepted
                  · rw [if_neg accepted]
                    exact .nothing ..
          | object =>
              simp only [failure?, execute, writeField]
              cases found : host.instances.find? ⟨className, handle⟩ with
              | none =>
                  simp only [InstanceTable.get, found]
                  exact .nothing ..
              | some target =>
                  simp only [InstanceTable.get, found]
                  cases known : catalog.findField className name .object with
                  | error failure => exact .nothing ..
                  | ok field =>
                      have scope := Catalog.scope_of_findField known
                      dsimp only
                      rw [field.statics_write_object scope]
                      rcases field.write_target scope host.statics target (value.getD .null) with
                        same | ⟨state, result, changed, ran⟩
                      · rw [same, Option.getD_some, Association.set_self found]
                        exact .nothing ..
                      · rw [changed, ran]
                        exact .changes state (.write name value) rfl found
                          (failureOf?_ofBody result)
  | finalize handle className =>
      simp only [failure?, execute, finalize, InstanceTable.release]
      cases found : host.instances.find? ⟨className, handle⟩ with
      | none => exact .nothing ..
      | some target => exact .releases ⟨className, handle⟩ found

end Host

end RemoteObjects
