import RemoteObjects.Proofs.Catalog.Members
import RemoteObjects.Proofs.Host.Outcome

namespace RemoteObjects

variable {σ : Type}

namespace Catalog

/-- The failures of requests that lead to no member or to one that fits: something is not there,
arguments or values have wrong types, or a body fails. -/
inductive Failure.Ordinary : Failure → Prop where
  | classNotFound (className : String) : Ordinary (.classNotFound className)
  | constructorNotFound (className : String) (types : List ValueType) :
      Ordinary (.constructorNotFound className types)
  | methodNotFound (className name : String) : Ordinary (.methodNotFound className name)
  | fieldNotFound (className name : String) : Ordinary (.fieldNotFound className name)
  | arguments (rejection : Signature.Rejection) : Ordinary (.ofFault rejection.fault)
  | value (name : String) (type : ValueType) (value : Value) :
      Ordinary (.typeMismatch
        ("field " ++ name ++ " is " ++ type.name ++ ", got " ++ value.typeName))
  | body (failure : BodyFailure) : Ordinary (.ofBody failure)

namespace Failure.Ordinary

variable {failure : Failure}

/-- The last character of a text that ends with another one. -/
theorem getLast?_append {first second : String} {last : Char}
    (ends : second.toList.getLast? = some last) :
    (first ++ second).toList.getLast? = some last := by
  rw [String.toList_append, List.getLast?_append, ends, Option.some_or]

theorem getLast?_typeName (value : Value) :
    ∃ last, value.typeName.toList.getLast? = some last ∧ last ≠ 'd' := by
  cases value <;> simp [Value.typeName]

theorem getLast?_mismatch (expected : String) {found : String} {last : Char}
    (ends : found.toList.getLast? = some last) :
    (Fault.mismatch expected found).message.toList.getLast? = some last :=
  getLast?_append ends

theorem getLast?_fault (rejection : Signature.Rejection) :
    ∃ last, rejection.fault.message.toList.getLast? = some last ∧ last ≠ 'd' := by
  cases rejection with
  | count expected found =>
      exact ⟨'s', getLast?_mismatch _ (getLast?_append rfl), by decide⟩
  | argument index expected found =>
      obtain ⟨last, ends, other⟩ := getLast?_typeName found
      exact ⟨last, getLast?_mismatch _ ends, other⟩

/-- The texts differ in their first characters. -/
theorem ne_wrongType (ordinary : failure.Ordinary) (owner : Owner) : failure ≠ .wrongType owner := by
  cases ordinary with
  | classNotFound | constructorNotFound | methodNotFound | fieldNotFound | body => nofun
  | arguments rejection =>
      obtain ⟨expected, found, fault⟩ :
          ∃ expected found, rejection.fault = .mismatch expected found := by
        cases rejection <;> exact ⟨_, _, rfl⟩
      rw [fault]
      intro same
      have heads := congrArg (fun text => text.toList.head?) (Failure.typeMismatch.inj same)
      dsimp only [Fault.message] at heads
      simp at heads
  | value name type value =>
      intro same
      have heads := congrArg (fun text => text.toList.head?) (Failure.typeMismatch.inj same)
      simp at heads

/-- The texts differ in their last characters. -/
theorem ne_needsInstance (ordinary : failure.Ordinary) {σ : Type} (field : Field σ) :
    failure ≠ field.needsInstance := by
  have other {text : String} (ends : ∃ last, text.toList.getLast? = some last ∧ last ≠ 'd') :
      Failure.typeMismatch text ≠ field.needsInstance := by
    obtain ⟨last, ends, other⟩ := ends
    intro same
    have said : text = field.name ++ " is an instance field" := Failure.typeMismatch.inj same
    have ending : (" is an instance field" : String).toList.getLast? = some 'd' := rfl
    rw [said, getLast?_append ending] at ends
    exact other (Option.some.inj ends).symm
  cases ordinary with
  | classNotFound | constructorNotFound | methodNotFound | fieldNotFound | body => nofun
  | arguments rejection => exact other (getLast?_fault rejection)
  | value name type value =>
      obtain ⟨last, ends, differs⟩ := getLast?_typeName value
      exact other ⟨last, getLast?_append ends, differs⟩

end Failure.Ordinary

end Catalog

namespace Host

/-- A request leads to a member of the other scope: a static method or field is used with an instance,
or that of an object without one. -/
inductive Misplaced (catalog : Catalog σ) : Request → Prop where
  | staticMethod {handle : Handle} {className name : String} {types : List ValueType}
      (arguments : List Value) {method : Method σ} {run : List Value → Except BodyFailure Value}
      (proper : handle.isStatic = false)
      (found : catalog.findMethod className name types .object = .ok method)
      (body : method.body = .static run) :
      Misplaced catalog (.invoke handle className name types arguments)
  | objectMethod {handle : Handle} {className name : String} {types : List ValueType}
      (arguments : List Value) {method : Method σ}
      {run : σ → List Value → σ × Except BodyFailure Value} (static : handle.isStatic = true)
      (found : catalog.findMethod className name types .static = .ok method)
      (body : method.body = .object run) :
      Misplaced catalog (.invoke handle className name types arguments)
  | staticField (handle : Handle) {className name : String} (value : Option Value) (mode : Mode)
      {field : Field σ} (found : catalog.findField className name .object = .ok field)
      (store : field.store = .static) :
      Misplaced catalog (.field handle className name value mode .object)
  | objectField (handle : Handle) {className name : String} (value : Option Value) (mode : Mode)
      {field : Field σ} {get : σ → Value} {set : σ → Value → σ × Except BodyFailure Unit}
      (found : catalog.findField className name .static = .ok field)
      (store : field.store = .object get set) :
      Misplaced catalog (.field handle className name value mode .static)

/-- A request leads to a member of a class whose objects have another type than its target. -/
inductive Mistyped (catalog : Catalog σ) (host : Host σ) : Request → Prop where
  | invoke {handle : Handle} {className name : String} {types : List ValueType}
      (arguments : List Value) {target : Instance σ} {method : Method σ}
      (held : host.instances.find? ⟨className, handle⟩ = some target)
      (found : catalog.findMethod className name types .object = .ok method)
      (apart : target.type ≠ method.owner.objectType) :
      Mistyped catalog host (.invoke handle className name types arguments)
  | field {handle : Handle} {className name : String} (value : Option Value) (mode : Mode)
      {target : Instance σ} {field : Field σ}
      (held : host.instances.find? ⟨className, handle⟩ = some target)
      (found : catalog.findField className name .object = .ok field)
      (apart : target.type ≠ field.owner.objectType) :
      Mistyped catalog host (.field handle className name value mode .object)

/-- Members are found by their scope, whatever the catalog is. -/
theorem not_misplaced (catalog : Catalog σ) (request : Request) : ¬ Misplaced catalog request := by
  intro misplaced
  cases misplaced with
  | staticMethod arguments proper found body =>
      have scope := Catalog.scope_of_findMethod found
      simp [Method.scope, body] at scope
  | objectMethod arguments static found body =>
      have scope := Catalog.scope_of_findMethod found
      simp [Method.scope, body] at scope
  | staticField handle value mode found store =>
      have scope := Catalog.scope_of_findField found
      simp [Field.scope, store] at scope
  | objectField handle value mode found store =>
      have scope := Catalog.scope_of_findField found
      simp [Field.scope, store] at scope

end Host

namespace Catalog

/-- A result that is good or fails in an ordinary way. -/
def Ordinarily {α : Type} (result : Except Failure α) : Prop :=
  ∀ failure, result = .error failure → failure.Ordinary

namespace Ordinarily

variable {α β : Type}

theorem ok (value : α) : Ordinarily (.ok value) := nofun

theorem error {failure : Failure} (ordinary : failure.Ordinary) :
    Ordinarily (.error failure : Except Failure α) := by
  rintro _ ⟨⟩
  exact ordinary

theorem bind {first : Except Failure α} {rest : α → Except Failure β} (begins : Ordinarily first)
    (continues : ∀ value, first = .ok value → Ordinarily (rest value)) :
    Ordinarily (first >>= rest) := by
  cases first with
  | ok value => exact continues value rfl
  | error failure => exact error (begins failure rfl)

theorem body (result : Except BodyFailure α) : Ordinarily (result.mapError Failure.ofBody) := by
  cases result with
  | ok value => exact ok value
  | error failure => exact error (.body failure)

end Ordinarily

variable (catalog : Catalog σ) (className name : String) (types : List ValueType) (scope : Scope)

theorem findClass_ordinarily : Ordinarily (catalog.findClass className) := by
  unfold findClass
  split
  · exact .ok _
  · exact .error (.classNotFound className)

theorem findConstructor_ordinarily : Ordinarily (catalog.findConstructor className types) := by
  refine .bind (catalog.findClass_ordinarily className) fun found _ => ?_
  split
  · exact .ok _
  · exact .error (.constructorNotFound className types)

theorem findMethod_ordinarily : Ordinarily (catalog.findMethod className name types scope) := by
  refine .bind (catalog.findClass_ordinarily className) fun found _ => ?_
  split
  · exact .ok _
  · exact .error (.methodNotFound className name)

theorem findField_ordinarily : Ordinarily (catalog.findField className name scope) := by
  refine .bind (catalog.findClass_ordinarily className) fun found _ => ?_
  split
  · exact .ok _
  · exact .error (.fieldNotFound className name)

end Catalog

section Members

open Catalog (Ordinarily)

theorem Signature.require_ordinarily (signature : Signature) (arguments : List Value) :
    Ordinarily (signature.require arguments) := by
  unfold Signature.require
  split
  · exact .ok _
  · exact .error (.arguments _)

theorem Constructor.build_ordinarily (constructor : Constructor σ) (arguments : List Value) :
    Ordinarily (constructor.build arguments) := by
  refine .bind (constructor.types.require_ordinarily arguments) fun _ _ => ?_
  split
  · exact .ok _
  · exact .error (.body _)

theorem Method.invokeStatic_ordinarily (method : Method σ) (arguments : List Value) :
    Ordinarily (method.invokeStatic arguments) := by
  refine .bind (method.types.require_ordinarily arguments) fun _ _ => ?_
  split
  · exact .body _
  · exact .error (.methodNotFound ..)

theorem Method.invoke_ordinarily {method : Method σ} {target : Instance σ}
    (typed : target.type = method.owner.objectType) (arguments : List Value) :
    Ordinarily (method.invoke target arguments).2 := by
  unfold Method.invoke
  cases checked : method.types.require arguments with
  | error failure =>
      exact .error (method.types.require_ordinarily arguments failure checked)
  | ok _ =>
      cases method.body with
      | static run => exact .body _
      | object run =>
          simp only [if_pos typed]
          exact .body _

variable {field : Field σ} {target : Option (Instance σ)}

/-- A field is read in its scope and on an object of its type. -/
theorem Field.read_ordinarily (scope : field.scope = if target.isSome then .object else .static)
    (typed : ∀ held ∈ target, held.type = field.owner.objectType) (statics : Statics) :
    Ordinarily (field.read statics target) := by
  unfold Field.read
  cases store : field.store with
  | static => exact .ok _
  | object get set =>
      cases target with
      | none => simp [Field.scope, store] at scope
      | some held =>
          simp only [if_pos (typed held rfl)]
          exact .ok _

theorem Field.write_ordinarily (scope : field.scope = if target.isSome then .object else .static)
    (typed : ∀ held ∈ target, held.type = field.owner.objectType) (statics : Statics)
    (value : Value) : Ordinarily (field.write statics target value).2.2 := by
  unfold Field.write
  cases checked : field.require value with
  | error failure =>
      unfold Field.require at checked
      split at checked
      · cases checked
      · cases checked
        exact .error (.value ..)
  | ok _ =>
      cases store : field.store with
      | static => exact .ok _
      | object get set =>
          cases target with
          | none => simp [Field.scope, store] at scope
          | some held =>
              simp only [if_pos (typed held rfl)]
              exact .body _

end Members

namespace Host

/-- A failure of the catalog, if there is one, is ordinary. -/
def Failure.Ordinarily (failure : Option Failure) : Prop :=
  ∀ reported, failure = some (.catalog reported) → reported.Ordinary

theorem Failure.Ordinarily.none : Ordinarily none := by
  rintro _ ⟨⟩

theorem Failure.Ordinarily.table (failure : InstanceTable.Failure) :
    Ordinarily (some (.table failure)) := by
  rintro _ ⟨⟩

theorem ordinarily_failureOf? {α : Type} {result : Except Catalog.Failure α}
    (ordinarily : Catalog.Ordinarily result) :
    Failure.Ordinarily (failureOf? (result.mapError Failure.catalog)) := by
  intro reported same
  cases result with
  | ok value => cases same
  | error failure =>
      cases same
      exact ordinarily _ rfl

theorem failure?_construct_ordinarily {catalog : Catalog σ} {host : Host σ} {handle : Handle}
    {className : String} {types : List ValueType} {arguments : List Value} :
    Failure.Ordinarily (host.failure? catalog (.construct handle className types arguments)) := by
  simp only [failure?]
  split
  · exact .table _
  · exact ordinarily_failureOf? (.bind (catalog.findConstructor_ordinarily className types)
      fun found _ => found.build_ordinarily arguments)

theorem failure?_invoke_ordinarily {catalog : Catalog σ} {host : Host σ} {handle : Handle}
    {className name : String} {types : List ValueType} {arguments : List Value}
    (fits : ¬ Mistyped catalog host (.invoke handle className name types arguments)) :
    Failure.Ordinarily (host.failure? catalog (.invoke handle className name types arguments)) := by
  simp only [failure?, invoke]
  split
  · exact ordinarily_failureOf? (.bind (catalog.findMethod_ordinarily className name types .static)
      fun found _ => found.invokeStatic_ordinarily arguments)
  · cases held : host.instances.find? ⟨className, handle⟩ with
    | none =>
        simp only [InstanceTable.get, held]
        exact .table _
    | some target =>
        simp only [InstanceTable.get, held]
        cases known : catalog.findMethod className name types .object with
        | error failure =>
            have ordinarily := catalog.findMethod_ordinarily className name types .object
            rintro _ ⟨⟩
            exact ordinarily failure known
        | ok method =>
            have typed : target.type = method.owner.objectType := by
              by_contra apart
              exact fits (.invoke arguments held known apart)
            exact ordinarily_failureOf? (Method.invoke_ordinarily typed arguments)

/-- Reading and writing begin with the same search, and differ in what they do with the field. -/
theorem failure?_field_ordinarily {catalog : Catalog σ} {host : Host σ} {handle : Handle}
    {className name : String} {value : Option Value} {mode : Mode} {scope : Scope}
    (fits : ¬ Mistyped catalog host (.field handle className name value mode scope)) :
    Failure.Ordinarily (host.failure? catalog (.field handle className name value mode scope)) := by
  have searched := catalog.findField_ordinarily className name scope
  cases scope with
  | static =>
      cases mode with
      | read =>
          refine ordinarily_failureOf? (.bind searched fun field known => ?_)
          have found := Catalog.scope_of_findField known
          exact Field.read_ordinarily found (by simp) _
      | write =>
          simp only [failure?, writeField]
          cases known : catalog.findField className name .static with
          | error failure =>
              rintro _ ⟨⟩
              exact searched failure known
          | ok field =>
              have found := Catalog.scope_of_findField known
              exact ordinarily_failureOf? (Field.write_ordinarily found (by simp) _ _)
  | object =>
      cases held : host.instances.find? ⟨className, handle⟩ with
      | none =>
          cases mode with
          | read =>
              simp only [failure?, readField, InstanceTable.get, held]
              exact .table _
          | write =>
              simp only [failure?, writeField, InstanceTable.get, held]
              exact .table _
      | some target =>
          have typed {field : Field σ} (known : catalog.findField className name .object = .ok field) :
              ∀ object ∈ some target, object.type = field.owner.objectType := by
            rintro _ ⟨⟩
            by_contra apart
            exact fits (.field value mode held known apart)
          cases mode with
          | read =>
              simp only [failure?, readField, InstanceTable.get, held]
              refine ordinarily_failureOf? (.bind searched fun field known => ?_)
              have found := Catalog.scope_of_findField known
              exact Field.read_ordinarily found (typed known) _
          | write =>
              simp only [failure?, writeField, InstanceTable.get, held]
              cases known : catalog.findField className name .object with
              | error failure =>
                  rintro _ ⟨⟩
                  exact searched failure known
              | ok field =>
                  have found := Catalog.scope_of_findField known
                  exact ordinarily_failureOf? (Field.write_ordinarily found (typed known) _ _)

/-- Unless a request leads to a member of another type, its operation fails in an ordinary way. -/
theorem failure?_ordinarily {catalog : Catalog σ} {host : Host σ} {request : Request}
    (fits : ¬ Mistyped catalog host request) :
    Failure.Ordinarily (host.failure? catalog request) := by
  cases request with
  | construct handle className types arguments => exact failure?_construct_ordinarily
  | invoke handle className name types arguments => exact failure?_invoke_ordinarily fits
  | field handle className name value mode scope => exact failure?_field_ordinarily fits
  | finalize handle className =>
      simp only [failure?, InstanceTable.release]
      cases host.instances.find? ⟨className, handle⟩ with
      | none => exact .table _
      | some target => exact .none

/-- A reported mismatch of types is one. -/
theorem Failure.of_message {failure : Failure} {text : String}
    (said : failure.message = (Catalog.Failure.typeMismatch text).message) :
    failure = .catalog (.typeMismatch text) := by
  have heads := congrArg (fun text => text.toList.head?) said
  cases failure with
  | catalog failure =>
      cases failure with
      | typeMismatch other => rw [String.append_right_inj _ |>.mp said]
      | classNotFound | constructorNotFound | methodNotFound | fieldNotFound | invocation =>
          dsimp only [message, Catalog.Failure.message] at heads
          simp at heads
  | table failure =>
      cases failure with
      | missing | occupied =>
          dsimp only [message, Catalog.Failure.message, InstanceTable.Failure.message] at heads
          simp at heads

/-- A request that does not lead to a member of another type logs no text of a mismatch. -/
theorem ordinary_of_logged {catalog : Catalog σ} {host : Host σ} {request : Request}
    (fits : ¬ Mistyped catalog host request) {text : String}
    (logged : (Catalog.Failure.typeMismatch text).message ∈ (execute catalog host request).errors) :
    (Catalog.Failure.typeMismatch text).Ordinary := by
  obtain ⟨failure, failed, said⟩ := errors_execute catalog host request _ logged
  rw [Failure.of_message said.symm] at failed
  exact failure?_ordinarily fits _ failed

end Host

end RemoteObjects
