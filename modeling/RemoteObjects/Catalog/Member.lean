import RemoteObjects.Association
import RemoteObjects.Reply
import RemoteObjects.Request.Basic
import RemoteObjects.Signature

/-! A body that fails may still have changed the state of its object. -/

namespace RemoteObjects

/-- An instance is the state of an object under the name of the type it was built as. -/
structure Instance (σ : Type) where
  type : String
  state : σ
deriving DecidableEq, Repr, Inhabited

/-- A failing body tells what went wrong and what lies behind it, the outermost cause first. -/
structure BodyFailure where
  causes : List String
deriving DecidableEq, Repr, Inhabited

def BodyFailure.text (failure : BodyFailure) : String :=
  String.intercalate ": " failure.causes

/-- The class that declares a member, and the type of its objects. -/
structure Owner where
  className : String
  objectType : String
deriving DecidableEq, Repr, Inhabited

namespace Catalog

inductive Failure where
  | classNotFound (className : String)
  | constructorNotFound (className : String) (types : List ValueType)
  | methodNotFound (className name : String)
  | fieldNotFound (className name : String)
  | typeMismatch (text : String)
  | invocation (text : String)
deriving DecidableEq, Repr

def Failure.message : Failure → String
  | .classNotFound className => "Class not found: " ++ className
  | .constructorNotFound className types =>
      "No constructor " ++ className ++ "(" ++ String.intercalate ", " (types.map (·.name)) ++ ")"
  | .methodNotFound className name => "Method not found: " ++ className ++ "." ++ name
  | .fieldNotFound className name => "Field not found: " ++ className ++ "." ++ name
  | .typeMismatch text => "Type mismatch: " ++ text
  | .invocation text => "Invocation failed: " ++ text

/-- What the caller on the other side is told. -/
def Failure.reason : Failure → Refusal
  | .classNotFound _ => .classNotFound
  | .constructorNotFound _ _ | .methodNotFound _ _ | .fieldNotFound _ _ => .memberNotFound
  | .typeMismatch _ => .typeMismatch
  | .invocation text => .invocationFailed text

def Failure.ofFault (fault : Fault) : Failure :=
  .typeMismatch fault.message

def Failure.ofBody (failure : BodyFailure) : Failure :=
  .invocation failure.text

def Failure.wrongType (owner : Owner) : Failure :=
  .typeMismatch ("instance is not a " ++ owner.className)

end Catalog

open Catalog (Failure)

/-- The arguments are checked before any body runs. -/
def Signature.require (signature : Signature) (arguments : List Value) : Except Failure Unit :=
  match signature.check arguments with
  | .ok () => .ok ()
  | .error rejection => .error (.ofFault rejection.fault)

structure Constructor (σ : Type) where
  owner : Owner
  types : Signature
  body : List Value → Except BodyFailure σ

def Constructor.build {σ : Type} (constructor : Constructor σ) (arguments : List Value) :
    Except Failure (Instance σ) := do
  constructor.types.require arguments
  match constructor.body arguments with
  | .ok state => pure { type := constructor.owner.objectType, state }
  | .error failure => throw (.ofBody failure)

inductive MethodBody (σ : Type) where
  | object (run : σ → List Value → σ × Except BodyFailure Value)
  | static (run : List Value → Except BodyFailure Value)

structure Method (σ : Type) where
  owner : Owner
  name : String
  types : Signature
  body : MethodBody σ

def Method.scope {σ : Type} (method : Method σ) : Scope :=
  match method.body with
  | .object _ => .object
  | .static _ => .static

/-- A static body ignores the target. -/
def Method.invoke {σ : Type} (method : Method σ) (target : Instance σ) (arguments : List Value) :
    Instance σ × Except Failure Value :=
  match method.types.require arguments with
  | .error failure => (target, .error failure)
  | .ok () =>
      match method.body with
      | .static run => (target, (run arguments).mapError .ofBody)
      | .object run =>
          if target.type = method.owner.objectType then
            let (state, result) := run target.state arguments
            ({ target with state }, result.mapError .ofBody)
          else
            (target, .error (.wrongType method.owner))

def Method.invokeStatic {σ : Type} (method : Method σ) (arguments : List Value) :
    Except Failure Value := do
  method.types.require arguments
  match method.body with
  | .static run => (run arguments).mapError .ofBody
  | .object _ => throw (.methodNotFound method.owner.className method.name)

inductive FieldStore (σ : Type) where
  | object (get : σ → Value) (set : σ → Value → σ × Except BodyFailure Unit)
  | static

structure Field (σ : Type) where
  owner : Owner
  name : String
  type : ValueType
  store : FieldStore σ

def Field.scope {σ : Type} (field : Field σ) : Scope :=
  match field.store with
  | .object _ _ => .object
  | .static => .static

def Field.needsInstance {σ : Type} (field : Field σ) : Failure :=
  .typeMismatch (field.name ++ " is an instance field")

/-- Every write is checked against the declared type first. -/
def Field.require {σ : Type} (field : Field σ) (value : Value) : Except Failure Unit :=
  if field.type.accepts value then .ok ()
  else .error (.typeMismatch
    ("field " ++ field.name ++ " is " ++ field.type.name ++ ", got " ++ value.typeName))

/-- The values of static fields, by class and field. -/
abbrev Statics := Association (String × String) Value

def Field.key {σ : Type} (field : Field σ) : String × String :=
  (field.owner.className, field.name)

/-- A static field ignores the target. -/
def Field.read {σ : Type} (field : Field σ) (statics : Statics) (target : Option (Instance σ)) :
    Except Failure Value :=
  match field.store, target with
  | .static, _ => .ok ((statics.find? field.key).getD .null)
  | .object get _, some target =>
      if target.type = field.owner.objectType then .ok (get target.state)
      else .error (.wrongType field.owner)
  | .object _ _, none => .error field.needsInstance

/-- A write changes the static values or the target, never both. -/
def Field.write {σ : Type} (field : Field σ) (statics : Statics) (target : Option (Instance σ))
    (value : Value) : Statics × Option (Instance σ) × Except Failure Unit :=
  match field.require value with
  | .error failure => (statics, target, .error failure)
  | .ok () =>
      match field.store, target with
      | .static, target => (statics.set field.key value, target, .ok ())
      | .object _ set, some target =>
          if target.type = field.owner.objectType then
            let (state, result) := set target.state value
            (statics, some { target with state }, result.mapError .ofBody)
          else
            (statics, some target, .error (.wrongType field.owner))
      | .object _ _, none => (statics, none, .error field.needsInstance)

end RemoteObjects
