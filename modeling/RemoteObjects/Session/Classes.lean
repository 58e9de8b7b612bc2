import RemoteObjects.Session.State

namespace RemoteObjects.Session

inductive CatalogCommand where
  | define (plans : List ClassPlan)
  | contains (className : String)
  | construct (className : String) (types : List ValueType) (arguments : List Value)
  | invoke (className name : String) (types : List ValueType) (scope : Scope)
      (arguments : List Value) (target : Option (Instance Slots))
  | access (className name : String) (scope : Scope) (target : Option (Instance Slots))
      (value : Option Value)
deriving Repr

/-- A new definition takes the name and leaves the hosts of the old one alone. -/
def defineCatalog (name : String) (plans : List ClassPlan) : Acting Outcome := do
  let session ← get
  let (stores, id) := session.stores.addCatalog plans
  set { session with stores, catalogNames := session.catalogNames.set name id }
  pure (.defined (plans.map (·.owner.className)))

def constructFrom (id : Nat) (className : String) (types : List ValueType)
    (arguments : List Value) : Acting Outcome := do
  let stores := (← get).stores
  match (stores.catalog id).findConstructor className types with
  | .error failure => pure (.failed (.catalog failure))
  | .ok found =>
      setStores (stores.reserveFor id className types arguments)
      pure (.constructed found.types (found.build arguments))

/-- Without a target the method is called statically. -/
def invokeFrom (id : Nat) (className name : String) (types : List ValueType) (scope : Scope)
    (arguments : List Value) (target : Option (Instance Slots)) : Acting Outcome := do
  match ((← get).stores.catalog id).findMethod className name types scope with
  | .error failure => pure (.failed (.catalog failure))
  | .ok method =>
      match target with
      | none => pure (.invoked method.name method.scope (method.invokeStatic arguments) none)
      | some target =>
          let (target, result) := method.invoke target arguments
          pure (.invoked method.name method.scope result (some target))

/-- A value is written, and without one the field is read. -/
def accessFrom (id : Nat) (className name : String) (scope : Scope)
    (target : Option (Instance Slots)) (value : Option Value) : Acting Outcome := do
  let stores := (← get).stores
  match (stores.catalog id).findField className name scope with
  | .error failure => pure (.failed (.catalog failure))
  | .ok field =>
      match value with
      | none =>
          pure (.accessed field.type (some <$> field.read (stores.statics id) target) target)
      | some value =>
          let (statics, written, result) := field.write (stores.statics id) target value
          setStores (stores.setStatics id statics)
          pure (.accessed field.type (result.map fun () => none) written)

def CatalogCommand.perform (name : String) : CatalogCommand → Acting Outcome
  | .define plans => defineCatalog name plans
  | .contains className => do
      let id ← known (← get).catalogNames name
      pure (.contains (((← get).stores.catalog id).contains className) none)
  | .construct className types arguments => do
      let id ← known (← get).catalogNames name
      constructFrom id className types arguments
  | .invoke className member types scope arguments target => do
      let id ← known (← get).catalogNames name
      invokeFrom id className member types scope arguments target
  | .access className member scope target value => do
      let id ← known (← get).catalogNames name
      accessFrom id className member scope target value

end RemoteObjects.Session
