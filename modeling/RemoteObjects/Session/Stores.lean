import RemoteObjects.Host.Basic
import RemoteObjects.Session.Plan

namespace RemoteObjects.Session

/-- A catalog in use: its plan stays, its static values change. -/
structure PlannedCatalog where
  plans : List ClassPlan
  statics : Statics

/-- Tables are numbered in the order of their creation; some of them have names. -/
structure Stores where
  tables : List (InstanceTable Slots) := []
  tableNames : Association String Nat := {}
  catalogs : List PlannedCatalog := []

/-- A dispatcher joins one catalog and one table. -/
structure Dispatcher where
  catalog : Nat
  table : Nat
deriving DecidableEq, Repr

namespace Stores

def table (stores : Stores) (id : Nat) : InstanceTable Slots :=
  stores.tables[id]?.getD {}

def setTable (stores : Stores) (id : Nat) (table : InstanceTable Slots) : Stores :=
  { stores with tables := stores.tables.set id table }

def addTable (stores : Stores) : Stores × Nat :=
  ({ stores with tables := stores.tables ++ [{}] }, stores.tables.length)

/-- A table is created, empty, when it is first named. -/
def namedTable (stores : Stores) (name : String) : Stores × Nat :=
  match stores.tableNames.find? name with
  | some id => (stores, id)
  | none =>
      let (stores, id) := stores.addTable
      ({ stores with tableNames := stores.tableNames.set name id }, id)

def isTaken (stores : Stores) (reservation : Reservation) : Bool :=
  match stores.tableNames.find? reservation.table with
  | some id => (stores.table id).contains reservation.key
  | none => false

def plans (stores : Stores) (id : Nat) : List ClassPlan :=
  (stores.catalogs[id]?.map (·.plans)).getD []

def statics (stores : Stores) (id : Nat) : Statics :=
  (stores.catalogs[id]?.map (·.statics)).getD {}

def setStatics (stores : Stores) (id : Nat) (statics : Statics) : Stores :=
  { stores with catalogs := stores.catalogs.modify id fun planned => { planned with statics } }

def addCatalog (stores : Stores) (plans : List ClassPlan) : Stores × Nat :=
  let statics := (buildCatalog (fun _ => false) plans).initialStatics
  ({ stores with catalogs := stores.catalogs ++ [{ plans, statics }] }, stores.catalogs.length)

def catalog (stores : Stores) (id : Nat) : Catalog Slots :=
  buildCatalog stores.isTaken (stores.plans id)

/-- The second instance only says that it was bound this way. -/
def reserve (stores : Stores) (owner : Owner) (reservation : Reservation) : Stores :=
  let (stores, id) := stores.namedTable reservation.table
  let second := { type := owner.objectType, state := Association.ofList [("claimed", .bool true)] }
  stores.setTable id ((stores.table id).set reservation.key second)

/-- The constructor's reservation is made if its body will run and the key is free. -/
def reserveFor (stores : Stores) (catalog : Nat) (className : String) (types : List ValueType)
    (arguments : List Value) : Stores :=
  match findReservation (stores.plans catalog) className types with
  | some (owner, reservation) =>
      if (Signature.check types arguments).toOption.isSome && !stores.isTaken reservation then
        stores.reserve owner reservation
      else
        stores
  | none => stores

/-- A construction under a bound key runs no constructor, so it reserves nothing. -/
def prepare (stores : Stores) (dispatcher : Dispatcher) : Request → Stores
  | .construct handle className types arguments =>
      if (stores.table dispatcher.table).contains { className, handle } then stores
      else stores.reserveFor dispatcher.catalog className types arguments
  | _ => stores

/-- The catalog is the one before the reservation, so that no body meets its own reservation. -/
def execute (dispatcher : Dispatcher) : Execution Stores := fun stores request =>
  let catalog := stores.catalog dispatcher.catalog
  let prepared := stores.prepare dispatcher request
  let host : Host Slots :=
    { instances := prepared.table dispatcher.table
      statics := prepared.statics dispatcher.catalog }
  let answered := host.execute catalog request
  { state :=
      (prepared.setTable dispatcher.table answered.state.instances).setStatics dispatcher.catalog
        answered.state.statics
    result := answered.result
    events := answered.events }

def answer (dispatcher : Dispatcher) : Execution Stores :=
  Execution.guarded (execute dispatcher)

end Stores

end RemoteObjects.Session
