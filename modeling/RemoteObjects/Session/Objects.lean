import RemoteObjects.Session.State

namespace RemoteObjects.Session

inductive RegistryCommand where
  | register (key : RegistryKey)
  | lookup (key : RegistryKey)
  | unregister (key : RegistryKey)
  | size
deriving DecidableEq, Repr

def RegistryCommand.perform (name : String) (command : RegistryCommand) : Acting Outcome := do
  let id ← namedRegistry name
  let registry ← numbered (← get).registries id
  match command with
  | .register key =>
      let registered := registry.register key
      setRegistry id registered.state
      emit registered.events
      pure (.ofExcept .registry .registered registered.result)
  | .lookup key => pure (.ofExcept .registry .handle (registry.lookup key))
  | .unregister key =>
      let released := registry.unregister key
      setRegistry id released.state
      emit released.events
      pure (.ofExcept .registry .handle released.result)
  | .size => pure (.size registry.size)

inductive TableCommand where
  | insert (key : InstanceKey) (added : Instance Slots)
  | fetch (key : InstanceKey)
  | remove (key : InstanceKey)
  | contains (key : InstanceKey)
  | size
deriving Repr

def TableCommand.perform (name : String) (command : TableCommand) : Acting Outcome := do
  let id ← namedTable name
  let stores := (← get).stores
  let table := stores.table id
  match command with
  | .insert key added =>
      match InstanceTable.bind table key added with
      | .ok table =>
          setStores (stores.setTable id table)
          pure .done
      | .error failure => pure (.failed (.table failure))
  | .fetch key => pure (.ofExcept .table .found (InstanceTable.get table key))
  | .remove key =>
      match InstanceTable.release table key with
      | .ok (released, table) =>
          setStores (stores.setTable id table)
          pure (.found released)
      | .error failure => pure (.failed (.table failure))
  | .contains key => pure (.contains (table.contains key) (some key))
  | .size => pure (.size table.size)

end RemoteObjects.Session
