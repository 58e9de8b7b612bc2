import RemoteObjects.Session.State

namespace RemoteObjects.Session

inductive DispatcherCommand where
  | create (catalog : String) (table : Option String)
  | execute (request : Request)
  | answer (request : Request)
  | size
  | peek (key : InstanceKey)
  | exportAs (directory name : String)
deriving Repr

/-- Without a named table the dispatcher gets one of its own. -/
def createDispatcher (name catalog : String) (table : Option String) : Acting Outcome := do
  let catalog ← known (← get).catalogNames catalog
  let table ← match table with
    | some table => namedTable table
    | none => do
        let (stores, id) := (← get).stores.addTable
        setStores stores
        pure id
  modify fun session =>
    { session with dispatchers := session.dispatchers.set name { catalog, table } }
  pure .done

/-- The stores of the session take part in every execution. -/
def runExecution (execution : Execution Stores) (request : Request) : Acting (Option Reply) := do
  let answered := execution (← get).stores request
  setStores answered.state
  emit answered.events
  pure answered.result

/-- A dispatcher checks the shape of what it is called with. -/
def callEndpoint (endpoint : Endpoint) (request : Request) : Acting (Option Reply) :=
  match endpoint with
  | .dispatcher dispatcher => runExecution (Stores.answer dispatcher) request
  | .echo => pure (some (.granted (.str request.className)))
  | .fixed reply => pure reply

def exportDispatcher (dispatcher : Dispatcher) (directory name : String) : Acting Outcome := do
  let exported := (← directoryNamed directory).exportHost name (.dispatcher dispatcher)
  setDirectory directory exported.state
  emit exported.events
  pure (.ofExcept .directory (fun () => .done) exported.result)

def DispatcherCommand.perform (name : String) (command : DispatcherCommand) : Acting Outcome := do
  match command with
  | .create catalog table => createDispatcher name catalog table
  | .execute request =>
      let dispatcher ← known (← get).dispatchers name
      .replied <$> runExecution (Stores.execute dispatcher) request
  | .answer request =>
      let dispatcher ← known (← get).dispatchers name
      .replied <$> runExecution (Stores.answer dispatcher) request
  | .size =>
      let dispatcher ← known (← get).dispatchers name
      pure (.size ((← get).stores.table dispatcher.table).size)
  | .peek key =>
      let dispatcher ← known (← get).dispatchers name
      let table := (← get).stores.table dispatcher.table
      pure (.ofExcept .table .found (InstanceTable.get table key))
  | .exportAs directory exported =>
      let dispatcher ← known (← get).dispatchers name
      exportDispatcher dispatcher directory exported

/-- An endpoint as a command names it. -/
inductive EndpointPlan where
  | dispatcher (name : String)
  | echo
  | fixed (reply : Option Reply)
deriving Repr

def EndpointPlan.resolve : EndpointPlan → Acting Endpoint
  | .dispatcher name => do pure (.dispatcher (← known (← get).dispatchers name))
  | .echo => pure .echo
  | .fixed reply => pure (.fixed reply)

inductive DirectoryCommand where
  | bind (endpoint : EndpointPlan)
  | rebind (endpoint : EndpointPlan)
  | isBound
  | lookup (request : Option Request)
  | unbind (request : Option Request)
deriving Repr

/-- An endpoint that was found may be called at once. -/
def useEndpoint (found : Except Directory.Failure Endpoint) (request : Option Request) :
    Acting Outcome :=
  match found, request with
  | .error failure, _ => pure (.failed (.directory failure))
  | .ok _, none => pure .done
  | .ok endpoint, some request => .replied <$> callEndpoint endpoint request

def DirectoryCommand.perform (directoryName name : String) (command : DirectoryCommand) :
    Acting Outcome := do
  let directory ← directoryNamed directoryName
  match command with
  | .bind plan =>
      let bound := directory.bind name (← plan.resolve)
      setDirectory directoryName bound.state
      emit bound.events
      pure (.ofExcept .directory (fun () => .done) bound.result)
  | .rebind plan =>
      let bound := directory.rebind name (← plan.resolve)
      setDirectory directoryName bound.state
      emit bound.events
      pure .done
  | .isBound => pure (.bound (directory.contains name))
  | .lookup request => useEndpoint (directory.resolve name) request
  | .unbind request =>
      let (directory, found) := directory.unbind name
      setDirectory directoryName directory
      useEndpoint found request

end RemoteObjects.Session
