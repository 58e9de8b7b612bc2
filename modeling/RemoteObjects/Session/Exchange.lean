import RemoteObjects.Session.Channels
import RemoteObjects.Session.Hosting

namespace RemoteObjects.Session

/-- Sending is over, or a round trip waits for its response. -/
inductive Sending where
  | concluded (outcome : Except Transport.Failure (Option Reply))
  | waiting (medium : Nat) (trip : RoundTrip)

def setLink (id : Nat) (link : Link) : Acting Unit :=
  modify fun session => { session with links := session.links.set id link }

def addLink (link : Link) : Acting Nat := do
  let session ← get
  set { session with links := session.links ++ [link] }
  pure session.links.length

def nameLink (name : String) (link : Link) : Acting Outcome := do
  let id ← addLink link
  modify fun session => { session with linkNames := session.linkNames.set name id }
  pure .done

def sendDirect (id : Nat) (directory : String) (line : DirectLine Endpoint) (request : Request)
    (oneWay : Bool) : Acting Sending := do
  let resolved := line.resolve (← directoryNamed directory)
  setLink id (.direct directory resolved.state)
  emit resolved.events
  match resolved.result with
  | .error failure => pure (.concluded (.error failure))
  | .ok endpoint =>
      let reply ← callEndpoint endpoint request
      pure (.concluded (line.conclude request oneWay reply))

/-- The clock is looked at once, when the request is sent. -/
def sendCorrelated (medium : Nat) (timeout : Option Nat) (request : Request) (oneWay : Bool) :
    Acting Sending := do
  let found ← numbered (← get).media medium
  let now := (← get).now
  if oneWay then
    let sent := RoundTrip.sendOneWay found request
    setMedium medium sent.state
    emit sent.events
    pure (.concluded (sent.result.map fun () => none))
  else
    let begun := RoundTrip.begin now timeout found request
    setMedium medium begun.state
    emit begun.events
    match begun.result with
    | .error failure => pure (.concluded (.error failure))
    | .ok trip =>
        let polled := RoundTrip.poll now .first begun.state trip
        setMedium medium polled.state
        emit polled.events
        match polled.result with
        | some result => pure (.concluded (result.map some))
        | none => pure (.waiting medium trip)

/-- A recorder keeps every request and answers as it was told. -/
def sendRecorded (id : Nat) (reply : Option Reply) (failure : Option Transport.Failure)
    (sent : List (Request × Bool)) (request : Request) (oneWay : Bool) : Acting Sending := do
  setLink id (.recorder reply failure (sent ++ [(request, oneWay)]))
  match failure with
  | some failure => pure (.concluded (.error failure))
  | none => pure (.concluded (.ok (if oneWay then none else reply)))

def sendOver (id : Nat) (request : Request) (oneWay : Bool) : Acting Sending := do
  match ← numbered (← get).links id with
  | .direct directory line => sendDirect id directory line request oneWay
  | .correlated medium timeout => sendCorrelated medium timeout request oneWay
  | .recorder reply failure sent => sendRecorded id reply failure sent request oneWay

def sendingOutcome (outcome : Except Transport.Failure (Option Reply)) : Outcome :=
  .ofExcept .transport .replied outcome

inductive LinkCommand where
  | direct (directory endpoint : String)
  | correlated (medium : String) (timeout : Option Nat)
  | recorder (reply : Option Reply) (failure : Option Transport.Failure)
  | send (request : Request) (oneWay : Bool)
  | sent
  | resolution
deriving Repr

def LinkCommand.perform (step : Nat) (name : String) (command : LinkCommand) : Acting Outcome := do
  match command with
  | .direct directory endpointName => nameLink name (.direct directory { endpointName })
  | .correlated medium timeout =>
      let medium ← namedMedium medium
      nameLink name (.correlated medium timeout)
  | .recorder reply failure => nameLink name (.recorder reply failure [])
  | .send request oneWay =>
      let id ← known (← get).linkNames name
      match ← sendOver id request oneWay with
      | .concluded outcome => pure (sendingOutcome outcome)
      | .waiting medium trip =>
          suspend { step, medium, purpose := .send trip }
          pure .pending
  | .sent =>
      let id ← known (← get).linkNames name
      match ← numbered (← get).links id with
      | .recorder reply failure requests =>
          setLink id (.recorder reply failure [])
          pure (.sent requests)
      | .direct .. | .correlated .. => throw name
  | .resolution =>
      let id ← known (← get).linkNames name
      match ← numbered (← get).links id with
      | .direct _ line => pure (.resolution line.isResolved line.endpointName)
      | .recorder .. | .correlated .. => throw name

inductive ServiceCommand where
  | start (dispatcher medium : String) (stopName : Option String)
  | serveOne (dispatcher medium : String)
  | stop (name : String)
deriving Repr

/-- A turn of a service works on its medium and on the stores of the session. -/
def runTurn (medium : Nat)
    (turn : AnyMedium → Stores → Step (AnyMedium × Stores) Service.Progress) :
    Acting Service.Progress := do
  let found ← numbered (← get).media medium
  let turned := turn found (← get).stores
  setMedium medium turned.state.1
  setStores turned.state.2
  emit turned.events
  pure turned.result

/-- A loop that may go on does so when it is looked at again. -/
def startService (step : Nat) (dispatcher : Dispatcher) (medium : Nat) (stop : Option String) :
    Acting Outcome := do
  match ← runTurn medium (Service.start (Stores.execute dispatcher)) with
  | .failed failure => pure (.failed (.service failure))
  | .waiting channel =>
      suspend { step, medium, purpose := .serve dispatcher stop (some channel) }
      pure .pending
  | .served =>
      suspend { step, medium, purpose := .serve dispatcher stop none }
      pure .pending

def serveOneFrame (step : Nat) (dispatcher : Dispatcher) (medium : Nat) : Acting Outcome := do
  match ← runTurn medium (Service.serveOne (Stores.execute dispatcher)) with
  | .failed failure => pure (.failed (.service failure))
  | .waiting channel =>
      suspend { step, medium, purpose := .serveOne dispatcher channel }
      pure .pending
  | .served => pure .done

def Suspended.stopsAt (name : String) (task : Suspended) : Bool :=
  match task.purpose with
  | .serve _ (some stop) _ => stop = name
  | _ => false

/-- A stopped service completes without a failure. -/
def stopService (name : String) : Acting Outcome := do
  match (← get).suspended.find? (Suspended.stopsAt name) with
  | none => pure (.listening false)
  | some task =>
      let found ← numbered (← get).media task.medium
      let (found, events) := Service.stop found task.purpose.channel?
      setMedium task.medium found
      emit events
      modify fun session =>
        { session with
          suspended := session.suspended.filter fun other => other.step ≠ task.step
          completed := session.completed ++ [(task.step, .done)] }
      pure (.listening true)

def ServiceCommand.perform (step : Nat) : ServiceCommand → Acting Outcome
  | .start dispatcher medium stopName => do
      let dispatcher ← known (← get).dispatchers dispatcher
      let medium ← namedMedium medium
      startService step dispatcher medium stopName
  | .serveOne dispatcher medium => do
      let dispatcher ← known (← get).dispatchers dispatcher
      let medium ← namedMedium medium
      serveOneFrame step dispatcher medium
  | .stop name => stopService name

end RemoteObjects.Session
