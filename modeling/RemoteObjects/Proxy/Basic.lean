import RemoteObjects.Proxy.Failure
import RemoteObjects.Request.Shape
import RemoteObjects.Settings

/-! An operation is split where it waits for the transport, so that anything may happen in between. -/

namespace RemoteObjects

/-- A policy permits or denies a request of some kind. -/
abbrev Policy := Kind → Request → Bool

namespace Proxy

inductive Action where
  | construct (object : ObjectId) (types : List ValueType) (arguments : List Value)
  | finalize (object : ObjectId)
  | invoke (object : Option ObjectId) (method : String) (types : List ValueType)
      (arguments : List Value)
  | readField (object : ObjectId) (name : String)
  | writeField (object : ObjectId) (name : String) (value : Value)
  | readStaticField (name : String)
  | writeStaticField (name : String) (value : Value)
deriving DecidableEq, Repr

/-- Only invocations and reads wait for a reply. -/
def Action.awaitsReply : Action → Bool
  | .invoke .. | .readField .. | .readStaticField .. => true
  | .construct .. | .finalize .. | .writeField .. | .writeStaticField .. => false

/-- The name under which a failure of the action is logged. -/
def Action.name : Action → String
  | .construct .. => "construct"
  | .finalize .. => "finalize"
  | .invoke .. => "invoke"
  | .readField .. | .readStaticField .. => "read-field"
  | .writeField .. | .writeStaticField .. => "write-field"

/-- The object on which the action works; static actions have none. -/
def Action.object? : Action → Option ObjectId
  | .construct object _ _ | .finalize object | .readField object _ | .writeField object _ _ =>
      some object
  | .invoke object _ _ _ => object
  | .readStaticField _ | .writeStaticField _ _ => none

structure Operation where
  className : String
  action : Action
deriving DecidableEq, Repr

def Operation.key (operation : Operation) (object : ObjectId) : RegistryKey :=
  { className := operation.className, object }

/-- Each operation has exactly one request. -/
def Operation.request (operation : Operation) (handle : Handle) : Request :=
  match operation.action with
  | .construct _ types arguments => .construct handle operation.className types arguments
  | .finalize _ => .finalize handle operation.className
  | .invoke _ method types arguments => .invoke handle operation.className method types arguments
  | .readField _ name => .readField handle operation.className name
  | .writeField _ name value => .writeField handle operation.className name value
  | .readStaticField name => .readStaticField operation.className name
  | .writeStaticField name value => .writeStaticField operation.className name value

/-- What an operation gives to its caller. -/
inductive Answer where
  | handle (handle : Handle)
  | value (value : Value)
  | done
deriving DecidableEq, Repr

/-- An operation whose request is to be sent, and which ends with the outcome of the sending. -/
structure Pending where
  operation : Operation
  handle : Handle
  request : Request
  oneWay : Bool
deriving DecidableEq, Repr

/-- An operation is over before anything is sent, or it sends its request. -/
inductive Begun where
  | finished (result : Except Failure Answer)
  | sending (pending : Pending)

/-- The requests about which the policy was asked, and how the operation began. -/
structure Opening where
  begun : Begun
  asked : List Request := []

/-- The shape comes first; a policy is never asked about a malformed request. -/
def check (policy : Policy) (enclave : String) (request : Request) :
    Step (List Request) (Except Failure Unit) :=
  match request.checkShape with
  | .error violation => { state := [], result := .error (.faulty violation.fault) }
  | .ok () =>
      if policy request.kind request then { state := [request], result := .ok () }
      else
        { state := [request]
          result := .error (.permissionDenied request.kind request.className)
          events := [.warn "policy denied operation"
            [("enclave", enclave), ("class", request.className),
              ("operation", request.kind.text)]] }

def Operation.pending (operation : Operation) (handle : Handle) : Pending :=
  { operation
    handle
    request := operation.request handle
    oneWay := !operation.action.awaitsReply }

/-- An invocation is logged once it has passed the checks. -/
def Operation.announce (operation : Operation) (enclave : String) (handle : Handle) : List Event :=
  match operation.action with
  | .invoke _ method _ _ =>
      [.debug "invoke"
        [("enclave", enclave), ("class", operation.className), ("handle", handle.text),
          ("method", method)]]
  | _ => []

/-- An object that already has a handle keeps it and nothing is sent. A construction that fails
its checks gives its fresh handle back. -/
def beginConstruct (policy : Policy) (enclave : String) (registry : Registry)
    (operation : Operation) (object : ObjectId) : Step Registry Opening :=
  let registered := registry.register (operation.key object)
  match registered.result with
  | .error failure =>
      { state := registered.state
        result := { begun := .finished (.error (.ofRegistry failure)) }
        events := registered.events }
  | .ok (.existing handle) =>
      { state := registered.state
        result := { begun := .finished (.ok (.handle handle)) }
        events := registered.events }
  | .ok (.fresh handle) =>
      let checked := check policy enclave (operation.request handle)
      match checked.result with
      | .ok () =>
          { state := registered.state
            result := { begun := .sending (operation.pending handle), asked := checked.state }
            events := registered.events ++ checked.events }
      | .error failure =>
          let released := registered.state.unregister (operation.key object)
          { state := released.state
            result := { begun := .finished (.error failure), asked := checked.state }
            events := registered.events ++ checked.events ++ released.events }

/-- A handle is needed before anything is checked. -/
def beginOn (policy : Policy) (enclave : String) (registry : Registry) (operation : Operation)
    (found : Except Registry.Failure Handle) : Step Registry Opening :=
  match found with
  | .error failure =>
      { state := registry, result := { begun := .finished (.error (.ofRegistry failure)) } }
  | .ok handle =>
      let checked := check policy enclave (operation.request handle)
      match checked.result with
      | .error failure =>
          { state := registry
            result := { begun := .finished (.error failure), asked := checked.state }
            events := checked.events }
      | .ok () =>
          { state := registry
            result := { begun := .sending (operation.pending handle), asked := checked.state }
            events := checked.events ++ operation.announce enclave handle }

/-- The part of an operation before its request is sent. -/
def begin (policy : Policy) (enclave : String) (registry : Registry) (operation : Operation) :
    Step Registry Opening :=
  match operation.action, operation.action.object? with
  | .construct object _ _, _ => beginConstruct policy enclave registry operation object
  | _, some object =>
      beginOn policy enclave registry operation (registry.lookup (operation.key object))
  | _, none => beginOn policy enclave registry operation (.ok .static)

/-- A round trip without a reply is a lost connection. -/
def replyValue : Except Transport.Failure (Option Reply) → Except Failure Value
  | .error failure => .error (.ofTransport failure)
  | .ok none => .error (.transport (.connectionLost "round trip returned no reply"))
  | .ok (some (.granted value)) => .ok value
  | .ok (some (.refused reason)) => .error (.remote reason)

def sendResult (outcome : Except Transport.Failure (Option Reply)) : Except Failure Unit :=
  match outcome with
  | .error failure => .error (.ofTransport failure)
  | .ok _ => .ok ()

def nameFields (enclave className : String) (handle : Handle) : List (String × String) :=
  [("enclave", enclave), ("class", className), ("handle", handle.text)]

/-- A construction that could not be sent gives its handle back. -/
def finishConstruct (enclave : String) (registry : Registry) (pending : Pending)
    (object : ObjectId) (outcome : Except Transport.Failure (Option Reply)) :
    Step Registry (Except Failure Answer) :=
  match sendResult outcome with
  | .ok () =>
      { state := registry
        result := .ok (.handle pending.handle)
        events := [.info "constructed remote object"
          (nameFields enclave pending.operation.className pending.handle)] }
  | .error failure =>
      let released := registry.unregister (pending.operation.key object)
      { state := released.state, result := .error failure, events := released.events }

/-- The local entry goes away even if the other side could not be told. -/
def finishFinalize (enclave : String) (registry : Registry) (pending : Pending)
    (object : ObjectId) (outcome : Except Transport.Failure (Option Reply)) :
    Step Registry (Except Failure Answer) :=
  let released := registry.unregister (pending.operation.key object)
  match sendResult outcome with
  | .error failure =>
      { state := released.state, result := .error failure, events := released.events }
  | .ok () =>
      { state := released.state
        result := .ok .done
        events := released.events ++ [.info "finalized remote object"
          (nameFields enclave pending.operation.className pending.handle)] }

/-- The part of an operation after its request was sent, for any outcome of the sending. -/
def finish (enclave : String) (registry : Registry) (pending : Pending)
    (outcome : Except Transport.Failure (Option Reply)) :
    Step Registry (Except Failure Answer) :=
  match pending.operation.action with
  | .construct object _ _ => finishConstruct enclave registry pending object outcome
  | .finalize object => finishFinalize enclave registry pending object outcome
  | .invoke .. | .readField .. | .readStaticField .. =>
      { state := registry, result := .value <$> replyValue outcome }
  | .writeField .. | .writeStaticField .. =>
      { state := registry, result := (sendResult outcome).map fun () => .done }

/-- A caller that cannot handle failures gets no answer, and the failure is logged. -/
def settle (enclave : String) (operation : Operation) :
    Except Failure Answer → Option Answer × List Event
  | .ok answer => (some answer, [])
  | .error failure =>
      let level := if failure.isSoft then Level.warn else Level.error
      (none, [⟨level, operation.action.name ++ " failed",
        [("enclave", enclave), ("class", operation.className), ("error", failure.message)]⟩])

/-- The way in which a proxy reaches the other side, chosen once. -/
inductive Route (δ μ τ : Type) where
  | given (transport : τ)
  | direct (directory : δ) (endpoint : String)
  | correlated (medium : μ) (timeout : Option Nat)

/-- A given transport wins; otherwise the settings decide, and need the matching part. -/
def chooseRoute {δ μ τ : Type} (settings : Settings) (transport : Option τ)
    (directory : Option δ) (medium : Option μ) : Except Failure (Route δ μ τ) :=
  match transport with
  | some transport => .ok (.given transport)
  | none =>
      match settings.transport with
      | .direct =>
          match directory with
          | some directory => .ok (.direct directory settings.endpoint)
          | none => .error (.misconfigured "direct transport needs a name service")
      | .correlated =>
          match medium with
          | some medium => .ok (.correlated medium settings.timeout)
          | none => .error (.misconfigured "correlated transport needs a fabric")

def builtEvent (settings : Settings) : Event :=
  .debug "built shadow" [("enclave", settings.enclave), ("transport", settings.transport.text)]

end Proxy

end RemoteObjects
