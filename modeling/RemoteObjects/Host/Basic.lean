import RemoteObjects.Catalog.Basic
import RemoteObjects.Event
import RemoteObjects.Host.Table
import RemoteObjects.Request.Shape

/-! Constructions, field writes and finalizations get no reply, and their failures are only logged. -/

namespace RemoteObjects

/-- A host of any kind changes with the requests that it executes. -/
abbrev Execution (η : Type) := η → Request → Step η (Option Reply)

/-- Whoever waits for the answer to a malformed request is told that it is unsupported. -/
def Execution.refuseMalformed (request : Request) : Option Reply :=
  if request.isOneWay then none else some (.refused .unsupported)

/-- Only requests of the right shape reach the execution. -/
def Execution.guarded {η : Type} (execute : Execution η) : Execution η := fun host request =>
  match request.checkShape with
  | .ok () => execute host request
  | .error violation =>
      { state := host
        result := refuseMalformed request
        events := [.warn "rejected malformed message"
          [("class", request.className), ("error", violation.fault.message)]] }

/-- The changing part of a host; its catalog stays fixed. -/
structure Host (σ : Type) where
  instances : InstanceTable σ := {}
  statics : Statics := {}

inductive Host.Failure where
  | catalog (failure : Catalog.Failure)
  | table (failure : InstanceTable.Failure)
deriving DecidableEq, Repr

namespace Host

def Failure.message : Failure → String
  | .catalog failure => failure.message
  | .table failure => failure.message

def Failure.reason : Failure → Refusal
  | .catalog failure => failure.reason
  | .table (.missing _) => .handleNotFound
  | .table (.occupied key) => .invocationFailed (InstanceTable.Failure.occupied key).message

def Failure.causes (failure : Failure) : List String :=
  [failure.message]

variable {σ : Type}

/-- A host before its first request. -/
def initial (catalog : Catalog σ) : Host σ where
  statics := catalog.initialStatics

/-- A bound key keeps its instance, and then no constructor runs. -/
def construct (catalog : Catalog σ) (host : Host σ) (handle : Handle) (className : String)
    (types : List ValueType) (arguments : List Value) : Host σ × List Event :=
  let key := { className, handle }
  let names := [("class", className), ("handle", handle.text)]
  if host.instances.contains key then
    (host, [.warn "object already exists" names])
  else
    match catalog.findConstructor className types >>= fun found => found.build arguments with
    | .ok built =>
        ({ host with instances := host.instances.set key built }, [.info "constructed" names])
    | .error failure =>
        (host, [.warn "construct failed" (names ++ [("error", failure.message)])])

/-- The instance is looked up before the method. -/
def invoke (catalog : Catalog σ) (host : Host σ) (handle : Handle) (className method : String)
    (types : List ValueType) (arguments : List Value) : Host σ × Except Failure Value :=
  if handle.isStatic then
    (host, (catalog.findMethod className method types .static >>= fun found =>
      found.invokeStatic arguments).mapError .catalog)
  else
    let key := { className, handle }
    match host.instances.get key with
    | .error failure => (host, .error (.table failure))
    | .ok target =>
        match catalog.findMethod className method types .object with
        | .error failure => (host, .error (.catalog failure))
        | .ok found =>
            let (target, result) := found.invoke target arguments
            ({ host with instances := host.instances.set key target }, result.mapError .catalog)

def readField (catalog : Catalog σ) (host : Host σ) (handle : Handle) (className name : String) :
    Scope → Except Failure Value
  | .static =>
      (catalog.findField className name .static >>= fun field =>
        field.read host.statics none).mapError .catalog
  | .object =>
      match host.instances.get { className, handle } with
      | .error failure => .error (.table failure)
      | .ok target =>
          (catalog.findField className name .object >>= fun field =>
            field.read host.statics (some target)).mapError .catalog

/-- An absent value is written as null. -/
def writeField (catalog : Catalog σ) (host : Host σ) (handle : Handle) (className name : String)
    (value : Option Value) : Scope → Host σ × Except Failure Unit
  | .static =>
      match catalog.findField className name .static with
      | .error failure => (host, .error (.catalog failure))
      | .ok field =>
          let (statics, _, result) := field.write host.statics none (value.getD .null)
          ({ host with statics }, result.mapError .catalog)
  | .object =>
      let key := { className, handle }
      match host.instances.get key with
      | .error failure => (host, .error (.table failure))
      | .ok target =>
          match catalog.findField className name .object with
          | .error failure => (host, .error (.catalog failure))
          | .ok field =>
              let (statics, written, result) :=
                field.write host.statics (some target) (value.getD .null)
              ({ statics, instances := host.instances.set key (written.getD target) },
                result.mapError .catalog)

def finalize (host : Host σ) (handle : Handle) (className : String) : Host σ × List Event :=
  let names := [("class", className), ("handle", handle.text)]
  match host.instances.release { className, handle } with
  | .ok (_, instances) => ({ host with instances }, [.info "finalized" names])
  | .error failure =>
      (host, [.warn "finalize failed" (names ++ [("error", failure.message)])])

/-- A failure is logged and becomes a refusal. -/
def replyTo (operation className : String) : Except Failure Value → Reply × List Event
  | .ok value => (.granted value, [])
  | .error failure =>
      (.refused failure.reason,
        [.warn (operation ++ " failed") [("class", className), ("error", failure.message)]])

/-- A request is executed whatever its shape. -/
def execute (catalog : Catalog σ) (host : Host σ) : Request → Step (Host σ) (Option Reply)
  | .construct handle className types arguments =>
      let (host, events) := host.construct catalog handle className types arguments
      { state := host, result := none, events }
  | .invoke handle className method types arguments =>
      let entry := Event.debug "invoke"
        [("class", className), ("handle", handle.text), ("method", method)]
      let (host, result) := host.invoke catalog handle className method types arguments
      let (reply, events) := replyTo "invoke" className result
      { state := host, result := some reply, events := entry :: events }
  | .field handle className name _ .read scope =>
      let entry := Event.debug "read field"
        [("class", className), ("handle", handle.text), ("field", name)]
      let (reply, events) :=
        replyTo "read-field" className (host.readField catalog handle className name scope)
      { state := host, result := some reply, events := entry :: events }
  | .field handle className name value .write scope =>
      let entry := Event.debug "write field"
        [("class", className), ("handle", handle.text), ("field", name)]
      let (host, result) := host.writeField catalog handle className name value scope
      let events := match result with
        | .ok () => []
        | .error failure =>
            [Event.warn "field write failed"
              [("class", className), ("field", name), ("error", failure.message)]]
      { state := host, result := none, events := entry :: events }
  | .finalize handle className =>
      let (host, events) := host.finalize handle className
      { state := host, result := none, events }

/-- Requests of the right shape are executed, and the others are answered without being run. -/
def answer (catalog : Catalog σ) : Execution (Host σ) :=
  Execution.guarded (execute catalog)

end Host

end RemoteObjects
