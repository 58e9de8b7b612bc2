import RemoteObjects.Registry
import RemoteObjects.Reply
import RemoteObjects.Transport.Failure

namespace RemoteObjects.Proxy

inductive Failure where
  | transportUnavailable (text : String)
  | transport (failure : Transport.Failure)
  | handleNotFound (className : String)
  | permissionDenied (operation : Kind) (className : String)
  | handlesExhausted
  | remote (reason : Refusal)
  | faulty (fault : Fault)
  | misconfigured (text : String)
deriving DecidableEq, Repr

namespace Failure

def message : Failure → String
  | .transportUnavailable text => "Transport unavailable: " ++ text
  | .transport failure => "Transport error: " ++ failure.message
  | .handleNotFound className => "No handle for " ++ className ++ " object"
  | .permissionDenied operation className =>
      "Policy denied " ++ operation.text ++ " on " ++ className
  | .handlesExhausted => "No handles left to issue"
  | .remote reason => "Remote failure: " ++ reason.message
  | .faulty fault => "RPC error: " ++ fault.message
  | .misconfigured text => "Misconfigured: " ++ text

def causes : Failure → List String
  | .transport failure => failure.message :: failure.causes
  | .faulty fault => fault.message :: fault.causes
  | _ => []

/-- Normal use runs into soft failures; the others mean that something is broken. -/
def isSoft : Failure → Bool
  | .handleNotFound _ | .permissionDenied _ _ | .remote _ => true
  | _ => false

def ofTransport : Transport.Failure → Failure
  | .unavailable text => .transportUnavailable text
  | .faulty fault => .faulty fault
  | other => .transport other

def ofRegistry : Registry.Failure → Failure
  | .handleNotFound className => .handleNotFound className
  | .exhausted => .handlesExhausted

end Failure

end RemoteObjects.Proxy
