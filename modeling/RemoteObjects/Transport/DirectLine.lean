import RemoteObjects.Directory
import RemoteObjects.Reply
import RemoteObjects.Request.Basic
import RemoteObjects.Transport.Failure

/-! The endpoint is looked up at the first call and kept; a look-up that failed is tried again. -/

namespace RemoteObjects

structure DirectLine (ε : Type) where
  endpointName : String
  endpoint : Option ε := none
deriving DecidableEq, Repr

namespace DirectLine

variable {ε : Type}

def isResolved (line : DirectLine ε) : Bool :=
  line.endpoint.isSome

def resolve (line : DirectLine ε) (directory : Directory ε) :
    Step (DirectLine ε) (Except Transport.Failure ε) :=
  match line.endpoint with
  | some endpoint => { state := line, result := .ok endpoint }
  | none =>
      match directory.resolve line.endpointName with
      | .error failure => { state := line, result := .error (.unavailable failure.message) }
      | .ok endpoint =>
          { state := { line with endpoint := some endpoint }
            result := .ok endpoint
            events := [.debug "resolved direct endpoint" [("endpoint", line.endpointName)]] }

/-- A one-way call drops the reply; any other call needs one. -/
def conclude (line : DirectLine ε) (request : Request) (oneWay : Bool) (reply : Option Reply) :
    Except Transport.Failure (Option Reply) :=
  if oneWay then .ok none
  else match reply with
    | some reply => .ok (some reply)
    | none =>
        .error (.connectionLost
          (line.endpointName ++ " returned no reply to a " ++ request.kind.text))

end DirectLine

end RemoteObjects
