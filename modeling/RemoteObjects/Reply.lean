import RemoteObjects.Value.Basic

namespace RemoteObjects

inductive Refusal where
  | handleNotFound
  | classNotFound
  | memberNotFound
  | typeMismatch
  | invocationFailed (text : String)
  | unsupported
deriving DecidableEq, Repr, Inhabited

def Refusal.message : Refusal → String
  | .handleNotFound => "handle not found"
  | .classNotFound => "class not found"
  | .memberNotFound => "member not found"
  | .typeMismatch => "type mismatch"
  | .invocationFailed text => "invocation failed: " ++ text
  | .unsupported => "unsupported operation"

/-- A reply holds the value of an operation or the reason why there is none. -/
inductive Reply where
  | granted (result : Value)
  | refused (reason : Refusal)
deriving DecidableEq, Repr, Inhabited

def Reply.value? : Reply → Option Value
  | .granted result => some result
  | .refused _ => none

def Reply.toExcept : Reply → Except Refusal Value
  | .granted result => .ok result
  | .refused reason => .error reason

end RemoteObjects
