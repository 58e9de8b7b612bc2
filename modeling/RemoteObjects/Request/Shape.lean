import RemoteObjects.Fault
import RemoteObjects.Request.Basic

namespace RemoteObjects

/-- Each constructor is one way to break the shape. -/
inductive Request.Violation where
  | invalidHandle (action : String) (handle : Handle)
  | staticAccess (handle : Handle)
  | instanceAccess
  | arity (types arguments : Nat)
  | readWithValue
  | writeWithoutValue
deriving DecidableEq, Repr

def Request.Violation.message : Violation → String
  | .invalidHandle action handle => action ++ " on invalid handle " ++ handle.number.toInt.repr
  | .staticAccess handle => "static field access names handle " ++ handle.number.toInt.repr
  | .instanceAccess => "instance field access names the static handle"
  | .arity types arguments =>
      "signature has " ++ types.repr ++ " types but " ++ arguments.repr ++ " arguments were sent"
  | .readWithValue => "field read carries a value"
  | .writeWithoutValue => "field write carries no value"

def Request.Violation.fault (violation : Violation) : Fault :=
  .violation violation.message

namespace Request

def requireInstance (action : String) (handle : Handle) : Except Violation Unit :=
  if handle.isInstance then .ok () else .error (.invalidHandle action handle)

def requireArity (types : List ValueType) (arguments : List Value) : Except Violation Unit :=
  if types.length = arguments.length then .ok ()
  else .error (.arity types.length arguments.length)

/-- The handle must fit the scope. -/
def requireTarget (scope : Scope) (handle : Handle) : Except Violation Unit :=
  match scope, handle.isStatic with
  | .static, false => .error (.staticAccess handle)
  | .static, true => .ok ()
  | .object, true => .error .instanceAccess
  | .object, false => requireInstance "field access" handle

/-- Writes carry a value and reads carry none. -/
def requireValue : Mode → Option Value → Except Violation Unit
  | .read, some _ => .error .readWithValue
  | .write, none => .error .writeWithoutValue
  | .read, none | .write, some _ => .ok ()

/-- The handle is checked before the arguments or the value. -/
def checkShape : Request → Except Violation Unit
  | .construct handle _ types arguments => do
      requireInstance "construct" handle
      requireArity types arguments
  | .invoke handle _ _ types arguments => do
      if handle.isStatic || handle.isInstance then pure ()
      else throw (.invalidHandle "invoke" handle)
      requireArity types arguments
  | .field handle _ _ value mode scope => do
      requireTarget scope handle
      requireValue mode value
  | .finalize handle _ => requireInstance "finalize" handle

end Request

end RemoteObjects
