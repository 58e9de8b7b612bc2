import RemoteObjects.Fault
import RemoteObjects.Value.Basic

namespace RemoteObjects

/-- A signature lists the declared types of the parameters. -/
abbrev Signature := List ValueType

/-- An argument list is refused for its length or for its first bad argument. -/
inductive Signature.Rejection where
  | count (expected found : Nat)
  | argument (index : Nat) (expected : ValueType) (found : Value)
deriving DecidableEq, Repr

def Signature.Rejection.fault : Rejection → Fault
  | .count expected found =>
      .mismatch (expected.repr ++ " arguments") (found.repr ++ " arguments")
  | .argument index expected found =>
      .mismatch (expected.name ++ " at argument " ++ index.repr) found.typeName

/-- The index counts the arguments that were already accepted. -/
def Signature.firstRejected : Nat → Signature → List Value → Option Rejection
  | index, type :: types, value :: values =>
      if type.accepts value then firstRejected (index + 1) types values
      else some (.argument index type value)
  | _, _, _ => none

/-- The lengths are compared before any argument is looked at. -/
def Signature.check (signature : Signature) (arguments : List Value) : Except Rejection Unit :=
  if signature.length ≠ arguments.length then
    .error (.count signature.length arguments.length)
  else match firstRejected 0 signature arguments with
    | some rejection => .error rejection
    | none => .ok ()

end RemoteObjects
