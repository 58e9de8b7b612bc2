import RemoteObjects.Wire.Failure

namespace RemoteObjects

inductive Fault where
  | malformed (failure : Wire.Failure)
  | mismatch (expected found : String)
  | violation (rule : String)
deriving DecidableEq, Repr

def Fault.message : Fault → String
  | .malformed failure => "Serialization error: " ++ failure.message
  | .mismatch expected found => "Type mismatch: expected " ++ expected ++ ", found " ++ found
  | .violation rule => "Protocol violation: " ++ rule

/-- The texts of what lies behind a fault, the nearest first. -/
def Fault.causes : Fault → List String
  | .malformed failure => [failure.message]
  | .mismatch _ _ | .violation _ => []

/-- A reader's failure is a fault of the exchange. -/
def Fault.ofReading {α : Type} : Except Wire.Failure α → Except Fault α
  | .ok value => .ok value
  | .error failure => .error (.malformed failure)

end RemoteObjects
