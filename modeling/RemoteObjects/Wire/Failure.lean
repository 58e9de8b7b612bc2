namespace RemoteObjects.Wire

inductive Failure where
  | unexpectedEnd
  | badVarint
  | badBool
  | badChar
  | badText
  | badOption
  | unknownVariant
deriving DecidableEq, Repr, Inhabited

def Failure.message : Failure → String
  | .unexpectedEnd => "Hit the end of buffer, expected more data"
  | .badVarint =>
      "Found a varint that didn't terminate. Is the usize too big for this platform?"
  | .badBool => "Found a bool that wasn't 0 or 1"
  | .badChar => "Found an invalid unicode char"
  | .badText => "Tried to parse invalid utf-8"
  | .badOption => "Found an Option discriminant that wasn't 0 or 1"
  | .unknownVariant => "Serde Deserialization Error"

end RemoteObjects.Wire
