import RemoteObjects.Fault

namespace RemoteObjects.Transport

inductive Failure where
  | unavailable (text : String)
  | connectionLost (text : String)
  | timeout
  | faulty (fault : Fault)
deriving DecidableEq, Repr

def Failure.message : Failure → String
  | .unavailable text => "Remote unavailable: " ++ text
  | .connectionLost text => "Connection lost: " ++ text
  | .timeout => "Request timed out"
  | .faulty fault => "RPC error: " ++ fault.message

def Failure.causes : Failure → List String
  | .faulty fault => fault.message :: fault.causes
  | .unavailable _ | .connectionLost _ | .timeout => []

end RemoteObjects.Transport
