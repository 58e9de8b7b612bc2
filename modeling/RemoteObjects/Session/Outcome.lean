import RemoteObjects.Proxy.Failure
import RemoteObjects.Service
import RemoteObjects.Session.Plan
import RemoteObjects.Directory
import RemoteObjects.Settings

namespace RemoteObjects.Session

/-- Any failure that a command can report. -/
inductive Trouble where
  | fault (failure : Fault)
  | catalog (failure : Catalog.Failure)
  | table (failure : InstanceTable.Failure)
  | host (failure : Host.Failure)
  | directory (failure : Directory.Failure)
  | bus (failure : Bus.Failure)
  | transport (failure : Transport.Failure)
  | service (failure : Service.Failure)
  | registry (failure : Registry.Failure)
  | proxy (failure : Proxy.Failure)
  | settings (failure : Settings.Failure)
deriving DecidableEq, Repr

namespace Trouble

def message : Trouble → String
  | .fault failure => failure.message
  | .catalog failure => failure.message
  | .table failure => failure.message
  | .host failure => failure.message
  | .directory failure => failure.message
  | .bus failure => failure.message
  | .transport failure => failure.message
  | .service failure => failure.message
  | .registry failure => failure.message
  | .proxy failure => failure.message
  | .settings failure => failure.message

def causes : Trouble → List String
  | .fault failure => failure.causes
  | .host failure => failure.causes
  | .transport failure => failure.causes
  | .service failure => failure.causes
  | .proxy failure => failure.causes
  | .catalog _ | .table _ | .directory _ | .bus _ | .registry _ | .settings _ => []

/-- Only failures of members and hosts say what the other side would be told. -/
def reason? : Trouble → Option Refusal
  | .catalog failure => some failure.reason
  | .host failure => some failure.reason
  | _ => none

def isSoft? : Trouble → Option Bool
  | .proxy failure => some failure.isSoft
  | _ => none

end Trouble

/-- The result of a command. -/
inductive Outcome where
  | done
  | pending
  | failed (trouble : Trouble)
  | unknown (name : String)
  | registered (registration : Registry.Registration)
  | handle (handle : Handle)
  | size (count : Nat)
  | found (object : Instance Slots)
  | contains (answer : Bool) (key : Option InstanceKey)
  | defined (names : List String)
  | constructed (types : Signature) (result : Except Catalog.Failure (Instance Slots))
  | invoked (name : String) (scope : Scope) (result : Except Catalog.Failure Value)
      (target : Option (Instance Slots))
  | accessed (type : ValueType) (result : Except Catalog.Failure (Option Value))
      (target : Option (Instance Slots))
  | replied (reply : Option Reply)
  | bound (answer : Bool)
  | subscribers (count : Nat)
  | frame (frame : Frame)
  | empty
  | dropped (answer : Bool)
  | attempts (attempts : List Script.Attempt)
  | sent (requests : List (Request × Bool))
  | resolution (resolved : Bool) (endpoint : String)
  | listening (answer : Bool)
  | asked (requests : List Request)
  | settings (settings : Settings)
  | value (value : Value)
  | absent
  | cancelled (answer : Bool)

def Outcome.ofExcept {ε α : Type} (trouble : ε → Trouble) (outcome : α → Outcome) :
    Except ε α → Outcome
  | .ok result => outcome result
  | .error failure => .failed (trouble failure)

end RemoteObjects.Session
