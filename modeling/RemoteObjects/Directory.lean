import RemoteObjects.Association
import RemoteObjects.Event

namespace RemoteObjects

abbrev Directory (ε : Type) := Association String ε

namespace Directory

inductive Failure where
  | alreadyBound (name : String)
  | notBound (name : String)
deriving DecidableEq, Repr

def Failure.message : Failure → String
  | .alreadyBound name => "Name already bound: " ++ name
  | .notBound name => "Name not bound: " ++ name

variable {ε : Type}

/-- A taken name is left alone. -/
def bind (directory : Directory ε) (name : String) (endpoint : ε) :
    Step (Directory ε) (Except Failure Unit) :=
  if directory.contains name then
    { state := directory, result := .error (.alreadyBound name) }
  else
    { state := directory.set name endpoint
      result := .ok ()
      events := [.debug "bound endpoint" [("name", name)]] }

def rebind (directory : Directory ε) (name : String) (endpoint : ε) : Step (Directory ε) Unit :=
  { state := directory.set name endpoint
    result := ()
    events := [.debug "rebound endpoint" [("name", name)]] }

def resolve (directory : Directory ε) (name : String) : Except Failure ε :=
  match directory.find? name with
  | some endpoint => .ok endpoint
  | none => .error (.notBound name)

/-- The endpoint that was bound is handed back. -/
def unbind (directory : Directory ε) (name : String) : Directory ε × Except Failure ε :=
  (directory.erase name, directory.resolve name)

/-- A host is exported under a name that must be free. -/
def exportHost (directory : Directory ε) (name : String) (endpoint : ε) :
    Step (Directory ε) (Except Failure Unit) :=
  let bound := directory.bind name endpoint
  match bound.result with
  | .error _ => bound
  | .ok () =>
      { bound with events := bound.events ++ [.info "exported dispatcher" [("endpoint", name)]] }

end Directory

end RemoteObjects
