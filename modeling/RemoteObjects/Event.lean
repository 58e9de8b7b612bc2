namespace RemoteObjects

inductive Level where
  | trace
  | debug
  | info
  | warn
  | error
deriving DecidableEq, Repr, Inhabited

def Level.name : Level → String
  | .trace => "TRACE"
  | .debug => "DEBUG"
  | .info => "INFO"
  | .warn => "WARN"
  | .error => "ERROR"

/-- The fields of an entry are already texts. -/
structure Event where
  level : Level
  message : String
  fields : List (String × String) := []
deriving DecidableEq, Repr, Inhabited

namespace Event

def trace (message : String) (fields : List (String × String)) : Event :=
  ⟨.trace, message, fields⟩

def debug (message : String) (fields : List (String × String)) : Event :=
  ⟨.debug, message, fields⟩

def info (message : String) (fields : List (String × String)) : Event :=
  ⟨.info, message, fields⟩

def warn (message : String) (fields : List (String × String)) : Event :=
  ⟨.warn, message, fields⟩

def error (message : String) (fields : List (String × String)) : Event :=
  ⟨.error, message, fields⟩

end Event

/-- A step gives the next state, a result and the entries it logged, in order. -/
structure Step (σ α : Type) where
  state : σ
  result : α
  events : List Event := []

end RemoteObjects
