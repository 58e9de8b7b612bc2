import RemoteObjects.Association
import RemoteObjects.Event
import RemoteObjects.Request.Basic

/-! Handles are numbered from one in the order of issue and are never issued twice. -/

namespace RemoteObjects

/-- Objects are told apart by identity, never by content. -/
abbrev ObjectId := String

structure RegistryKey where
  className : String
  object : ObjectId
deriving DecidableEq, Repr, Inhabited

/-- The count of issued handles never decreases. -/
structure Registry where
  entries : Association RegistryKey Handle := {}
  issued : Nat := 0
deriving DecidableEq, Repr, Inhabited

namespace Registry

inductive Failure where
  | handleNotFound (className : String)
  | exhausted
deriving DecidableEq, Repr

def Failure.message : Failure → String
  | .handleNotFound className => "No handle registered for this " ++ className ++ " object"
  | .exhausted => "Handle space exhausted"

inductive Registration where
  | fresh (handle : Handle)
  | existing (handle : Handle)
deriving DecidableEq, Repr

def Registration.handle : Registration → Handle
  | .fresh handle | .existing handle => handle

def Registration.isFresh : Registration → Bool
  | .fresh _ => true
  | .existing _ => false

/-- The greatest handle stays unused. -/
def capacity : Nat := 0x7FFFFFFE

def handleNumbered (count : Nat) : Handle :=
  ⟨Int32.ofNat count⟩

def nameFields (className : String) (handle : Handle) : List (String × String) :=
  [("class", className), ("handle", handle.text)]

/-- An object that already has a handle keeps it. -/
def register (registry : Registry) (key : RegistryKey) :
    Step Registry (Except Failure Registration) :=
  match registry.entries.find? key with
  | some handle =>
      { state := registry
        result := .ok (.existing handle)
        events := [.warn "object already registered" (nameFields key.className handle)] }
  | none =>
      if registry.issued < capacity then
        let handle := handleNumbered (registry.issued + 1)
        { state := { entries := registry.entries.set key handle, issued := registry.issued + 1 }
          result := .ok (.fresh handle)
          events := [.debug "registered object" (nameFields key.className handle)] }
      else
        { state := registry, result := .error .exhausted }

def lookup (registry : Registry) (key : RegistryKey) : Except Failure Handle :=
  match registry.entries.find? key with
  | some handle => .ok handle
  | none => .error (.handleNotFound key.className)

def unregister (registry : Registry) (key : RegistryKey) : Step Registry (Except Failure Handle) :=
  match registry.entries.find? key with
  | some handle =>
      { state := { registry with entries := registry.entries.erase key }
        result := .ok handle
        events := [.debug "unregistered object" (nameFields key.className handle)] }
  | none => { state := registry, result := .error (.handleNotFound key.className) }

def size (registry : Registry) : Nat :=
  registry.entries.size

end Registry

end RemoteObjects
