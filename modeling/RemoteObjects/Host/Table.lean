import RemoteObjects.Catalog.Member

namespace RemoteObjects

structure InstanceKey where
  className : String
  handle : Handle
deriving DecidableEq, Repr, Inhabited

def InstanceKey.text (key : InstanceKey) : String :=
  key.className ++ "#" ++ key.handle.text

abbrev InstanceTable (σ : Type) := Association InstanceKey (Instance σ)

inductive InstanceTable.Failure where
  | missing (key : InstanceKey)
  | occupied (key : InstanceKey)
deriving DecidableEq, Repr

def InstanceTable.Failure.message : InstanceTable.Failure → String
  | .missing key => "No instance for " ++ key.text
  | .occupied key => "Instance already exists for " ++ key.text

namespace InstanceTable

variable {σ : Type}

def bind (table : InstanceTable σ) (key : InstanceKey) (added : Instance σ) :
    Except Failure (InstanceTable σ) :=
  if table.contains key then .error (.occupied key) else .ok (table.set key added)

def get (table : InstanceTable σ) (key : InstanceKey) : Except Failure (Instance σ) :=
  match table.find? key with
  | some found => .ok found
  | none => .error (.missing key)

/-- The removed instance is handed back. -/
def release (table : InstanceTable σ) (key : InstanceKey) :
    Except Failure (Instance σ × InstanceTable σ) :=
  match table.find? key with
  | some found => .ok (found, table.erase key)
  | none => .error (.missing key)

end InstanceTable

end RemoteObjects
