/-! Finite maps as lists of entries: an update keeps the place of an entry, a new one goes to the end. -/

namespace RemoteObjects

structure Association (κ ν : Type) where
  entries : List (κ × ν) := []
deriving DecidableEq, Repr, Inhabited

namespace Association

variable {κ ν : Type} [DecidableEq κ]

def lookup (key : κ) : List (κ × ν) → Option ν
  | [] => none
  | (other, value) :: rest => if other = key then some value else lookup key rest

def update (key : κ) (value : ν) : List (κ × ν) → List (κ × ν)
  | [] => [(key, value)]
  | (other, old) :: rest =>
      if other = key then (key, value) :: rest else (other, old) :: update key value rest

def find? (association : Association κ ν) (key : κ) : Option ν :=
  lookup key association.entries

def contains (association : Association κ ν) (key : κ) : Bool :=
  (association.find? key).isSome

def set (association : Association κ ν) (key : κ) (value : ν) : Association κ ν :=
  ⟨update key value association.entries⟩

def erase (association : Association κ ν) (key : κ) : Association κ ν :=
  ⟨association.entries.filter fun entry => entry.1 ≠ key⟩

def size (association : Association κ ν) : Nat :=
  association.entries.length

def isEmpty (association : Association κ ν) : Bool :=
  association.entries.isEmpty

/-- Later pairs win over earlier ones of the same key. -/
def ofList (pairs : List (κ × ν)) : Association κ ν :=
  pairs.foldl (fun association pair => association.set pair.1 pair.2) {}

theorem lookup_update (key other : κ) (value : ν) (entries : List (κ × ν)) :
    lookup other (update key value entries) =
      if key = other then some value else lookup other entries := by
  induction entries with
  | nil => simp [update, lookup]
  | cons entry rest ih => grind [update, lookup]

@[simp] theorem find?_set (association : Association κ ν) (key other : κ) (value : ν) :
    (association.set key value).find? other =
      if key = other then some value else association.find? other :=
  lookup_update key other value association.entries

theorem lookup_filter_ne (key other : κ) (entries : List (κ × ν)) :
    lookup other (entries.filter fun entry => entry.1 ≠ key) =
      if key = other then none else lookup other entries := by
  induction entries with
  | nil => simp [lookup]
  | cons entry rest ih => grind [lookup]

@[simp] theorem find?_erase (association : Association κ ν) (key other : κ) :
    (association.erase key).find? other =
      if key = other then none else association.find? other :=
  lookup_filter_ne key other association.entries

theorem filter_ne_update (key : κ) (value : ν) (entries : List (κ × ν)) :
    (update key value entries).filter (fun entry => entry.1 ≠ key) =
      entries.filter fun entry => entry.1 ≠ key := by
  induction entries with
  | nil => simp [update]
  | cons entry rest ih => grind [update]

/-- What was bound to an erased key does not matter. -/
theorem erase_set (association : Association κ ν) (key : κ) (value : ν) :
    (association.set key value).erase key = association.erase key :=
  congrArg mk (filter_ne_update key value association.entries)

@[simp] theorem find?_empty (key : κ) : ({} : Association κ ν).find? key = none := rfl

end Association

end RemoteObjects
