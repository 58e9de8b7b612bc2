import RemoteObjects.Catalog.Member

/-! A member is found by its exact name, signature and scope; there is no ranking of candidates. -/

namespace RemoteObjects

/-- One declaration of a class, in the order in which they are made. -/
inductive Member (σ : Type) where
  | constructor (types : Signature) (body : List Value → Except BodyFailure σ)
  | method (name : String) (types : Signature) (body : MethodBody σ)
  | field (name : String) (type : ValueType) (get : σ → Value)
      (set : σ → Value → σ × Except BodyFailure Unit)
  | staticField (name : String) (type : ValueType) (initial : Value)

structure Class (σ : Type) where
  owner : Owner
  constructors : List (Constructor σ) := []
  methods : List (Method σ) := []
  fields : Association String (Field σ) := {}
  statics : Association String Value := {}

/-- Constructors and methods accumulate; a field replaces the earlier one of its name. -/
def Class.declare {σ : Type} (current : Class σ) : Member σ → Class σ
  | .constructor types body =>
      { current with
        constructors := current.constructors ++ [{ owner := current.owner, types, body }] }
  | .method name types body =>
      { current with methods := current.methods ++ [{ owner := current.owner, name, types, body }] }
  | .field name type get set =>
      let field := { owner := current.owner, name, type, store := .object get set }
      { current with fields := current.fields.set name field }
  | .staticField name type initial =>
      let field := { owner := current.owner, name, type, store := .static }
      { current with
        fields := current.fields.set name field
        statics := current.statics.set name initial }

def Class.ofMembers {σ : Type} (owner : Owner) (members : List (Member σ)) : Class σ :=
  members.foldl Class.declare { owner }

structure Catalog (σ : Type) where
  classes : Association String (Class σ) := {}

namespace Catalog

variable {σ : Type}

/-- A class replaces an earlier one of the same name. -/
def register (catalog : Catalog σ) (added : Class σ) : Catalog σ :=
  ⟨catalog.classes.set added.owner.className added⟩

def ofClasses (classes : List (Class σ)) : Catalog σ :=
  classes.foldl register {}

def contains (catalog : Catalog σ) (className : String) : Bool :=
  catalog.classes.contains className

/-- Every static field starts with its declared value. -/
def initialStatics (catalog : Catalog σ) : Statics :=
  ⟨catalog.classes.entries.flatMap fun (className, found) =>
    found.statics.entries.map fun (name, value) => ((className, name), value)⟩

def findClass (catalog : Catalog σ) (className : String) : Except Failure (Class σ) :=
  match catalog.classes.find? className with
  | some found => .ok found
  | none => .error (.classNotFound className)

/-- The earliest constructor with this signature. -/
def findConstructor (catalog : Catalog σ) (className : String) (types : List ValueType) :
    Except Failure (Constructor σ) := do
  let found ← catalog.findClass className
  match found.constructors.find? fun constructor => constructor.types = types with
  | some constructor => pure constructor
  | none => throw (.constructorNotFound className types)

/-- The earliest method with this name, signature and scope. -/
def findMethod (catalog : Catalog σ) (className name : String) (types : List ValueType)
    (scope : Scope) : Except Failure (Method σ) := do
  let found ← catalog.findClass className
  match found.methods.find? fun method =>
      method.name = name && method.types = types && method.scope = scope with
  | some method => pure method
  | none => throw (.methodNotFound className name)

/-- The latest field of this name, provided that it has this scope. -/
def findField (catalog : Catalog σ) (className name : String) (scope : Scope) :
    Except Failure (Field σ) := do
  let found ← catalog.findClass className
  match (found.fields.find? name).filter fun field => field.scope = scope with
  | some field => pure field
  | none => throw (.fieldNotFound className name)

end Catalog

end RemoteObjects
