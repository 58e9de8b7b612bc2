import RemoteObjects.Value.Basic

namespace RemoteObjects

/-- A handle names an instance of one class on the other side. -/
structure Handle where
  number : Int32
deriving DecidableEq, Repr, Inhabited

/-- The static context has no instance. -/
def Handle.static : Handle := ⟨-1⟩

def Handle.isStatic (handle : Handle) : Bool :=
  handle = .static

/-- Only positive handles are ever issued. -/
def Handle.isInstance (handle : Handle) : Bool :=
  0 < handle.number.toInt

def Handle.text (handle : Handle) : String :=
  if handle.isStatic then "static" else "oid-" ++ handle.number.toInt.repr

inductive Mode where
  | read
  | write
deriving DecidableEq, Repr, Inhabited

inductive Scope where
  | object
  | static
deriving DecidableEq, Repr, Inhabited

inductive Kind where
  | construct
  | invoke
  | readField
  | writeField
  | finalize
deriving DecidableEq, Repr, Inhabited

def Kind.code : Kind → UInt32
  | .construct => 1
  | .invoke => 2
  | .readField => 3
  | .writeField => 4
  | .finalize => 5

def Kind.text : Kind → String
  | .construct => "construct"
  | .invoke => "invoke"
  | .readField => "read-field"
  | .writeField => "write-field"
  | .finalize => "finalize"

/-- Constructions, field writes and finalizations get no reply. -/
def Kind.isOneWay : Kind → Bool
  | .construct | .writeField | .finalize => true
  | .invoke | .readField => false

/-- A request is any combination of parts; its shape is checked separately. -/
inductive Request where
  | construct (handle : Handle) (className : String) (types : List ValueType)
      (arguments : List Value)
  | invoke (handle : Handle) (className method : String) (types : List ValueType)
      (arguments : List Value)
  | field (handle : Handle) (className name : String) (value : Option Value) (mode : Mode)
      (scope : Scope)
  | finalize (handle : Handle) (className : String)
deriving DecidableEq, Repr, Inhabited

namespace Request

def invokeStatic (className method : String) (types : List ValueType) (arguments : List Value) :
    Request :=
  .invoke .static className method types arguments

def readField (handle : Handle) (className name : String) : Request :=
  .field handle className name none .read .object

def writeField (handle : Handle) (className name : String) (value : Value) : Request :=
  .field handle className name (some value) .write .object

def readStaticField (className name : String) : Request :=
  .field .static className name none .read .static

def writeStaticField (className name : String) (value : Value) : Request :=
  .field .static className name (some value) .write .static

def kind : Request → Kind
  | .construct .. => .construct
  | .invoke .. => .invoke
  | .field _ _ _ _ .read _ => .readField
  | .field _ _ _ _ .write _ => .writeField
  | .finalize .. => .finalize

def handle : Request → Handle
  | .construct handle _ _ _ => handle
  | .invoke handle _ _ _ _ => handle
  | .field handle _ _ _ _ _ => handle
  | .finalize handle _ => handle

def className : Request → String
  | .construct _ className _ _ => className
  | .invoke _ className _ _ _ => className
  | .field _ className _ _ _ _ => className
  | .finalize _ className => className

/-- Only invocations and field accesses name a member. -/
def member? : Request → Option String
  | .invoke _ _ method _ _ => some method
  | .field _ _ name _ _ _ => some name
  | .construct .. | .finalize .. => none

def isOneWay (request : Request) : Bool :=
  request.kind.isOneWay

end Request

end RemoteObjects
