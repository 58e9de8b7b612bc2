import RemoteObjects.Catalog.Basic
import RemoteObjects.Host.Table
import RemoteObjects.Value.Conversion
import RemoteObjects.Wire.Value

namespace RemoteObjects.Session

/-- The state of a planned object. -/
abbrev Slots := Association String Value

/-- A reservation binds a second instance in a named table. -/
structure Reservation where
  table : String
  key : InstanceKey
deriving DecidableEq, Repr

inductive ConstructorPlan where
  | slots (names : List String)
  | typed (names : List String) (types : List ValueType)
  | reserving (reservation : Reservation)
  | fail (causes : List String)
deriving Repr

inductive MethodPlan where
  | get (slot : String)
  | set (slot : String) (type : Option ValueType)
  | add (slot : String)
  | append (slot : String)
  | poke (slot : String) (value : Value) (causes : List String)
  | echo
  | const (value : Value)
  | argument (index : Nat) (type : Option ValueType)
  | sum
  | decode
  | fail (causes : List String)
deriving Repr

inductive MemberPlan where
  | constructor (types : Signature) (body : ConstructorPlan)
  | method (name : String) (types : Signature) (body : MethodPlan)
  | staticMethod (name : String) (types : Signature) (body : MethodPlan)
  | field (name : String) (type : ValueType) (slot : String) (set : Option MethodPlan)
  | staticField (name : String) (type : ValueType) (initial : Value)
deriving Repr

structure ClassPlan where
  owner : Owner
  members : List MemberPlan
deriving Repr

/-- A fault inside a body is the outermost cause of its failure. -/
def ofFault {α : Type} : Except Fault α → Except BodyFailure α
  | .ok value => .ok value
  | .error fault => .error ⟨fault.message :: fault.causes⟩

def argumentAt (arguments : List Value) (index : Nat) : Except BodyFailure Value :=
  match arguments[index]? with
  | some value => .ok value
  | none => .error ⟨["no argument " ++ index.repr]⟩

def convertTo (type : Option ValueType) (value : Value) : Except BodyFailure Value :=
  match type with
  | none => .ok value
  | some type => ofFault (value.convert type)

def fillSlots : List String → List Value → Slots → Slots
  | name :: names, value :: values, slots => fillSlots names values (slots.set name value)
  | _, _, slots => slots

def fillTyped : List String → List ValueType → List Value → Slots → Except BodyFailure Slots
  | name :: names, type :: types, value :: values, slots => do
      let converted ← ofFault (value.convert type)
      fillTyped names types values (slots.set name converted)
  | _, _, _, slots => .ok slots

/-- A reservation fails when its key is taken. -/
def ConstructorPlan.run (isTaken : Reservation → Bool) (plan : ConstructorPlan)
    (arguments : List Value) : Except BodyFailure Slots :=
  match plan with
  | .slots names => .ok (fillSlots names arguments {})
  | .typed names types => fillTyped names types arguments {}
  | .reserving reservation =>
      if isTaken reservation then
        .error ⟨[(InstanceTable.Failure.occupied reservation.key).message]⟩
      else
        .ok {}
  | .fail causes => .error ⟨causes⟩

/-- The range of 32-bit and 64-bit numbers bounds every sum. -/
def checkedAdd32 (first second : Int32) : Except BodyFailure Int32 :=
  let sum := first.toInt + second.toInt
  if Int32.minValue.toInt ≤ sum ∧ sum ≤ Int32.maxValue.toInt then .ok (Int32.ofInt sum)
  else .error ⟨["overflow"]⟩

def checkedAdd64 (first second : Int64) : Except BodyFailure Int64 :=
  let sum := first.toInt + second.toInt
  if Int64.minValue.toInt ≤ sum ∧ sum ≤ Int64.maxValue.toInt then .ok (Int64.ofInt sum)
  else .error ⟨["overflow"]⟩

def sumValues : Int64 → List Value → Except BodyFailure Int64
  | total, [] => .ok total
  | total, value :: values => do
      let number ← ofFault value.toInt64
      let next ← checkedAdd64 total number
      sumValues next values

/-- The new slots and the value to return; a failing body keeps its old slots. -/
def MethodPlan.compute (plan : MethodPlan) (slots : Slots) (arguments : List Value) :
    Except BodyFailure (Slots × Value) :=
  match plan with
  | .get slot => .ok (slots, (slots.find? slot).getD .null)
  | .set slot type => do
      let value ← argumentAt arguments 0
      let converted ← convertTo type value
      pure (slots.set slot converted, .null)
  | .add slot => do
      let current ← ofFault ((slots.find? slot).getD (.i32 0)).toInt32
      let value ← argumentAt arguments 0
      let added ← ofFault value.toInt32
      let sum ← checkedAdd32 current added
      pure (slots.set slot (.i32 sum), .i32 sum)
  | .append slot => do
      let current ← ofFault ((slots.find? slot).getD (.list [])).toItems
      let items := current ++ arguments
      pure (slots.set slot (.list items), .i32 (Int32.ofNat items.length))
  | .poke _ _ causes => .error ⟨causes⟩
  | .echo => .ok (slots, .list arguments)
  | .const value => .ok (slots, value)
  | .argument index type => do
      let value ← argumentAt arguments index
      let converted ← convertTo type value
      pure (slots, converted)
  | .sum => do
      let total ← sumValues 0 arguments
      pure (slots, .i64 total)
  | .decode => do
      let value ← argumentAt arguments 0
      let bytes ← ofFault value.toBytes
      let decoded ← ofFault (Fault.ofReading (Value.read.decode bytes))
      pure (slots, decoded)
  | .fail causes => .error ⟨causes⟩

/-- What a body leaves behind when it fails. -/
def MethodPlan.leftover (plan : MethodPlan) (slots : Slots) : Slots :=
  match plan with
  | .poke slot value _ => slots.set slot value
  | _ => slots

def MethodPlan.run (plan : MethodPlan) (slots : Slots) (arguments : List Value) :
    Slots × Except BodyFailure Value :=
  match plan.compute slots arguments with
  | .ok (slots, value) => (slots, .ok value)
  | .error failure => (plan.leftover slots, .error failure)

/-- A static body runs on slots of its own. -/
def MethodPlan.runStatic (plan : MethodPlan) (arguments : List Value) :
    Except BodyFailure Value :=
  (plan.run {} arguments).2

def runSetter (slot : String) (plan : Option MethodPlan) (slots : Slots) (value : Value) :
    Slots × Except BodyFailure Unit :=
  let (slots, result) := (plan.getD (.set slot none)).run slots [value]
  (slots, result.map fun _ => ())

def MemberPlan.build (isTaken : Reservation → Bool) : MemberPlan → Member Slots
  | .constructor types body => .constructor types (body.run isTaken)
  | .method name types body => .method name types (.object body.run)
  | .staticMethod name types body => .method name types (.static body.runStatic)
  | .field name type slot set =>
      .field name type (fun slots => (slots.find? slot).getD .null) (runSetter slot set)
  | .staticField name type initial => .staticField name type initial

def ClassPlan.build (isTaken : Reservation → Bool) (plan : ClassPlan) : Class Slots :=
  Class.ofMembers plan.owner (plan.members.map (MemberPlan.build isTaken))

def buildCatalog (isTaken : Reservation → Bool) (plans : List ClassPlan) : Catalog Slots :=
  Catalog.ofClasses (plans.map (ClassPlan.build isTaken))

/-- The reservation of the constructor that the catalog finds for this signature. -/
def findReservation (plans : List ClassPlan) (className : String) (types : List ValueType) :
    Option (Owner × Reservation) := do
  let plan ← plans.reverse.find? fun plan => plan.owner.className = className
  let body ← plan.members.findSome? fun
    | .constructor declared body => if declared = types then some body else none
    | _ => none
  match body with
  | .reserving reservation => some (plan.owner, reservation)
  | _ => none

end RemoteObjects.Session
