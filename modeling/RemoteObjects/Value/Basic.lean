namespace RemoteObjects

/-- A floating-point number is kept as its 64 bits. -/
inductive Value where
  | null
  | bool (flag : Bool)
  | i32 (number : Int32)
  | i64 (number : Int64)
  | f64 (bits : UInt64)
  | char (character : Char)
  | str (text : String)
  | bytes (octets : List UInt8)
  | list (items : List Value)
deriving Repr, Inhabited

mutual

/-- Two values agree when they have one shape and one content, bit for bit. -/
def Value.decEq : (first second : Value) → Decidable (first = second)
  | .null, second => match second with
    | .null => isTrue rfl
    | .bool _ | .i32 _ | .i64 _ | .f64 _ | .char _ | .str _ | .bytes _ | .list _ =>
        isFalse (by simp)
  | .bool flag, second => match second with
    | .bool other => if same : flag = other then isTrue (by rw [same]) else isFalse (by simp [same])
    | .null | .i32 _ | .i64 _ | .f64 _ | .char _ | .str _ | .bytes _ | .list _ =>
        isFalse (by simp)
  | .i32 number, second => match second with
    | .i32 other =>
        if same : number = other then isTrue (by rw [same]) else isFalse (by simp [same])
    | .null | .bool _ | .i64 _ | .f64 _ | .char _ | .str _ | .bytes _ | .list _ =>
        isFalse (by simp)
  | .i64 number, second => match second with
    | .i64 other =>
        if same : number = other then isTrue (by rw [same]) else isFalse (by simp [same])
    | .null | .bool _ | .i32 _ | .f64 _ | .char _ | .str _ | .bytes _ | .list _ =>
        isFalse (by simp)
  | .f64 bits, second => match second with
    | .f64 other => if same : bits = other then isTrue (by rw [same]) else isFalse (by simp [same])
    | .null | .bool _ | .i32 _ | .i64 _ | .char _ | .str _ | .bytes _ | .list _ =>
        isFalse (by simp)
  | .char character, second => match second with
    | .char other =>
        if same : character = other then isTrue (by rw [same]) else isFalse (by simp [same])
    | .null | .bool _ | .i32 _ | .i64 _ | .f64 _ | .str _ | .bytes _ | .list _ =>
        isFalse (by simp)
  | .str text, second => match second with
    | .str other => if same : text = other then isTrue (by rw [same]) else isFalse (by simp [same])
    | .null | .bool _ | .i32 _ | .i64 _ | .f64 _ | .char _ | .bytes _ | .list _ =>
        isFalse (by simp)
  | .bytes octets, second => match second with
    | .bytes other =>
        if same : octets = other then isTrue (by rw [same]) else isFalse (by simp [same])
    | .null | .bool _ | .i32 _ | .i64 _ | .f64 _ | .char _ | .str _ | .list _ =>
        isFalse (by simp)
  | .list items, second => match second with
    | .list others => match Value.decEqList items others with
        | isTrue same => isTrue (by rw [same])
        | isFalse different => isFalse (by simp [different])
    | .null | .bool _ | .i32 _ | .i64 _ | .f64 _ | .char _ | .str _ | .bytes _ =>
        isFalse (by simp)

def Value.decEqList : (first second : List Value) → Decidable (first = second)
  | [], [] => isTrue rfl
  | [], _ :: _ => isFalse (by simp)
  | _ :: _, [] => isFalse (by simp)
  | item :: items, other :: others =>
      match Value.decEq item other, Value.decEqList items others with
      | isTrue head, isTrue tail => isTrue (by rw [head, tail])
      | isFalse head, _ => isFalse (by simp [head])
      | _, isFalse tail => isFalse (by simp [tail])

end

instance : DecidableEq Value := Value.decEq

/-- Each shape of value has a name. -/
def Value.typeName : Value → String
  | .null => "null"
  | .bool _ => "bool"
  | .i32 _ => "i32"
  | .i64 _ => "i64"
  | .f64 _ => "f64"
  | .char _ => "char"
  | .str _ => "str"
  | .bytes _ => "bytes"
  | .list _ => "list"

def Value.isNull : Value → Bool
  | .null => true
  | _ => false

/-- A declared type of a parameter or a field. -/
inductive ValueType where
  | bool
  | i32
  | i64
  | f64
  | char
  | str
  | bytes
  | list
  | any
deriving DecidableEq, Repr, Inhabited

def ValueType.name : ValueType → String
  | .bool => "bool"
  | .i32 => "i32"
  | .i64 => "i64"
  | .f64 => "f64"
  | .char => "char"
  | .str => "str"
  | .bytes => "bytes"
  | .list => "list"
  | .any => "any"

/-- Strings, byte sequences and lists may be absent; scalars need their own shape. -/
def ValueType.accepts : ValueType → Value → Bool
  | .any, _ => true
  | .str, .null | .bytes, .null | .list, .null => true
  | .bool, .bool _ | .i32, .i32 _ | .i64, .i64 _ | .f64, .f64 _ | .char, .char _ => true
  | .str, .str _ | .bytes, .bytes _ | .list, .list _ => true
  | _, _ => false

end RemoteObjects
