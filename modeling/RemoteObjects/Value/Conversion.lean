import RemoteObjects.Fault
import RemoteObjects.Value.Basic

namespace RemoteObjects

def Value.mismatch (value : Value) (expected : ValueType) : Fault :=
  .mismatch expected.name value.typeName

def Value.toBool : Value → Except Fault Bool
  | .bool flag => .ok flag
  | other => .error (other.mismatch .bool)

def Value.toInt32 : Value → Except Fault Int32
  | .i32 number => .ok number
  | other => .error (other.mismatch .i32)

def Value.toInt64 : Value → Except Fault Int64
  | .i64 number => .ok number
  | other => .error (other.mismatch .i64)

def Value.toBits : Value → Except Fault UInt64
  | .f64 bits => .ok bits
  | other => .error (other.mismatch .f64)

def Value.toChar : Value → Except Fault Char
  | .char character => .ok character
  | other => .error (other.mismatch .char)

def Value.toText : Value → Except Fault String
  | .str text => .ok text
  | other => .error (other.mismatch .str)

def Value.toBytes : Value → Except Fault (List UInt8)
  | .bytes octets => .ok octets
  | other => .error (other.mismatch .bytes)

def Value.toItems : Value → Except Fault (List Value)
  | .list items => .ok items
  | other => .error (other.mismatch .list)

/-- The converted content is put back into a value; every value is already any value. -/
def Value.convert (value : Value) : ValueType → Except Fault Value
  | .bool => .bool <$> value.toBool
  | .i32 => .i32 <$> value.toInt32
  | .i64 => .i64 <$> value.toInt64
  | .f64 => .f64 <$> value.toBits
  | .char => .char <$> value.toChar
  | .str => .str <$> value.toText
  | .bytes => .bytes <$> value.toBytes
  | .list => .list <$> value.toItems
  | .any => .ok value

/-- An absent value is null. -/
def Value.ofOption {α : Type} (wrap : α → Value) : Option α → Value
  | none => .null
  | some content => wrap content

end RemoteObjects
