import RemoteObjects.Value.Basic
import RemoteObjects.Wire.Primitive

namespace RemoteObjects

/-- Types are numbered in the order of their declaration. -/
def ValueType.index : ValueType → Nat
  | .bool => 0
  | .i32 => 1
  | .i64 => 2
  | .f64 => 3
  | .char => 4
  | .str => 5
  | .bytes => 6
  | .list => 7
  | .any => 8

def ValueType.ofIndex? : Nat → Option ValueType
  | 0 => some .bool
  | 1 => some .i32
  | 2 => some .i64
  | 3 => some .f64
  | 4 => some .char
  | 5 => some .str
  | 6 => some .bytes
  | 7 => some .list
  | 8 => some .any
  | _ => none

def ValueType.encode (type : ValueType) : List UInt8 :=
  Wire.variant type.index

def ValueType.read : Wire.Reader ValueType := do
  match ValueType.ofIndex? (← Wire.readVariant) with
  | some type => pure type
  | none => Wire.Reader.fail .unknownVariant

mutual

/-- A value is written as the number of its shape and then its content. -/
def Value.encode : Value → List UInt8
  | .null => Wire.variant 0
  | .bool value => Wire.variant 1 ++ Wire.flag value
  | .i32 number => Wire.variant 2 ++ Wire.int32 number
  | .i64 number => Wire.variant 3 ++ Wire.int64 number
  | .f64 bits => Wire.variant 4 ++ Wire.word bits
  | .char value => Wire.variant 5 ++ Wire.character value
  | .str value => Wire.variant 6 ++ Wire.text value
  | .bytes octets => Wire.variant 7 ++ (Wire.length octets.length ++ octets)
  | .list items => Wire.variant 8 ++ (Wire.length items.length ++ Value.encodeItems items)

def Value.encodeItems : List Value → List UInt8
  | [] => []
  | item :: items => item.encode ++ Value.encodeItems items

end

/-- The fuel bounds the nesting; every level of nesting takes at least one byte. -/
def Value.readWithin : Nat → Wire.Reader Value
  | 0 => Wire.Reader.fail .unexpectedEnd
  | fuel + 1 => do
      match ← Wire.readVariant with
      | 0 => pure .null
      | 1 => .bool <$> Wire.readFlag
      | 2 => .i32 <$> Wire.readInt32
      | 3 => .i64 <$> Wire.readInt64
      | 4 => .f64 <$> Wire.readWord
      | 5 => .char <$> Wire.readCharacter
      | 6 => .str <$> Wire.readText
      | 7 => .bytes <$> Wire.readSequence Wire.Reader.byte
      | 8 => .list <$> Wire.readSequence (Value.readWithin fuel)
      | _ => Wire.Reader.fail .unknownVariant

def Value.read : Wire.Reader Value :=
  fun bytes => Value.readWithin (bytes.length + 1) bytes

end RemoteObjects
