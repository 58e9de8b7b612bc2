import RemoteObjects.Decimal.Shortest
import RemoteObjects.Text.Quoted
import RemoteObjects.Value.Basic

namespace RemoteObjects

mutual

/-- Characters and strings are quoted, and bytes are only counted. -/
def Value.text : Value → String
  | .null => "null"
  | .bool flag => if flag then "true" else "false"
  | .i32 number => number.toInt.repr
  | .i64 number => number.toInt.repr
  | .f64 bits => Decimal.text bits
  | .char character => Text.quotedCharacter character
  | .str text => Text.quotedString text
  | .bytes octets => "<" ++ octets.length.repr ++ " bytes>"
  | .list items => "[" ++ String.intercalate ", " (Value.texts items) ++ "]"

def Value.texts : List Value → List String
  | [] => []
  | item :: items => item.text :: Value.texts items

end

mutual

/-- Floating-point numbers are compared as numbers, so NaN differs from itself. -/
def Value.equal : Value → Value → Bool
  | .null, .null => true
  | .bool first, .bool second => first == second
  | .i32 first, .i32 second => first == second
  | .i64 first, .i64 second => first == second
  | .f64 first, .f64 second => Decimal.sameNumber first second
  | .char first, .char second => first == second
  | .str first, .str second => first == second
  | .bytes first, .bytes second => first == second
  | .list first, .list second => Value.equalLists first second
  | _, _ => false

def Value.equalLists : List Value → List Value → Bool
  | [], [] => true
  | first :: firsts, second :: seconds => first.equal second && Value.equalLists firsts seconds
  | _, _ => false

end

end RemoteObjects
