import RemoteObjects.Wire.Failure

namespace RemoteObjects.Wire

/-- A reader gives a result with the bytes it left, or the first failure it met. -/
abbrev Reader := StateT (List UInt8) (Except Failure)

namespace Reader

def fail {α : Type} (failure : Failure) : Reader α :=
  fun _ => .error failure

def byte : Reader UInt8
  | [] => .error .unexpectedEnd
  | first :: rest => .ok (first, rest)

/-- Nothing is read unless the whole count is there. -/
def take (count : Nat) : Reader (List UInt8) :=
  fun bytes =>
    if count ≤ bytes.length then .ok (bytes.take count, bytes.drop count)
    else .error .unexpectedEnd

/-- The items are read one at a time, so the first bad item decides the failure. -/
def many {α : Type} (item : Reader α) : Nat → Reader (List α)
  | 0 => pure []
  | count + 1 => do
      let first ← item
      let rest ← many item count
      pure (first :: rest)

/-- Bytes after the result are ignored. -/
def decode {α : Type} (reader : Reader α) (bytes : List UInt8) : Except Failure α :=
  (reader bytes).map Prod.fst

end Reader

end RemoteObjects.Wire
