import RemoteObjects.Wire.Varint

namespace RemoteObjects.Wire

def int32 (number : Int32) : List UInt8 :=
  varint word32 (zigzag number.toInt)

def readInt32 : Reader Int32 := do
  let code ← readVarint word32
  pure (Int32.ofInt (unzigzag code))

def int64 (number : Int64) : List UInt8 :=
  varint word64 (zigzag number.toInt)

def readInt64 : Reader Int64 := do
  let code ← readVarint word64
  pure (Int64.ofInt (unzigzag code))

def uint32 (number : UInt32) : List UInt8 :=
  varint word32 number.toNat

def readUInt32 : Reader UInt32 := do
  let number ← readVarint word32
  pure (UInt32.ofNat number)

def flag (value : Bool) : List UInt8 :=
  [if value then 1 else 0]

def readFlag : Reader Bool := do
  let code ← Reader.byte
  if code = 0 then pure false
  else if code = 1 then pure true
  else Reader.fail .badBool

/-- The least significant byte comes first. -/
def littleEndian : Nat → Nat → List UInt8
  | 0, _ => []
  | count + 1, number => UInt8.ofNat number :: littleEndian count (number / 256)

def ofLittleEndian : List UInt8 → Nat
  | [] => 0
  | byte :: rest => byte.toNat + 256 * ofLittleEndian rest

def word (bits : UInt64) : List UInt8 :=
  littleEndian 8 bits.toNat

def readWord : Reader UInt64 := do
  let bytes ← Reader.take 8
  pure (UInt64.ofNat (ofLittleEndian bytes))

def length (count : Nat) : List UInt8 :=
  varint word64 count

def readLength : Reader Nat :=
  readVarint word64

def variant (index : Nat) : List UInt8 :=
  varint word32 index

def readVariant : Reader Nat :=
  readVarint word32

def textBytes (text : String) : List UInt8 :=
  text.toUTF8.data.toList

def ofTextBytes? (bytes : List UInt8) : Option String :=
  String.fromUTF8? ⟨bytes.toArray⟩

def text (text : String) : List UInt8 :=
  length (textBytes text).length ++ textBytes text

/-- Missing bytes are noticed before bad ones. -/
def readText : Reader String := do
  let count ← readLength
  let bytes ← Reader.take count
  match ofTextBytes? bytes with
  | some text => pure text
  | none => Reader.fail .badText

/-- A character is written as the text that holds only it. -/
def character (character : Char) : List UInt8 :=
  text character.toString

/-- At most four bytes are looked at, and of several characters the first is taken. -/
def readCharacter : Reader Char := do
  let count ← readLength
  if 4 < count then Reader.fail .badChar
  else
    let bytes ← Reader.take count
    match (ofTextBytes? bytes).bind fun text => text.toList.head? with
    | some character => pure character
    | none => Reader.fail .badChar

def option {α : Type} (encode : α → List UInt8) : Option α → List UInt8
  | none => [0]
  | some value => 1 :: encode value

def readOption {α : Type} (item : Reader α) : Reader (Option α) := do
  let code ← Reader.byte
  if code = 0 then pure none
  else if code = 1 then some <$> item
  else Reader.fail .badOption

def sequence {α : Type} (encode : α → List UInt8) (items : List α) : List UInt8 :=
  length items.length ++ items.flatMap encode

def readSequence {α : Type} (item : Reader α) : Reader (List α) := do
  let count ← readLength
  Reader.many item count

end RemoteObjects.Wire
