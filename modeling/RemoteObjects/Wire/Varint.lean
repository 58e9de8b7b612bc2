import RemoteObjects.Wire.Reader

/-! Numbers of variable length: seven bits in each byte, the least significant first. -/

namespace RemoteObjects.Wire

/-- A word has a greatest number of bytes and a bound on the last of them. -/
structure Width where
  extraBytes : Nat
  lastBound : Nat
deriving DecidableEq, Repr

/-- Thirty-two bits take at most five bytes, with four bits in the fifth. -/
def word32 : Width := ⟨4, 0x0F⟩

/-- Sixty-four bits take at most ten bytes, with one bit in the tenth. -/
def word64 : Width := ⟨9, 0x01⟩

/-- Every byte but the last carries the continuation bit. -/
def varintBytes : Nat → Nat → List UInt8
  | 0, number => [UInt8.ofNat number]
  | extra + 1, number =>
      if number < 128 then [UInt8.ofNat number]
      else UInt8.ofNat (number % 128 + 128) :: varintBytes extra (number / 128)

def varint (width : Width) (number : Nat) : List UInt8 :=
  varintBytes width.extraBytes number

/-- A byte in the last place must end the number and stay within its bound. -/
def readVarintBytes (lastBound : Nat) : Nat → Reader Nat
  | _, [] => .error .unexpectedEnd
  | 0, last :: rest =>
      if last.toNat ≤ lastBound then .ok (last.toNat, rest) else .error .badVarint
  | extra + 1, first :: rest =>
      if first.toNat < 128 then .ok (first.toNat, rest)
      else match readVarintBytes lastBound extra rest with
        | .ok (number, left) => .ok (first.toNat - 128 + 128 * number, left)
        | .error failure => .error failure

def readVarint (width : Width) : Reader Nat :=
  readVarintBytes width.lastBound width.extraBytes

/-- Small magnitudes of either sign get small codes. -/
def zigzag (number : Int) : Nat :=
  if 0 ≤ number then 2 * number.toNat else 2 * (-number).toNat - 1

def unzigzag (code : Nat) : Int :=
  if code % 2 = 0 then (code / 2 : Nat) else -((code / 2 : Nat) + 1)

end RemoteObjects.Wire
