/-! The shortest decimal text of a binary floating-point number, always in positional notation. -/

namespace RemoteObjects.Decimal

/-- A 64-bit pattern holds a sign, a biased exponent and a fraction. -/
structure Pattern where
  negative : Bool
  biased : Nat
  fraction : Nat
deriving DecidableEq, Repr

def Pattern.ofBits (bits : UInt64) : Pattern where
  negative := Nat.pow 2 63 ≤ bits.toNat
  biased := bits.toNat / Nat.pow 2 52 % Nat.pow 2 11
  fraction := bits.toNat % Nat.pow 2 52

def Pattern.isNaN (pattern : Pattern) : Bool :=
  pattern.biased = 2047 && pattern.fraction != 0

def Pattern.isInfinite (pattern : Pattern) : Bool :=
  pattern.biased = 2047 && pattern.fraction == 0

def Pattern.isZero (pattern : Pattern) : Bool :=
  pattern.biased = 0 && pattern.fraction == 0

/-- The hidden bit is present unless the exponent is the least one. -/
def Pattern.mantissa (pattern : Pattern) : Nat :=
  if pattern.biased = 0 then pattern.fraction else Nat.pow 2 52 + pattern.fraction

/-- The interval is measured in quarters of the unit in the last place. -/
def Pattern.quarterExponent (pattern : Pattern) : Int :=
  (max pattern.biased 1 : Nat) - 1077

/-- The gap below a power of two is half of the gap above it. -/
def Pattern.lowerQuarters (pattern : Pattern) : Nat :=
  if pattern.fraction = 0 && 1 < pattern.biased then 1 else 2

/-- The fields are numerators over one common denominator. -/
structure Interval where
  low : Nat
  value : Nat
  high : Nat
  denominator : Nat
  closed : Bool
deriving DecidableEq, Repr

/-- The ends belong to the interval when the mantissa is even. -/
def Pattern.interval (pattern : Pattern) : Interval :=
  let scale := Nat.pow 2 pattern.quarterExponent.toNat
  let quarters := 4 * pattern.mantissa
  { low := (quarters - pattern.lowerQuarters) * scale
    value := quarters * scale
    high := (quarters + 2) * scale
    denominator := Nat.pow 2 (-pattern.quarterExponent).toNat
    closed := pattern.mantissa % 2 = 0 }

/-- Multiplication by a power of ten moves the decimal point. -/
def Interval.shift (interval : Interval) (places : Int) : Interval :=
  let scale := Nat.pow 10 places.toNat
  { low := interval.low * scale
    value := interval.value * scale
    high := interval.high * scale
    denominator := interval.denominator * Nat.pow 10 (-places).toNat
    closed := interval.closed }

def Interval.contains (interval : Interval) (point : Nat) : Bool :=
  let scaled := point * interval.denominator
  if interval.closed then interval.low ≤ scaled && scaled ≤ interval.high
  else interval.low < scaled && scaled < interval.high

/-- Of the two neighbours on the integer grid the nearer one wins, and a tie goes up. -/
def Interval.nearest (interval : Interval) : Option Nat :=
  let below := interval.value / interval.denominator
  let remainder := interval.value % interval.denominator
  let preferUp := interval.denominator ≤ 2 * remainder
  match interval.contains below, interval.contains (below + 1) with
  | true, true => some (if preferUp then below + 1 else below)
  | true, false => some below
  | false, true => some (below + 1)
  | false, false => none

def digitCount (number : Nat) : Nat :=
  if number = 0 then 0 else (Nat.toDigits 10 number).length

/-- The leading decimal digit of a positive value stands at this power of ten. -/
def Interval.leadingExponent (interval : Interval) : Int :=
  if interval.denominator ≤ interval.value then
    digitCount (interval.value / interval.denominator) - 1
  else
    -(digitCount ((interval.denominator - 1) / interval.value) : Int)

/-- A decimal is `digits * 10 ^ exponent`. -/
structure Scaled where
  digits : Nat
  exponent : Int
deriving DecidableEq, Repr

/-- Seventeen digits always suffice. -/
def Interval.shortest (interval : Interval) : Scaled :=
  let leading := interval.leadingExponent
  let attempt (count : Nat) : Option Scaled :=
    let exponent := leading - (count : Int)
    (interval.shift (-exponent)).nearest.map fun digits => { digits, exponent }
  ((List.range 17).findSome? attempt).getD { digits := 0, exponent := 0 }

/-- Positional notation writes every zero that the exponent stands for. -/
def Scaled.positional (scaled : Scaled) : String :=
  let digits := Nat.toDigits 10 scaled.digits
  let places := (-scaled.exponent).toNat
  if places = 0 then
    String.ofList (digits ++ List.replicate scaled.exponent.toNat '0')
  else
    let padded := List.replicate (places + 1 - digits.length) '0' ++ digits
    let whole := padded.take (padded.length - places)
    let fraction := padded.drop (padded.length - places)
    let kept := (fraction.reverse.dropWhile (· = '0')).reverse
    String.ofList (if kept.isEmpty then whole else whole ++ '.' :: kept)

/-- The sign of zero is kept, and a number without fraction has no point. -/
def text (bits : UInt64) : String :=
  let pattern := Pattern.ofBits bits
  let sign := if pattern.negative then "-" else ""
  if pattern.isNaN then "NaN"
  else if pattern.isInfinite then sign ++ "inf"
  else if pattern.isZero then sign ++ "0"
  else sign ++ pattern.interval.shortest.positional

/-- Two numbers are equal when neither is NaN and they have one value; both zeros are equal. -/
def sameNumber (first second : UInt64) : Bool :=
  let left := Pattern.ofBits first
  let right := Pattern.ofBits second
  !left.isNaN && !right.isNaN && (first == second || (left.isZero && right.isZero))

end RemoteObjects.Decimal
