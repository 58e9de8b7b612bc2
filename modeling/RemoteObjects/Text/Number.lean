namespace RemoteObjects.Text

/-- Hexadecimal digits are lower case and have no leading zero. -/
def hexadecimal (number : Nat) : String :=
  String.ofList (Nat.toDigits 16 number)

/-- Zeros fill the text up to the given width. -/
def paddedHexadecimal (width number : Nat) : String :=
  let digits := Nat.toDigits 16 number
  String.ofList (List.replicate (width - digits.length) '0' ++ digits)

/-- The digits are read from the most significant one. -/
def ofDigits (digits : List Char) : Nat :=
  digits.foldl (fun number digit => 10 * number + (digit.toNat - '0'.toNat)) 0

/-- A sign is optional and must be a plus. -/
def unsigned : List Char → List Char
  | '+' :: rest => rest
  | digits => digits

/-- A limit is a nonempty run of ASCII digits below the bound, after an optional plus. -/
def readNumber (bound : Nat) (text : String) : Option Nat :=
  let digits := unsigned text.toList
  if digits ≠ [] ∧ digits.all Char.isDigit ∧ ofDigits digits < bound then
    some (ofDigits digits)
  else
    none

end RemoteObjects.Text
