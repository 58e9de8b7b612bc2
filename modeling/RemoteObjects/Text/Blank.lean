import RemoteObjects.Text.Intervals

namespace RemoteObjects.Text

/-- The code points with the property White_Space. -/
def blanks : Intervals := [
  (0x9, 0xD), (0x20, 0x20), (0x85, 0x85), (0xA0, 0xA0), (0x1680, 0x1680), (0x2000, 0x200A),
  (0x2028, 0x2029), (0x202F, 0x202F), (0x205F, 0x205F), (0x3000, 0x3000)]

def isBlank (character : Char) : Bool :=
  blanks.contains character.toNat

/-- Trimming removes the blanks at both ends and keeps those between. -/
def trim (text : String) : String :=
  let inner := text.toList.dropWhile isBlank
  String.ofList (inner.reverse.dropWhile isBlank).reverse

/-- A text is blank when nothing is left after trimming. -/
def isAllBlank (text : String) : Bool :=
  text.toList.all isBlank

/-- Only the letters A to Z have a lower case here. -/
def asciiLower (text : String) : String :=
  String.ofList (text.toList.map Char.toLower)

end RemoteObjects.Text
