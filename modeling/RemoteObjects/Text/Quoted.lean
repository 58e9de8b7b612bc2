import RemoteObjects.Text.GraphemeExtend
import RemoteObjects.Text.Number
import RemoteObjects.Text.Unprintable

namespace RemoteObjects.Text

/-- The escape of a code point gives its number in hexadecimal. -/
def codePointEscape (character : Char) : String :=
  "\\u\x7b" ++ hexadecimal character.toNat ++ "\x7d"

/-- The halfwidth sound marks extend the character before them, but they are letters with a width
of their own and so can be seen. -/
def isHalfwidthSoundMark (character : Char) : Bool :=
  character = '\uff9e' || character = '\uff9f'

/-- A character is hidden if it has no visible form of its own. -/
def isHidden (character : Char) : Bool :=
  isUnprintable character || (isGraphemeExtend character && !isHalfwidthSoundMark character)

/-- Only the quote that encloses the text is escaped. -/
def escaped (quote character : Char) : String :=
  if character = '\x00' then "\\0"
  else if character = '\t' then "\\t"
  else if character = '\r' then "\\r"
  else if character = '\n' then "\\n"
  else if character = '\\' then "\\\\"
  else if character = quote then "\\" ++ quote.toString
  else if isHidden character then codePointEscape character
  else character.toString

def quotedCharacter (character : Char) : String :=
  "'" ++ escaped '\'' character ++ "'"

def quotedString (text : String) : String :=
  "\"" ++ String.join (text.toList.map (escaped '"')) ++ "\""

end RemoteObjects.Text
