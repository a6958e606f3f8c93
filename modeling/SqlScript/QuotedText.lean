import SqlScript.GraphemeExtend
import SqlScript.Invisible

namespace SqlScript

/-- The halfwidth sound marks of Katakana, which have a place of their own although they join the
letter before them. -/
def halfwidthSoundMarks : CharTable where
  ranges := [⟨0xFF9E, 0xFF9F⟩]

/-- Whether a character is to be seen and has a place of its own, as all of ASCII that can be typed.
-/
def isDistinct (c : Char) : Bool :=
  (0x20 ≤ c.toNat && c.toNat < 0x7F) || halfwidthSoundMarks.contains c ||
    !(graphemeExtend.contains c || isInvisible c)

/-- A character as it stands in a quoted text, by its number if it is not distinct and has no short
form. -/
def quotedChar (c : Char) : List Char :=
  if c = '"' || c = '\\' then ['\\', c]
  else if c = '\t' then ['\\', 't']
  else if c = '\n' then ['\\', 'n']
  else if c = '\r' then ['\\', 'r']
  else if c.toNat = 0 then ['\\', '0']
  else if isDistinct c then [c]
  else ['\\', 'u', '\x7b'] ++ Nat.toDigits 16 c.toNat ++ ['\x7d']

/-- A text between double quotes, in which no quote, no backslash and no character that is not
distinct stands for itself. -/
def quotedText (text : String) : String :=
  String.ofList ('"' :: (text.toList.flatMap quotedChar ++ ['"']))

end SqlScript
