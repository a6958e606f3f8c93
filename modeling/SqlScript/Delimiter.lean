import SqlScript.Bytes

namespace SqlScript

/-- The word that starts a delimiter directive, in small letters. -/
def directiveWord : Bytes := [100, 101, 108, 105, 109, 105, 116, 101, 114]

/-- The bytes after a word at the start of others, whatever the case of its letters. -/
def afterWord? : Bytes → Bytes → Option Bytes
  | [], rest => some rest
  | _ :: _, [] => none
  | w :: word, b :: rest => if smallLetter b = w then afterWord? word rest else none

/-- The bytes after at least one space, if any are left after the last. -/
def afterSpaces? : Bytes → Option Bytes
  | [] => none
  | b :: rest =>
    if isSpace b then
      match rest.dropWhile isSpace with
      | [] => none
      | delimiter => some delimiter
    else none

/-- The delimiter that a line sets: all that stands after the word of a directive and white space.
-/
def newDelimiter? (line : Bytes) : Option Bytes :=
  (afterWord? directiveWord (line.dropWhile isSpace)).bind afterSpaces?

end SqlScript
