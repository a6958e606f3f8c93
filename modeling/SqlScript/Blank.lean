import SqlScript.CharRange

namespace SqlScript

/-- The characters with the property White_Space. -/
def whiteSpace : CharTable where
  ranges :=
    [⟨0x9, 0xD⟩, ⟨0x20, 0x20⟩, ⟨0x85, 0x85⟩, ⟨0xA0, 0xA0⟩, ⟨0x1680, 0x1680⟩, ⟨0x2000, 0x200A⟩,
     ⟨0x2028, 0x2029⟩, ⟨0x202F, 0x202F⟩, ⟨0x205F, 0x205F⟩, ⟨0x3000, 0x3000⟩]

example : whiteSpace.size = 25 := by decide

def isWhiteSpace (c : Char) : Bool := whiteSpace.contains c

/-- Characters without the white space before and after them. -/
def trimmed (chars : List Char) : List Char :=
  ((chars.dropWhile isWhiteSpace).reverse.dropWhile isWhiteSpace).reverse

end SqlScript
