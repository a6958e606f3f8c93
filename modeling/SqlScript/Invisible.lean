import SqlScript.Unassigned

namespace SqlScript

/-- The control characters (general category Cc), those of ASCII and those of Latin-1. -/
def controls : CharTable where
  ranges := [⟨0x0, 0x1F⟩, ⟨0x7F, 0x9F⟩]

/-- The format characters (general category Cf). -/
def formatCharacters : CharTable where
  ranges :=
    [⟨0xAD, 0xAD⟩, ⟨0x600, 0x605⟩, ⟨0x61C, 0x61C⟩, ⟨0x6DD, 0x6DD⟩, ⟨0x70F, 0x70F⟩, ⟨0x890, 0x891⟩,
     ⟨0x8E2, 0x8E2⟩, ⟨0x180E, 0x180E⟩, ⟨0x200B, 0x200F⟩, ⟨0x202A, 0x202E⟩, ⟨0x2060, 0x2064⟩,
     ⟨0x2066, 0x206F⟩, ⟨0xFEFF, 0xFEFF⟩, ⟨0xFFF9, 0xFFFB⟩, ⟨0x110BD, 0x110BD⟩, ⟨0x110CD, 0x110CD⟩,
     ⟨0x13430, 0x1343F⟩, ⟨0x1BCA0, 0x1BCA3⟩, ⟨0x1D173, 0x1D17A⟩, ⟨0xE0001, 0xE0001⟩,
     ⟨0xE0020, 0xE007F⟩]

/-- The characters left to private agreement (general category Co). -/
def privateUse : CharTable where
  ranges := [⟨0xE000, 0xF8FF⟩, ⟨0xF0000, 0xFFFFD⟩, ⟨0x100000, 0x10FFFD⟩]

/-- The separators of words, lines and paragraphs (general categories Zs, Zl and Zp). -/
def separators : CharTable where
  ranges :=
    [⟨0x20, 0x20⟩, ⟨0xA0, 0xA0⟩, ⟨0x1680, 0x1680⟩, ⟨0x2000, 0x200A⟩, ⟨0x2028, 0x2029⟩,
     ⟨0x202F, 0x202F⟩, ⟨0x205F, 0x205F⟩, ⟨0x3000, 0x3000⟩]

/-- The letters that hold an empty place in a Hangul syllable. -/
def hangulFillers : CharTable where
  ranges := [⟨0x115F, 0x1160⟩, ⟨0x3164, 0x3164⟩, ⟨0xFFA0, 0xFFA0⟩]

example : controls.size = 65 ∧ formatCharacters.size = 170 ∧ privateUse.size = 137468 ∧
    separators.size = 19 ∧ hangulFillers.size = 4 := by decide

/-- Whether nothing is to be seen in the place of a character, or nothing that all agree on. -/
def isInvisible (c : Char) : Bool :=
  controls.contains c || separators.contains c || formatCharacters.contains c ||
    hangulFillers.contains c || privateUse.contains c || unassigned.contains c

end SqlScript
