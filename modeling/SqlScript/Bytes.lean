namespace SqlScript

/-- Scripts, lines, statements and delimiters are byte strings; no byte is decoded to be split. -/
abbrev Bytes := List UInt8

def Bytes.ofText (text : String) : Bytes := text.toUTF8.data.toList

/-- The byte that ends a line. -/
@[match_pattern] abbrev lineFeed : UInt8 := 10

/-- The byte that may stand before a line feed as part of the line end. -/
@[match_pattern] abbrev carriageReturn : UInt8 := 13

/-- The white space around the word of a delimiter directive: tab, line feed, vertical tab,
form feed, carriage return and space. -/
def isSpace (b : UInt8) : Bool := (9 ≤ b && b ≤ 13) || b == 32

/-- The white space that leaves a statement blank: that of a directive less the vertical tab. -/
def isBlankByte (b : UInt8) : Bool := isSpace b && b != 11

/-- An ASCII capital goes to its small letter, every other byte to itself. -/
def smallLetter (b : UInt8) : UInt8 := if 65 ≤ b && b ≤ 90 then b + 32 else b

theorem isSpace_iff {b : UInt8} :
    isSpace b = true ↔ b = 9 ∨ b = 10 ∨ b = 11 ∨ b = 12 ∨ b = 13 ∨ b = 32 := by
  have h : b.toNat < 256 := b.toNat_lt
  simp only [isSpace, Bool.or_eq_true, Bool.and_eq_true, decide_eq_true_eq, beq_iff_eq,
    UInt8.le_iff_toNat_le, ← UInt8.toNat_inj, UInt8.reduceToNat]
  omega

end SqlScript
