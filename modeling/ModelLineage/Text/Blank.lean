import ModelLineage.Text.CodeRanges

/-!
# Blank characters

The characters with the white-space property: the blank, the control characters
that move the position or end the line, and the blanks of other widths.
-/

namespace ModelLineage

/-- The code points of the blank characters. -/
def blankRanges : CodeRanges :=
  [(0x9, 0xd), (0x20, 0x20), (0x85, 0x85), (0xa0, 0xa0), (0x1680, 0x1680), (0x2000, 0x200a),
    (0x2028, 0x2029), (0x202f, 0x202f), (0x205f, 0x205f), (0x3000, 0x3000)]

/-- Whether a character is blank. -/
def isBlank (char : Char) : Bool :=
  blankRanges.contains char

end ModelLineage
