/-!
# Blank text

A text is blank when every character of it has the Unicode property
`White_Space`.  The property has twenty-five members, listed here as ranges.
-/

namespace Publishing.Text

/-- The code points of the Unicode property `White_Space`, as inclusive ranges. -/
def whiteSpaceRanges : List (Nat × Nat) :=
  [(0x09, 0x0D), (0x20, 0x20), (0x85, 0x85), (0xA0, 0xA0), (0x1680, 0x1680),
   (0x2000, 0x200A), (0x2028, 0x2029), (0x202F, 0x202F), (0x205F, 0x205F), (0x3000, 0x3000)]

/-- Whether a character is white space. -/
def isWhiteSpace (c : Char) : Bool :=
  whiteSpaceRanges.any fun r => r.1 ≤ c.toNat && c.toNat ≤ r.2

/-- Whether a text holds nothing but white space; the empty text does. -/
def isBlank (text : String) : Bool :=
  text.toList.all isWhiteSpace

end Publishing.Text
