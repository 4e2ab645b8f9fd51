import KindLex.Unicode.Ranges

/-!
# The property White_Space

The twenty-five characters that trimming removes from the ends of a line.
-/

namespace KindLex.Unicode

/-- The code points with the property White_Space. -/
def whiteSpace : Ranges where
  pairs :=
    [(0x9, 0xD), (0x20, 0x20), (0x85, 0x85), (0xA0, 0xA0), (0x1680, 0x1680), (0x2000, 0x200A),
     (0x2028, 0x2029), (0x202F, 0x202F), (0x205F, 0x205F), (0x3000, 0x3000)]
  ascends := by decide +kernel

/-- Whether a character has the property White_Space. -/
def isWhiteSpace (c : Char) : Bool :=
  whiteSpace.holds c.toNat

end KindLex.Unicode
