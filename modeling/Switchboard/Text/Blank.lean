/-!
# Blank characters

The characters with the property `White_Space`: what may stand as a gap in a text written by hand.
-/

namespace Switchboard.Text

def isBlank (c : Char) : Bool :=
  let n := c.toNat
  (9 ≤ n && n ≤ 13) || n == 0x20 || n == 0x85 || n == 0xA0 || n == 0x1680 ||
    (0x2000 ≤ n && n ≤ 0x200A) || n == 0x2028 || n == 0x2029 || n == 0x202F || n == 0x205F ||
    n == 0x3000

/-- The text from its first character that is no blank. -/
def trimLeft (text : List Char) : List Char := text.dropWhile isBlank

end Switchboard.Text
