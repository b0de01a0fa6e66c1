/-!
# Blanks

The characters that separate words: those of bidirectional type B, S or WS, and the spaces.
-/

namespace TablePackage.Unicode

/-- A space, a line or paragraph separator, or one of the control characters that separate
    text. -/
def isBlank (c : Char) : Bool :=
  let n := c.toNat
  (9 ≤ n && n ≤ 13) || (28 ≤ n && n ≤ 32) || n = 0x85 || n = 0xA0 || n = 0x1680 ||
    (0x2000 ≤ n && n ≤ 0x200A) || n = 0x2028 || n = 0x2029 || n = 0x202F || n = 0x205F ||
    n = 0x3000

end TablePackage.Unicode
