import TablePackage.Unicode.Lower

/-!
# Letters without their case

Two characters are the same letter if they fold to the same character. A character folds to
its lower case; where several lower-case characters share an upper case (the two sigmas, the
micro sign and mu, the long s and s, the dotless i and i), they fold to the first of them.
-/

namespace TablePackage.Unicode

/-- The lower-case characters of Unicode 14 that share an upper case with an earlier one, each
    with the first of these. -/
def twins : List (Nat × Nat) := [
  (0x131, 0x69), (0x17F, 0x73), (0x3B9, 0x345), (0x3BC, 0xB5), (0x3C3, 0x3C2), (0x3D0, 0x3B2),
  (0x3D1, 0x3B8), (0x3D5, 0x3C6), (0x3D6, 0x3C0), (0x3F0, 0x3BA), (0x3F1, 0x3C1), (0x3F5, 0x3B5),
  (0x1C80, 0x432), (0x1C81, 0x434), (0x1C82, 0x43E), (0x1C83, 0x441), (0x1C84, 0x442),
  (0x1C85, 0x442), (0x1C86, 0x44A), (0x1C87, 0x463), (0x1E9B, 0x1E61), (0x1FBE, 0x345),
  (0x1FD3, 0x390), (0x1FE3, 0x3B0), (0xA64B, 0x1C88), (0xFB06, 0xFB05)]

/-- The character that stands for a letter in either case. -/
def fold (c : Char) : Char :=
  if c.toNat < 128 then c.toLower
  else
    let d := lowerChar c
    ((twins.lookup d.toNat).map Char.ofNat).getD d

/-- Whether two characters are the same letter. -/
def sameLetter (a b : Char) : Bool := fold a == fold b

/-- ASCII characters fold to their lower case. -/
theorem fold_of_lt {c : Char} (h : c.toNat < 128) : fold c = c.toLower := by
  simp [fold, h]

@[simp] theorem sameLetter_self (c : Char) : sameLetter c c = true := by simp [sameLetter]

end TablePackage.Unicode
