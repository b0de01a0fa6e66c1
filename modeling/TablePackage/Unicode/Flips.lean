/-!
# Classes of characters as lists of code points

A class is given by the ascending code points at which membership changes: the first one is
in the class, the next one no longer, and so on.
-/

namespace TablePackage.Unicode

/-- Whether the number of entries of `flips` that are at most `n` is odd. -/
def oddBelow (flips : List Nat) (n : Nat) : Bool :=
  match flips with
  | [] => false
  | f :: rest => if n < f then false else !oddBelow rest n

end TablePackage.Unicode
