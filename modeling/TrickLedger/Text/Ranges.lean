/-!
# Ranges of code points

Properties of characters that follow no rule are given as lists of ranges in
ascending order.
-/

namespace TrickLedger.Text

/-- The code point of a character lies in one of the ranges. -/
def liesIn (ranges : List (Nat × Nat)) (letter : Char) : Bool :=
  ranges.any fun (first, last) => first ≤ letter.toNat && letter.toNat ≤ last

end TrickLedger.Text
