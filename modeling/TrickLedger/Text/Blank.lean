/-!
# Blank characters

The characters with the Unicode property `White_Space`, and texts with the
blanks at their ends removed.
-/

namespace TrickLedger.Text

/-- The characters with the Unicode property `White_Space`. -/
def isBlank (letter : Char) : Bool :=
  let code := letter.toNat
  (0x09 ≤ code && code ≤ 0x0D) || code == 0x20 || code == 0x85 || code == 0xA0 ||
    code == 0x1680 || (0x2000 ≤ code && code ≤ 0x200A) || code == 0x2028 ||
    code == 0x2029 || code == 0x202F || code == 0x205F || code == 0x3000

/-- The text without the blanks at its start. -/
def trimStart (text : List Char) : List Char :=
  text.dropWhile isBlank

/-- The text without the blanks at its end. -/
def trimEnd (text : List Char) : List Char :=
  (text.reverse.dropWhile isBlank).reverse

/-- The text without the blanks at both ends. -/
def trim (text : List Char) : List Char :=
  trimEnd (trimStart text)

end TrickLedger.Text
