import TrickLedger.Text.Emoji
import TrickLedger.Text.LetterColumns

/-!
# Fused letters

In several scripts neighbouring letters fuse into one form that takes a single
column. A text is read from its end, so a fusion opens at its last letter and
tells what each letter before it adds. Ignored marks may stand within a fusion,
and so may joiners, but for Arabic, where instead any transparent mark may.
-/

namespace TrickLedger.Text

/-- The code points of the Arabic joining group `Alef`. -/
def alefRanges : List (Nat × Nat) :=
  [(0x622, 0x623), (0x625, 0x625), (0x627, 0x627), (0x671, 0x673), (0x675, 0x675), (0x773, 0x774),
   (0x870, 0x882)]

/-- The code points of the Arabic joining group `Lam`. -/
def lamRanges : List (Nat × Nat) :=
  [(0x644, 0x644), (0x6B5, 0x6B8), (0x76A, 0x76A), (0x8A6, 0x8A6), (0x8C7, 0x8C7)]

/-- The code points without a column that do not have the joining type
`Transparent`. -/
def opaqueRanges : List (Nat × Nat) :=
  [(0x605, 0x605), (0x890, 0x891), (0x8E2, 0x8E2), (0x9BE, 0x9BE), (0x9D7, 0x9D7), (0xB3E, 0xB3E),
   (0xB57, 0xB57), (0xBBE, 0xBBE), (0xBD7, 0xBD7), (0xCC0, 0xCC0), (0xCC2, 0xCC2), (0xCC7, 0xCC8),
   (0xCCA, 0xCCB), (0xCD5, 0xCD6), (0xD3E, 0xD3E), (0xD4E, 0xD4E), (0xD57, 0xD57), (0xDCF, 0xDCF),
   (0xDDF, 0xDDF), (0x1160, 0x11FF), (0x1715, 0x1715), (0x1734, 0x1734), (0x180E, 0x180E),
   (0x1B35, 0x1B35), (0x1B3B, 0x1B3B), (0x1B3D, 0x1B3D), (0x1B43, 0x1B44), (0x1BAA, 0x1BAA),
   (0x1BF2, 0x1BF3), (0x200C, 0x200D), (0x2065, 0x2069), (0x302E, 0x302F), (0x3164, 0x3164),
   (0xA8FA, 0xA8FA), (0xA953, 0xA953), (0xA9C0, 0xA9C0), (0xD7B0, 0xD7C6), (0xD7CB, 0xD7FB),
   (0xFFA0, 0xFFA0), (0xFFF0, 0xFFF8), (0x111C0, 0x111C0), (0x111C2, 0x111C3), (0x11235, 0x11235),
   (0x1133E, 0x1133E), (0x1134D, 0x1134D), (0x11357, 0x11357), (0x113B8, 0x113B8),
   (0x113C2, 0x113C2), (0x113C5, 0x113C5), (0x113C7, 0x113C9), (0x113CF, 0x113CF),
   (0x113D1, 0x113D1), (0x114B0, 0x114B0), (0x114BD, 0x114BD), (0x115AF, 0x115AF),
   (0x116B6, 0x116B6), (0x11930, 0x11930), (0x1193D, 0x1193D), (0x1193F, 0x1193F),
   (0x11941, 0x11941), (0x11A84, 0x11A89), (0x11D46, 0x11D46), (0x11F02, 0x11F02),
   (0x11F41, 0x11F41), (0x16FF0, 0x16FF1), (0x1D165, 0x1D166), (0x1D16D, 0x1D172),
   (0xE0000, 0xE0000), (0xE0002, 0xE001F), (0xE0080, 0xE00FF), (0xE01F0, 0xE0FFF)]

/-- The Khmer letters that have a form below the letter before them. -/
def khmerRanges : List (Nat × Nat) :=
  [(0x1780, 0x1782), (0x1784, 0x1787), (0x1789, 0x178C), (0x178E, 0x1793), (0x1795, 0x1798),
   (0x179B, 0x179D), (0x17A0, 0x17A0), (0x17A2, 0x17A2), (0x17A7, 0x17A7), (0x17AB, 0x17AC),
   (0x17AF, 0x17AF)]

/-- The Tifinagh consonants. -/
def tifinaghRanges : List (Nat × Nat) :=
  [(0x2D31, 0x2D65), (0x2D6F, 0x2D6F)]

/-- The ignored combining marks, which leave every fusion as it is. -/
def ignoredMarkRanges : List (Nat × Nat) :=
  [(0x34F, 0x34F), (0x17B4, 0x17B5), (0x180B, 0x180D), (0x180F, 0x180F), (0xFE00, 0xFE0F),
   (0xE0100, 0xE01EF)]

/-- The character is a mark that does not part the Arabic letters beside it. -/
def isTransparent (letter : Char) : Bool :=
  columnsOf letter == 0 && !liesIn opaqueRanges letter

/-- A fusion that is open to the letter before it. The flag tells whether a
joiner stands at its start. -/
inductive Fusion
  /-- An Arabic alef, which fuses with a lam. -/
  | alef
  /-- A Hebrew lamed, which a joiner fuses with an alef. -/
  | lamed (joined : Bool)
  /-- A Khmer letter, which stands below after the sign for it. -/
  | khmerLetter
  /-- A Buginese ya, which a joiner fuses with a vowel sign and its letter. -/
  | ya (joined : Bool)
  /-- A Buginese vowel sign and a ya. -/
  | vowelYa
  /-- A Tifinagh consonant, which a joiner of either kind fuses with another. -/
  | tifinagh (joined : Bool)
  /-- A Tifinagh consonant with the joiner of its script before it. -/
  | joinedTifinagh
  /-- A Lisu tone letter, which fuses with another before it. -/
  | tone
  /-- An Old Turkic letter, which a joiner fuses with another. -/
  | oldTurkic (joined : Bool)
  deriving DecidableEq, Repr

namespace Fusion

/-- The fusion that a letter opens. -/
def ofLetter? (letter : Char) : Option Fusion :=
  if liesIn alefRanges letter then some alef
  else if letter = '\u05DC' then some (lamed false)
  else if liesIn khmerRanges letter then some khmerLetter
  else if letter = '\u1A10' then some (ya false)
  else if liesIn tifinaghRanges letter then some (tifinagh false)
  else if letter = '\uA4FC' ∨ letter = '\uA4FD' then some tone
  else if letter = Char.ofNat 0x10C03 then some (oldTurkic false)
  else none

/-- The fusion with a joiner before it. -/
def join : Fusion → Fusion
  | lamed _ => lamed true
  | ya _ => ya true
  | tifinagh _ => tifinagh true
  | oldTurkic _ => oldTurkic true
  | fusion => fusion

/-- What a letter before the fusion adds to the columns if it takes part, and the
fusion that is then open. -/
def extend (fusion : Fusion) (letter : Char) : Option (Int × Option Fusion) :=
  match fusion with
  | alef => if liesIn lamRanges letter then some (0, none) else none
  | lamed true => if letter = '\u05D0' then some (0, none) else none
  | khmerLetter => if letter = '\u17D2' then some (-1, none) else none
  | ya true => if letter = '\u1A17' then some (0, some vowelYa) else none
  | vowelYa => if letter = '\u1A15' then some (0, none) else none
  | tifinagh joined =>
      if letter = '\u2D7F' then some (1, some joinedTifinagh)
      else if joined ∧ liesIn tifinaghRanges letter then some (0, none)
      else none
  | joinedTifinagh => if liesIn tifinaghRanges letter then some (-1, none) else none
  | tone => if liesIn [(0xA4F8, 0xA4FB)] letter then some (0, none) else none
  | oldTurkic true => if letter = Char.ofNat 0x10C32 then some (0, none) else none
  | lamed false | ya false | oldTurkic false => none

/-- The character may stand within the fusion and leaves it open. -/
def passes (fusion : Fusion) (letter : Char) : Bool :=
  match fusion with
  | alef => isTransparent letter
  | _ => liesIn ignoredMarkRanges letter

/-- What a character before the fusion adds to the columns, and the fusion that is
then open; nothing if the fusion ends before the character. -/
def before (fusion : Fusion) (letter : Char) : Option (Int × Option Fusion) :=
  if fusion ≠ alef ∧ letter = joiner then some (0, some fusion.join)
  else if fusion.passes letter then some (0, some fusion)
  else fusion.extend letter

end Fusion
end TrickLedger.Text
