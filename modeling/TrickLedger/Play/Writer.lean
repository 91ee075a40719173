import TrickLedger.Play.Basic
import TrickLedger.Text.Numeral

/-!
# Writing play codes

Every play has one canonical code: scores are written only where the contract
has one, and a fault is written by its keyword alone.
-/

namespace TrickLedger

namespace Commitment

/-- The marks of solo parity and base payment. -/
def parityLetters (commitment : Commitment) : List Char :=
  (if commitment.soloParity then ['$'] else []) ++ (if commitment.basePayment then [':'] else [])

/-- The keyword of the contract and its score. -/
def contractLetters (commitment : Commitment) : List Char :=
  match commitment.contract with
  | none => []
  | some contract =>
      contract.keyword ++ if contract.hasScore then Text.signedNumeral commitment.score else []

/-- The sign, the boost and the contract. -/
def letters (commitment : Commitment) : List Char :=
  (if commitment.won then '+' else '-') ::
    ((if 0 < commitment.boost then Text.numeral commitment.boost else []) ++
      commitment.contractLetters)

end Commitment

namespace Play

/-- The commitments of a play and the mark of the better suit. The parity marks
of an empty link are written too, after a hundred or two sevens. -/
def commitmentLetters (play : Play) : List Char :=
  play.base.parityLetters ++ play.base.letters ++ play.link.parityLetters ++
    (if play.link.isEmpty then [] else play.link.letters) ++
    (if play.betterSuit then ['*'] else [])

/-- The code of a play without its comment. -/
def bodyLetters (play : Play) : List Char :=
  match play.base.contract with
  | some contract => if contract.isFault then contract.keyword else play.commitmentLetters
  | none => play.commitmentLetters

/-- A comment in its braces. -/
def commentLetters : Option String → List Char
  | none => []
  | some comment => '{' :: comment.toList ++ ['}']

/-- The canonical code of a play. -/
def toCode (play : Play) : String :=
  String.ofList (play.bodyLetters ++ commentLetters play.comment)

end Play
end TrickLedger
