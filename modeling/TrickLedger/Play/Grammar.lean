import TrickLedger.Play.Basic
import TrickLedger.Text.Numeral

/-!
# The grammar of play codes

The rules by which a body without comment stands for a play, as relations
between the text and what it means. Each rule covers the whole of its text.
-/

namespace TrickLedger.Play.Grammar

/-- Solo parity is a dollar, and base payment a colon after it. -/
inductive Parity : List Char → Commitment → Prop
  | plain : Parity [] {}
  | solo : Parity ['$'] { soloParity := true }
  | payment : Parity ['$', ':'] { soloParity := true, basePayment := true }

/-- The sign of a won or lost commitment. -/
inductive Sign : Char → Bool → Prop
  | plus : Sign '+' true
  | minus : Sign '-' false

/-- A boost is one digit; no boost is not written. -/
inductive Boost : List Char → Nat → Prop
  | none : Boost [] 0
  | digit (boost : Nat) (lower : 1 ≤ boost) (upper : boost ≤ greatestBoost) :
      Boost [boost.digitChar] boost

/-- A number is written by digits, with any number of leading zeros. -/
structure Digits (text : List Char) (number : Nat) : Prop where
  nonempty : text ≠ []
  digits : ∀ letter ∈ text, letter.isDigit = true
  value : Text.numeralValue text = number

/-- A score is a multiple of ten in its range, with a minus sign or none. -/
inductive Score : List Char → Int → Prop
  | positive (text : List Char) (number : Nat) (written : Digits text number)
      (upper : (number : Int) ≤ greatestScore) (tens : number % 10 = 0) :
      Score text number
  | negative (text : List Char) (number : Nat) (written : Digits text number)
      (lower : leastScore ≤ -(number : Int)) (tens : number % 10 = 0) :
      Score ('-' :: text) (-(number : Int))

/-- Parity marks, a sign and a boost open a commitment. -/
inductive Opening : List Char → Commitment → Prop
  | mk (parity : List Char) (sign : Char) (boost : List Char) (marks : Commitment) (won : Bool)
      (count : Nat) (parityRule : Parity parity marks) (signRule : Sign sign won)
      (boostRule : Boost boost count) :
      Opening (parity ++ sign :: boost) { marks with won, boost := count }

/-- The links that may stand after a base contract. An empty link has no text. -/
inductive Link : Contract → List Char → Commitment → Prop
  | gameAfterSeven (opening : List Char) (marks : Commitment) (rule : Opening opening marks) :
      Link .seven (opening ++ Contract.game.keyword) { marks with contract := some .game }
  | hundredAfterSeven (opening numeral : List Char) (marks : Commitment) (score : Int)
      (rule : Opening opening marks) (scoreRule : Score numeral score) :
      Link .seven (opening ++ Contract.silentHundred.keyword ++ numeral)
        { marks with contract := some .silentHundred, score }
  | nothingAfterHundred : Link .hundred [] {}
  | silentSevenAfterHundred (parity : List Char) (sign : Char) (marks : Commitment) (won : Bool)
      (parityRule : Parity parity marks) (signRule : Sign sign won) :
      Link .hundred (parity ++ sign :: Contract.silentSeven.keyword)
        { marks with won, contract := some .silentSeven }
  | sevenAfterHundred (opening : List Char) (marks : Commitment) (rule : Opening opening marks) :
      Link .hundred (opening ++ Contract.seven.keyword) { marks with contract := some .seven }
  | nothingAfterTwoSevens : Link .twoSevens [] {}
  | hundredAfterTwoSevens (opening numeral : List Char) (marks : Commitment) (score : Int)
      (rule : Opening opening marks) (scoreRule : Score numeral score) :
      Link .twoSevens (opening ++ Contract.hundred.keyword ++ numeral)
        { marks with contract := some .hundred, score }

/-- The mark of the better suit. -/
inductive BetterSuit : List Char → Bool → Prop
  | marked : BetterSuit ['*'] true
  | unmarked : BetterSuit [] false

/-- The bodies of play codes and the plays that they stand for. -/
inductive Body : List Char → Play → Prop
  | fault (contract : Contract) (isFault : contract.isFault = true) :
      Body contract.keyword { base := .ofFault contract }
  | single (opening : List Char) (marks : Commitment) (contract : Contract)
      (rule : Opening opening marks)
      (member : contract ∈ [.betl, .durch, .majklBetl, .majklSuperBetl]) :
      Body (opening ++ contract.keyword) { base := { marks with contract := some contract } }
  | seven (opening link suit : List Char) (marks linked : Commitment) (betterSuit : Bool)
      (rule : Opening opening marks) (linkRule : Link .seven link linked)
      (suitRule : BetterSuit suit betterSuit) :
      Body (opening ++ Contract.seven.keyword ++ link ++ suit)
        { base := { marks with contract := some .seven }, link := linked, betterSuit }
  | hundred (opening numeral link suit : List Char) (marks linked : Commitment) (score : Int)
      (betterSuit : Bool) (rule : Opening opening marks) (scoreRule : Score numeral score)
      (linkRule : Link .hundred link linked) (suitRule : BetterSuit suit betterSuit) :
      Body (opening ++ Contract.hundred.keyword ++ numeral ++ link ++ suit)
        { base := { marks with contract := some .hundred, score }, link := linked, betterSuit }
  | twoSevens (opening link suit : List Char) (marks linked : Commitment) (betterSuit : Bool)
      (rule : Opening opening marks) (linkRule : Link .twoSevens link linked)
      (suitRule : BetterSuit suit betterSuit) :
      Body (opening ++ Contract.twoSevens.keyword ++ link ++ suit)
        { base := { marks with contract := some .twoSevens }, link := linked, betterSuit }

end TrickLedger.Play.Grammar
