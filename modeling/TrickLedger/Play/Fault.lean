/-!
# Faults of play codes

The ways in which a play code can fail to follow the grammar.
-/

namespace TrickLedger

/-- Why a play code is refused. -/
inductive PlayFault
  | missingSign
  | unknownBase
  | missingScore
  | scoreOutOfRange
  | scoreNotMultipleOfTen
  | trailingCharacters
  | incompleteLink
  | betterSuitNotAllowed
  | paymentWithoutParity
  | missingGameAfterSeven
  | unknownLinkOfHundred
  | missingHundredAfterSevens
  | missingBase
  deriving DecidableEq, Repr

namespace PlayFault

/-- The sentence shown for a fault. -/
def message : PlayFault → String
  | missingSign => "missing plus or minus sign of the base commitment"
  | unknownBase => "unknown base commitment"
  | missingScore => "missing score of the hundred"
  | scoreOutOfRange => "score of the hundred is outside the range [-100;190]"
  | scoreNotMultipleOfTen => "score of the hundred is not a multiple of 10"
  | trailingCharacters => "unexpected characters at the end of the play"
  | incompleteLink => "link commitment is incomplete"
  | betterSuitNotAllowed => "commitment cannot be played in the better suit"
  | paymentWithoutParity => "base payment without solo parity"
  | missingGameAfterSeven => "missing game commitment after the seven"
  | unknownLinkOfHundred => "unknown commitment after the hundred"
  | missingHundredAfterSevens => "expected a hundred after two sevens"
  | missingBase => "missing base commitment"

/-- The stable code of a fault. -/
def code : PlayFault → String
  | missingSign => "missing_sign"
  | unknownBase => "unknown_base_commitment"
  | missingScore => "missing_score"
  | scoreOutOfRange => "score_out_of_range"
  | scoreNotMultipleOfTen => "score_not_multiple_of_ten"
  | trailingCharacters => "trailing_garbage"
  | incompleteLink => "incomplete_link_commitment"
  | betterSuitNotAllowed => "trump_incompatible"
  | paymentWithoutParity => "base_payment_without_solo_parity"
  | missingGameAfterSeven => "missing_game_after_seven"
  | unknownLinkOfHundred => "unknown_commitment_after_hundred"
  | missingHundredAfterSevens => "missing_hundred_after_two_sevens"
  | missingBase => "missing_base_commitment"

end PlayFault
end TrickLedger
