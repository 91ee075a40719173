import TrickLedger.Play.Basic

/-!
# Well-formed plays

The plays that play codes can express. Parity marks, boosts and scores stay
within what a code can write, the contracts of base and link belong together,
and a comment does not contain the brace that would close it.
-/

namespace TrickLedger

namespace Commitment

/-- The score can be written: a multiple of ten in the range of scores where the
contract has a score, and the default elsewhere. -/
def ScoreFits (commitment : Commitment) : Prop :=
  if commitment.contract.any Contract.hasScore then
    leastScore ≤ commitment.score ∧ commitment.score ≤ greatestScore ∧ commitment.score % 10 = 0
  else commitment.score = defaultScore

/-- Base payment comes with solo parity, and boost and score can be written. -/
def MarksFit (commitment : Commitment) : Prop :=
  (commitment.basePayment = true → commitment.soloParity = true) ∧
    commitment.boost ≤ greatestBoost ∧ commitment.ScoreFits

instance (commitment : Commitment) : Decidable commitment.ScoreFits := by
  unfold ScoreFits
  infer_instance

instance (commitment : Commitment) : Decidable commitment.MarksFit := by
  unfold MarksFit
  infer_instance

end Commitment

namespace Play

/-- The contracts of base and link belong together. Only a hundred or two sevens
may go without a link, and a silent seven has no boost. -/
def ContractsFit (play : Play) : Prop :=
  match play.base.contract with
  | some .seven =>
      play.link.contract = some .game ∨ play.link.contract = some .silentHundred
  | some .hundred =>
      play.link = {} ∨ play.link.contract = some .seven ∨
        (play.link.contract = some .silentSeven ∧ play.link.boost = 0)
  | some .twoSevens => play.link = {} ∨ play.link.contract = some .hundred
  | some .betl | some .majklBetl | some .majklSuperBetl | some .durch =>
      play.link = {} ∧ play.betterSuit = false
  | some contract =>
      contract.isFault = true ∧ play.base = .ofFault contract ∧ play.link = {} ∧
        play.betterSuit = false
  | none => False

/-- A play code can express the play. -/
def WellFormed (play : Play) : Prop :=
  play.base.MarksFit ∧ play.link.MarksFit ∧ play.ContractsFit ∧
    ∀ comment ∈ play.comment, '}' ∉ comment.toList

instance (play : Play) : Decidable play.ContractsFit := by
  unfold ContractsFit
  split <;> infer_instance

instance (play : Play) : Decidable play.WellFormed := by
  unfold WellFormed
  cases play.comment <;> infer_instance

end Play
end TrickLedger
