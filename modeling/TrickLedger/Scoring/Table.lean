import TrickLedger.Money
import TrickLedger.Play.Reader
import TrickLedger.Scoring.Rules

/-!
# Scoring plays at a table

A table seats a number of players under one set of rules. It values a play for
the player who made it and for each single opponent. Amounts saturate in every
step, and the result is held within the ceiling of the table.
-/

namespace TrickLedger

/-- The largest amount that a single opponent can win or lose on one play with
a stake of one. -/
def ceilingPerOpponent : Int := 15000

/-- Enough players with a positive stake. -/
structure Table where
  players : Nat
  rules : ScoringRules
  players_enough : fewestPlayers ≤ players
  stake_pos : 0 < rules.stake

/-- For whom a play is valued: the player who made it or one opponent. -/
inductive Side
  | own
  | opponent
  deriving DecidableEq, Repr

/-- What a play is worth to the player who made it and to each opponent. -/
structure Worth where
  own : Int
  opponent : Int
  comment : Option String
  deriving DecidableEq, Repr

namespace Table

/-- A table for a number of players. The number is checked before the stake. -/
def make (players : Nat) (rules : ScoringRules) : Except RulesFault Table :=
  if enough : fewestPlayers ≤ players then
    if staked : 0 < rules.stake then .ok ⟨players, rules, enough, staked⟩
    else .error .zeroStake
  else .error (.tooFewPlayers players)

/-- The number of opponents of a player, as far as amounts can count. -/
def opponents (table : Table) : Int :=
  min (table.players - 1 : Nat) Money.greatest

/-- How many steps of ten points a score is worth. Scores beyond those of play
codes count as the nearest of them. -/
def scoreSteps (score : Int) : Int :=
  let score := max leastScore (min score greatestScore)
  (if score < 100 then 100 - score else score - 90) / 10

/-- A value scaled by the score of the hand. -/
def scaleByScore (rule : HundredRule) (value score : Int) : Int :=
  match rule with
  | .multiplicative => Money.mul value (Int.pow 2 (max 0 (min (scoreSteps score - 1) 62)).toNat)
  | .additive => Money.mul value (scoreSteps score)

/-- The multiple of its scaled value that a commitment pays to a side. Boosts
beyond the greatest count as the greatest. The negation at the end is without
bounds, where words have none for the least amount: a base payment without solo
parity reaches it at very large tables (`Table.counted_units_of_crowded`). -/
def units (table : Table) (commitment : Commitment) (side : Side) : Int :=
  let doubled := Int.pow 2 (min commitment.boost greatestBoost)
  if side = .opponent ∧ commitment.soloParity then 0
  else
    let signed := if side = .opponent then -doubled else doubled
    let paid :=
      if commitment.basePayment then
        Money.sub (Money.mul signed table.opponents) (table.opponents - 1)
      else if side = .own then Money.mul signed table.opponents
      else signed
    if commitment.won then paid else -paid

/-- The value of one commitment to a side, before the ceiling. -/
def commitmentValue (table : Table) (commitment : Commitment) (betterSuit : Bool)
    (side : Side) : Int :=
  let scaled := scaleByScore table.rules.hundred commitment.value commitment.score
  let settled := Money.mul scaled (table.units commitment side)
  let suited := Money.mul settled (if betterSuit then 2 else 1)
  Money.mul suited table.rules.stake

/-- The most that a play can win or lose for a side. The own side settles with
every opponent. -/
def ceiling (table : Table) (side : Side) : Int :=
  let single := Money.mul ceilingPerOpponent table.rules.stake
  match side with
  | .own => Money.mul single table.opponents
  | .opponent => single

/-- The value of a play to a side, held within the ceiling. -/
def playValue (table : Table) (play : Play) (side : Side) : Int :=
  Money.clampTo (table.ceiling side)
    (Money.add (table.commitmentValue play.base play.betterSuit side)
      (table.commitmentValue play.link play.betterSuit side))

/-- The worth of a play to both sides. -/
def worth (table : Table) (play : Play) : Worth where
  own := table.playValue play .own
  opponent := table.playValue play .opponent
  comment := play.comment

/-- The worth of the play that a play code stands for. -/
def worthOfCode (table : Table) (code : String) : Except PlayFault Worth := do
  let play ← Play.ofCode code
  .ok (table.worth play)

end Table

/-- The outcome of judging one play code. -/
inductive Verdict
  | accepted (play : Play) (worth : Worth)
  | rejected (fault : PlayFault)
  deriving DecidableEq, Repr

/-- Judges a play code at a table. A fault is part of the verdict. -/
def Table.judge (table : Table) (code : String) : Verdict :=
  match Play.ofCode code with
  | .ok play => .accepted play (table.worth play)
  | .error fault => .rejected fault

/-- The names at the table of the commitments of a play that are not empty. -/
def Play.spokenNames (play : Play) : List String :=
  ([play.base, play.link].filter (!·.isEmpty)).map Commitment.spokenName

end TrickLedger
