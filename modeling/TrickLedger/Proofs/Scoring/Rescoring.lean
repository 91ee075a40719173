import TrickLedger.Proofs.Scoring.Signs

/-!
# Plays with another score

The score of a commitment scales its value whatever its contract is.  A play keeps its worth
when the score of a commitment is replaced if that commitment is empty or counts its value as
often as before, and within the bounds of amounts only then.  Play codes give no score but to
the contracts that have one.
-/

namespace TrickLedger

open Money

namespace Play

/-- The places of the commitments of a play. -/
inductive Place
  | base
  | link
  deriving DecidableEq, Repr

/-- The commitment at a place. -/
def commitmentAt (play : Play) : Place → Commitment
  | .base => play.base
  | .link => play.link

/-- The commitment at the other place. -/
def otherThan (play : Play) : Place → Commitment
  | .base => play.link
  | .link => play.base

/-- The same play with another score of the commitment at a place. -/
def withScore (play : Play) (place : Place) (score : Int) : Play :=
  match place with
  | .base => { play with base := { play.base with score } }
  | .link => { play with link := { play.link with score } }

section

variable (play : Play) (place : Place) (score : Int)

@[simp]
theorem commitmentAt_withScore :
    (play.withScore place score).commitmentAt place =
      { play.commitmentAt place with score } := by
  cases place <;> rfl

@[simp]
theorem otherThan_withScore :
    (play.withScore place score).otherThan place = play.otherThan place := by
  cases place <;> rfl

@[simp]
theorem betterSuit_withScore : (play.withScore place score).betterSuit = play.betterSuit := by
  cases place <;> rfl

@[simp]
theorem comment_withScore : (play.withScore place score).comment = play.comment := by
  cases place <;> rfl

end

theorem commitmentAt_mem (play : Play) (place : Place) :
    play.commitmentAt place ∈ play.commitments := by
  cases place <;> simp [commitmentAt, commitments]

end Play

namespace Table

variable {table : Table} {play : Play} {place : Play.Place} {score : Int}

theorem playValue_eq_at (table : Table) (play : Play) (place : Play.Place) (side : Side) :
    table.playValue play side =
      clampTo (table.ceiling side)
        (Money.add (table.commitmentValue (play.commitmentAt place) play.betterSuit side)
          (table.commitmentValue (play.otherThan place) play.betterSuit side)) := by
  cases place with
  | base => rfl
  | link => rw [Money.add_comm]; rfl

/-- A play is worth the same with another score if the commitment is. -/
theorem worth_withScore_of_commitmentValue
    (same : ∀ side,
      table.commitmentValue { play.commitmentAt place with score } play.betterSuit side =
        table.commitmentValue (play.commitmentAt place) play.betterSuit side) :
    table.worth (play.withScore place score) = table.worth play := by
  have value (side : Side) :
      table.playValue (play.withScore place score) side = table.playValue play side := by
    rw [playValue_eq_at table _ place, playValue_eq_at table play place]
    simp only [Play.commitmentAt_withScore, Play.otherThan_withScore, Play.betterSuit_withScore,
      same]
  simp only [worth, value, Play.comment_withScore]

theorem commitmentValue_of_empty {commitment : Commitment} (empty : commitment.contract = none)
    (betterSuit : Bool) (side : Side) : table.commitmentValue commitment betterSuit side = 0 := by
  have value : commitment.value = 0 := by rw [Commitment.value, empty]
  rw [commitmentValue_eq_saturate_factor, value]
  simp only [zero_mul]
  rfl

theorem commitmentValue_of_scoreFactor {commitment : Commitment}
    (same : table.scoreFactor score = table.scoreFactor commitment.score) (betterSuit : Bool)
    (side : Side) :
    table.commitmentValue { commitment with score } betterSuit side =
      table.commitmentValue commitment betterSuit side := by
  rw [commitmentValue_eq_saturate_factor, commitmentValue_eq_saturate_factor, same]
  rfl

/-! ### Where no bound is met -/

/-- Neither the value of the commitment at a place nor that of the whole play meets a bound on
the side of the player. -/
structure Clear (table : Table) (play : Play) (place : Play.Place) : Prop where
  commitment : |table.commitmentValue (play.commitmentAt place) play.betterSuit .own| < greatest
  play : |table.playValue play .own| < table.ceiling .own

theorem eq_of_abs_saturate_lt {value : Int} (clear : |saturate value| < greatest) :
    saturate value = value := by
  have low := least_lt_neg_greatest
  rw [abs_lt] at clear
  unfold saturate at *
  omega

theorem eq_of_abs_clampTo_lt {bound value : Int} (clear : |clampTo bound value| < bound) :
    clampTo bound value = value := by
  rw [abs_lt] at clear
  unfold clampTo at *
  omega

theorem Clear.playValue_eq (clear : table.Clear play place) :
    table.playValue play .own =
      table.commitmentValue (play.commitmentAt place) play.betterSuit .own +
        table.commitmentValue (play.otherThan place) play.betterSuit .own := by
  have held := clear.play
  have most : table.ceiling .own ≤ greatest := saturate_le_greatest _
  rw [playValue_eq_at table play place] at held ⊢
  have total := eq_of_abs_clampTo_lt held
  rw [total] at held ⊢
  exact eq_of_abs_saturate_lt (held.trans_le most)

theorem Clear.commitmentValue_eq (clear : table.Clear play place) :
    table.commitmentValue (play.commitmentAt place) play.betterSuit .own =
      (play.commitmentAt place).value * table.scoreFactor (play.commitmentAt place).score *
        table.units (play.commitmentAt place) .own * suitFactor play.betterSuit *
        table.rules.stake := by
  have held := clear.commitment
  rw [commitmentValue_eq_saturate_factor] at held ⊢
  exact eq_of_abs_saturate_lt held

theorem units_own_ne_zero (table : Table) (commitment : Commitment) :
    table.units commitment .own ≠ 0 := by
  intro zero
  have positive := (table.units_own_mem commitment).1
  rw [zero, mul_zero] at positive
  exact lt_irrefl 0 positive

/-- Where no bound is met, a change of the score shows unless the value counts as often. -/
theorem scoreFactor_of_worth (named : (play.commitmentAt place).contract.isSome)
    (before : table.Clear play place) (after : table.Clear (play.withScore place score) place)
    (same : table.worth (play.withScore place score) = table.worth play) :
    table.scoreFactor score = table.scoreFactor (play.commitmentAt place).score := by
  have totals : table.playValue (play.withScore place score) .own = table.playValue play .own :=
    congrArg Worth.own same
  have values := after.commitmentValue_eq
  rw [after.playValue_eq, before.playValue_eq, Play.otherThan_withScore,
    Play.betterSuit_withScore, add_left_inj] at totals
  rw [Play.betterSuit_withScore, totals, before.commitmentValue_eq,
    Play.commitmentAt_withScore] at values
  have value := (Commitment.value_pos named).ne'
  have units := table.units_own_ne_zero (play.commitmentAt place)
  have suit := (zero_lt_one.trans_le (suitFactor_mem play.betterSuit).1).ne'
  have stake := (zero_lt_one.trans_le table.one_le_stake).ne'
  have factors := mul_right_cancel₀ units (mul_right_cancel₀ suit (mul_right_cancel₀ stake values))
  exact (mul_left_cancel₀ value factors).symm

/-- Another score has no effect on an empty commitment, and none if the value counts as often
as before.  Where no bound is met it has an effect otherwise, whether the contract has a score
or not.  In a play that a code can express, the value of a contract without a score counts
once. -/
theorem worth_withScore (table : Table) (play : Play) (place : Play.Place) (score : Int) :
    ((play.commitmentAt place).contract = none →
      table.worth (play.withScore place score) = table.worth play) ∧
    (table.scoreFactor score = table.scoreFactor (play.commitmentAt place).score →
      table.worth (play.withScore place score) = table.worth play) ∧
    ((play.commitmentAt place).contract.isSome → table.Clear play place →
      table.Clear (play.withScore place score) place →
      table.worth (play.withScore place score) = table.worth play →
        table.scoreFactor score = table.scoreFactor (play.commitmentAt place).score) ∧
    (play.WellFormed → (play.commitmentAt place).contract.any Contract.hasScore = false →
      table.scoreFactor (play.commitmentAt place).score = 1) := by
  refine ⟨fun empty => ?_, fun same => ?_, scoreFactor_of_worth, fun wellFormed noScore => ?_⟩
  · have rescored : ({ play.commitmentAt place with score } : Commitment).contract = none := empty
    apply worth_withScore_of_commitmentValue
    intro side
    rw [commitmentValue_of_empty rescored, commitmentValue_of_empty empty]
  · exact worth_withScore_of_commitmentValue fun side =>
      commitmentValue_of_scoreFactor same play.betterSuit side
  · have fits := (wellFormed.marksFit (play.commitmentAt_mem place)).2.2
    rw [Commitment.ScoreFits, noScore] at fits
    have default : (play.commitmentAt place).score = defaultScore := fits
    rw [default]
    cases rule : table.rules.hundred <;> simp only [scoreFactor, rule] <;> decide

/-- Three players under the usual rules. -/
def ofThree : Table :=
  ⟨3, {}, le_rfl, Nat.one_pos⟩

/-- A betl that was won. -/
def wonBetl : Play where
  base := { won := true, contract := some .betl }

theorem worth_withScore_wonBetl :
    ofThree.worth (wonBetl.withScore .link 150) = ofThree.worth wonBetl ∧
      ofThree.worth (wonBetl.withScore .base 90) = ofThree.worth wonBetl ∧
      (ofThree.Clear wonBetl .base ∧ ofThree.Clear (wonBetl.withScore .base 150) .base ∧
        ofThree.worth (wonBetl.withScore .base 150) ≠ ofThree.worth wonBetl) ∧
      wonBetl.WellFormed ∧ ofThree.scoreFactor wonBetl.base.score = 1 := by
  have before : ofThree.Clear wonBetl .base := ⟨by decide, by decide⟩
  have after : ofThree.Clear (wonBetl.withScore .base 150) .base := ⟨by decide, by decide⟩
  have wellFormed : wonBetl.WellFormed := by decide
  obtain ⟨empty, -, -, -⟩ := worth_withScore ofThree wonBetl .link 150
  obtain ⟨-, same, -, once⟩ := worth_withScore ofThree wonBetl .base 90
  obtain ⟨-, -, shows, -⟩ := worth_withScore ofThree wonBetl .base 150
  refine ⟨empty rfl, same (by decide), ⟨before, after, fun unchanged => ?_⟩, wellFormed,
    once wellFormed rfl⟩
  exact absurd (shows rfl before after unchanged) (by decide)

/-- A betl has no score, and yet it brings more with one. -/
theorem not_worth_withScore_noScore :
    ¬∀ (table : Table) (play : Play) (place : Play.Place) (score : Int),
      (play.commitmentAt place).contract.any Contract.hasScore = false →
        table.worth (play.withScore place score) = table.worth play := by
  intro unscored
  have same := congrArg Worth.own (unscored ofThree wonBetl .base 150 rfl)
  exact absurd same (by decide)

end Table

end TrickLedger
