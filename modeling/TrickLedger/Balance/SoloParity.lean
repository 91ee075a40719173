import TrickLedger.Balance.Group
import TrickLedger.Scoring.Exact

/-!
# Solo parity

A commitment with solo parity is settled on its player's side only, so a play with one
leaves all players together with a surplus or a loss.
-/

namespace TrickLedger

namespace Play

def commitments (play : Play) : List Commitment :=
  [play.base, play.link]

/-- Some commitment of the play has solo parity. -/
def hasSoloParity (play : Play) : Bool :=
  play.commitments.any Commitment.soloParity

end Play

namespace Table

/-- The exact value of a commitment to its player, if its solo parity is as given. -/
def soloValue (table : Table) (solo : Bool) (commitment : Commitment) : Int :=
  if commitment.soloParity = solo then table.exactCommitmentValue .own commitment else 0

/-- What the commitments of a play that have solo parity, or those that do not, come to for
its player before the ceiling. -/
def share (table : Table) (solo : Bool) (play : Play) : Int :=
  table.rules.stake * (if play.betterSuit then 2 else 1) *
    (table.soloValue solo play.base + table.soloValue solo play.link)

/-- What the commitments with solo parity add to a play within the ceiling. -/
def surplus (table : Table) (play : Play) : Int :=
  Money.clampTo (table.exactCeiling .own) (table.share true play + table.share false play) -
    Money.clampTo (table.exactCeiling .own) (table.share false play)

/-- With and without its commitments with solo parity the play is held at the same ceiling. -/
def Absorbs (table : Table) (play : Play) : Prop :=
  let ceiling := table.exactCeiling .own
  (ceiling ≤ table.share false play ∧ ceiling ≤ table.share true play + table.share false play) ∨
    (table.share false play ≤ -ceiling ∧
      table.share true play + table.share false play ≤ -ceiling)

end Table

namespace Group

/-- The plays of the group with solo parity. -/
def soloPlays (group : Group) : List Play :=
  (group.members.flatMap Member.plays).filterMap fun written =>
    (Play.ofCode written.code).toOption.filter Play.hasSoloParity

/-- All commitments with solo parity that were made in the group ended alike. -/
def SolosEnd (group : Group) (won : Bool) : Prop :=
  ∀ play ∈ group.soloPlays, ∀ commitment ∈ play.commitments,
    commitment.soloParity = true → commitment.won = won

end Group
end TrickLedger
