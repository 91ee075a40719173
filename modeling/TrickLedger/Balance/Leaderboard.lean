import TrickLedger.Balance.Group

/-!
# The leaderboard

The standings of all players over a season of sheets: their balance and the
number of sheets on which they appear. The best balance comes first, and equal
balances are ordered by name.
-/

namespace TrickLedger

/-- The standing of a player over a season. -/
structure Standing where
  name : String
  /-- The net balance in minor currency units. -/
  balance : Int
  /-- The number of sheets on which the player appears. -/
  sheets : Nat
  deriving DecidableEq, Repr

namespace Standing

/-- The better balance comes first, then the smaller name. -/
def comesBefore (first second : Standing) : Bool :=
  if first.balance = second.balance then decide (first.name ≤ second.name)
  else decide (second.balance < first.balance)

/-- Adds the balance of one more sheet to the standing of a name. A new name is
put at the end. -/
def record (standings : List Standing) (name : String) (balance : Int) : List Standing :=
  match standings with
  | [] => [⟨name, Money.add 0 balance, 1⟩]
  | standing :: others =>
      if standing.name = name then
        { standing with
          balance := Money.add standing.balance balance
          sheets := standing.sheets + 1 } :: others
      else standing :: record others name balance

/-- The standings after one more sheet. -/
def recordSheet (standings : List Standing) (sheet : Sheet) :
    Except BalanceFault (List Standing) :=
  sheet.playerNames.foldlM (fun standings name => do
    let balance ← sheet.balanceOf name
    .ok (record standings name balance)) standings

end Standing

/-- The standings over a season, the best one first. -/
def leaderboard (season : List Sheet) : Except BalanceFault (List Standing) := do
  let standings ← season.foldlM Standing.recordSheet []
  .ok (standings.mergeSort Standing.comesBefore)

end TrickLedger
