import TrickLedger.Balance.Fault
import TrickLedger.Scoring.Table
import TrickLedger.Sheet.Basic

/-!
# Balances of a group

A player wins or loses the own value of each of their own plays and the opponent
value of each play of the others. A group settles if the balances of its players
sum to zero, and no balance is drawn up for a group that does not.
-/

namespace TrickLedger

/-- Adds up the amounts of a list one after another; the first fault ends it. -/
def sumAmounts {α : Type} (amount : α → Except BalanceFault Int) (items : List α) :
    Except BalanceFault Int :=
  items.foldlM (fun total item => do
    let next ← amount item
    .ok (Money.add total next)) 0

namespace Table

/-- The amount that one play of a player comes to for `viewer`. -/
def amountOfPlay (table : Table) (viewer : String) (member : Member) (play : WrittenPlay) :
    Except BalanceFault Int :=
  match table.worthOfCode play.code with
  | .ok worth => .ok (if member.name = viewer then worth.own else worth.opponent)
  | .error cause => .error (.unscorablePlay member.name play.code cause)

/-- What `viewer` gains or loses from the plays of a player. -/
def balanceFromMember (table : Table) (viewer : String) (member : Member) :
    Except BalanceFault Int :=
  sumAmounts (table.amountOfPlay viewer member) member.plays

/-- What `viewer` gains or loses from the plays of a whole group. -/
def balanceFromGroup (table : Table) (viewer : String) (group : Group) :
    Except BalanceFault Int :=
  sumAmounts (table.balanceFromMember viewer) group.members

/-- The sum of the balances of all players of a group. -/
def groupTotal (table : Table) (group : Group) : Except BalanceFault Int :=
  sumAmounts (fun member => table.balanceFromGroup member.name group) group.members

/-- Refuses a group whose balances do not sum to zero. -/
def settle (table : Table) (group : Group) : Except BalanceFault Unit := do
  let total ← table.groupTotal group
  if total = 0 then .ok () else .error (.doesNotSettle total)

end Table

namespace Group

/-- The table at which a group plays. -/
def table (group : Group) (rules : ScoringRules) : Except BalanceFault Table :=
  match Table.make group.size rules with
  | .ok table => .ok table
  | .error cause => .error (.rules cause)

/-- Refuses a group that does not settle to zero. -/
def settle (group : Group) (rules : ScoringRules) : Except BalanceFault Unit := do
  let table ← group.table rules
  table.settle group

/-- The balance of a name in a group, which is zero for a name that is not in
it. -/
def balanceOf (group : Group) (rules : ScoringRules) (name : String) :
    Except BalanceFault Int := do
  let table ← group.table rules
  table.settle group
  match group.member? name with
  | some _ => table.balanceFromGroup name group
  | none => .ok 0

/-- The balance of every player of a group, in the order of the group. -/
def balances (group : Group) (rules : ScoringRules) :
    Except BalanceFault (List (String × Int)) := do
  let table ← group.table rules
  table.settle group
  group.members.mapM fun member => do
    let balance ← table.balanceFromGroup member.name group
    .ok (member.name, balance)

end Group

/-- The balance of a name over all groups of a sheet. -/
def Sheet.balanceOf (sheet : Sheet) (name : String) : Except BalanceFault Int :=
  sumAmounts (fun group => group.balanceOf sheet.rules name) sheet.groups

end TrickLedger
