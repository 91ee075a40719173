import Mathlib.Data.List.Forall2
import TrickLedger.Sheet.Basic

/-!
# Rearranged seasons

The sheets of a season, the groups of a sheet, the players of a group and the plays of
a player can be put in any order. Where they stand in a text does not count.
-/

namespace TrickLedger

/-- The items of the second list correspond to those of the first one, in any order. -/
def AnyOrder {α : Type} (corresponds : α → α → Prop) (first second : List α) : Prop :=
  ∃ shuffled, first.Perm shuffled ∧ List.Forall₂ corresponds shuffled second

/-- The same player with the plays in any order. -/
structure Member.Rearranged (first second : Member) : Prop where
  name : first.name = second.name
  codes : (first.plays.map WrittenPlay.code).Perm (second.plays.map WrittenPlay.code)

/-- The same players, in any order and each with the plays in any order. -/
def Group.Rearranged (first second : Group) : Prop :=
  AnyOrder Member.Rearranged first.members second.members

/-- The same groups under the same rules, in any order and each of them rearranged. -/
structure Sheet.Rearranged (first second : Sheet) : Prop where
  rules : first.rules = second.rules
  groups : AnyOrder Group.Rearranged first.groups second.groups

/-- The same sheets, in any order and each of them rearranged. -/
def RearrangedSeason (first second : List Sheet) : Prop :=
  AnyOrder Sheet.Rearranged first second

end TrickLedger
