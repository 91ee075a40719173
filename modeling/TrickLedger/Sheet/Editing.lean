import TrickLedger.Calendar.Notation
import TrickLedger.Sheet.Basic

/-!
# Editing score sheets

Sheets can also be put together by hand: a header, and groups, players and plays
added one after another.
-/

namespace TrickLedger.Sheet

/-- Writes the date and the place of a sheet. -/
def withHeader (sheet : Sheet) (rawDate place : String) : Sheet :=
  { sheet with date := Calendar.readDate? rawDate, rawDate, place }

/-- Adds a group without players. -/
def addGroup (sheet : Sheet) : Sheet :=
  { sheet with groups := sheet.groups ++ [{}] }

/-- The list with its last element changed, if it has one. -/
def changeLast? {α : Type} (change : α → Option α) (items : List α) : Option (List α) := do
  let last ← items.getLast?
  let changed ← change last
  some (items.dropLast ++ [changed])

/-- Adds a player to the last group, if there is a group. -/
def addMember? (sheet : Sheet) (member : Member) : Option Sheet := do
  let groups ← changeLast?
    (fun group => some { group with members := group.members ++ [member] }) sheet.groups
  some { sheet with groups }

/-- Adds a play to the last player of the last group, if there is a player. -/
def addPlay? (sheet : Sheet) (play : WrittenPlay) : Option Sheet := do
  let groups ← changeLast? (fun group => do
      let members ← changeLast?
        (fun member => some { member with plays := member.plays ++ [play] }) group.members
      some { group with members }) sheet.groups
  some { sheet with groups }

end TrickLedger.Sheet
