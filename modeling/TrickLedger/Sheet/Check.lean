import TrickLedger.Scoring.Table
import TrickLedger.Sheet.Basic
import TrickLedger.Sheet.Fault

/-!
# Checking score sheets

A sheet needs a place and a date, and every group needs enough players with
names of their own, a positive stake and plays that follow the grammar. The
first fault in this order is reported, group by group.
-/

namespace TrickLedger

/-- The first player without a name or with the name of an earlier player. -/
def nameFault? (group : Nat) (earlier : List String) : List Member → Option SheetFault
  | [] => none
  | member :: members =>
      if member.name.isEmpty then some (.emptyName group member.start)
      else if member.name ∈ earlier then some (.repeatedName group member.name member.start)
      else nameFault? group (member.name :: earlier) members

namespace Member

/-- The first play of a player that does not follow the grammar. -/
def playFault? (member : Member) (group : Nat) : Option SheetFault :=
  (member.plays.zipIdx 1).findSome? fun (play, number) =>
    match Play.ofCode play.code with
    | .ok _ => none
    | .error cause => some (.invalidPlay group member.name number play.span cause)

end Member

namespace Group

/-- The offset of the first player. -/
def start (group : Group) : Nat :=
  match group.members with
  | member :: _ => member.start
  | [] => 0

/-- The first fault of a group with the given number. -/
def fault? (group : Group) (rules : ScoringRules) (number : Nat) : Option SheetFault :=
  if group.size < fewestPlayers then some (.groupTooSmall number group.size group.start)
  else match nameFault? number [] group.members with
    | some fault => some fault
    | none =>
        match Table.make group.size rules with
        | .error cause => some (.unscorableGroup number cause)
        | .ok _ => group.members.findSome? fun member => member.playFault? number

end Group

namespace Sheet

/-- The first fault of a sheet. -/
def fault? (sheet : Sheet) : Option SheetFault :=
  if sheet.place.isEmpty then some .emptyPlace
  else if sheet.date.isNone then some (.invalidDate sheet.rawDate)
  else (sheet.groups.zipIdx 1).findSome? fun (group, number) => group.fault? sheet.rules number

/-- Refuses a sheet with a fault. -/
def check (sheet : Sheet) : Except SheetFault Unit :=
  match sheet.fault? with
  | none => .ok ()
  | some fault => .error fault

end Sheet
end TrickLedger
