import TrickLedger.Command.Run
import TrickLedger.Proofs.Output.Json
import TrickLedger.Proofs.Output.Table

/-!
# The printed report

A plain report has the balances of each sheet under a heading, group by group, and then the
leaderboard.  A structured report has the leaderboard and the sheets as the members of one
object.
-/

namespace TrickLedger

open Output

/-! ### Lines -/

/-- The lines of groups that are numbered from a number on: each group has a heading with its
number and a table of its players. -/
inductive GroupLines : Nat → List (List (String × Int)) → List String → Prop
  | done (number : Nat) : GroupLines number [] []
  | next (number : Nat) (rows : List (String × Int)) (groups : List (List (String × Int)))
      (table others : List String) (listed : IsTable rows table)
      (further : GroupLines (number + 1) groups others) :
      GroupLines number (rows :: groups) ((" group " ++ toString number) :: table ++ others)

/-- The lines of a sheet: a heading with the date as written, the place and the file, and then
the groups. -/
inductive SheetLines (balances : SheetBalances) : List String → Prop
  | sheet (groups : List String) (listed : GroupLines 1 balances.groups groups) :
      SheetLines balances
        ((balances.rawDate ++ " " ++ balances.place ++ " (" ++ balances.file ++ ")") :: groups)

/-! ### Structured values -/

def standingMembers (standing : Standing) : List (String × Json) :=
  [("name", .string standing.name), ("balance", .number standing.balance),
    ("indexes", .number standing.sheets)]

/-- The balances of a group are a list of names and amounts. -/
def sheetMembers (balances : SheetBalances) : List (String × Json) :=
  [("file", .string balances.file), ("place", .string balances.place),
    ("date", .string balances.rawDate),
    ("groups", .list (balances.groups.map fun rows =>
      .list (rows.map fun row => .list [.string row.1, .number row.2])))]

namespace BalanceReport

/-- The leaderboard, and the sheets if the report has them. -/
def members (report : BalanceReport) : List (String × Json) :=
  ("leaderboard", .list (report.standings.map fun standing => .object (standingMembers standing))) ::
    report.sheets.toList.map fun sheets =>
      ("indexes", .list (sheets.map fun balances => .object (sheetMembers balances)))

/-- The text is the whole report, on lines or structured. -/
inductive IsPrintedAs (report : BalanceReport) : Bool → String → Prop
  | lines (sheets : List (List String)) (table : List String)
      (listed : List.Forall₂ SheetLines (report.sheets.getD []) sheets)
      (ranked : IsTable (report.standings.map fun standing => (standing.name, standing.balance))
        table) :
      IsPrintedAs report false (onLines (sheets.flatten ++ "Leaderboard" :: table))
  | structured (text : String) (spelled : Json.Spells (.object report.members) text) :
      IsPrintedAs report true text

end BalanceReport

/-! ### What is printed -/

theorem exists_groupLines (number : Nat) (groups : List (List (String × Int))) :
    ∃ lines, GroupLines number groups lines ∧
      String.join ((groups.zipIdx number).map fun (rows, number) =>
        line s!" group {number}" ++ balancesText rows) = onLines lines := by
  induction groups generalizing number with
  | nil => exact ⟨[], .done number, rfl⟩
  | cons rows groups ih =>
      obtain ⟨table, listed, printed⟩ := exists_isTable_balancesText rows
      obtain ⟨others, further, printedFurther⟩ := ih (number + 1)
      refine ⟨_, .next number rows groups table others listed further, ?_⟩
      rw [List.zipIdx_cons, List.map_cons, String.join_cons, printedFurther]
      change line (" group " ++ toString number) ++ balancesText rows ++ onLines others = _
      rw [printed, List.cons_append, onLines_cons, onLines_append, String.append_assoc]

theorem SheetBalances.exists_sheetLines (balances : SheetBalances) :
    ∃ lines, SheetLines balances lines ∧ balances.text = onLines lines := by
  obtain ⟨groups, listed, printed⟩ := exists_groupLines 1 balances.groups
  refine ⟨_, .sheet groups listed, ?_⟩
  rw [text, printed, onLines_cons]
  rfl

namespace BalanceReport

theorem isPrintedAs_text (report : BalanceReport) : report.IsPrintedAs false report.text := by
  obtain ⟨sheets, listed, printed⟩ :=
    exists_forall₂_onLines SheetBalances.exists_sheetLines (report.sheets.getD [])
  obtain ⟨table, ranked, printedTable⟩ := exists_isTable_balancesText
    (report.standings.map fun standing => (standing.name, standing.balance))
  have whole : report.text = onLines (sheets.flatten ++ "Leaderboard" :: table) := by
    rw [text, printed, leaderboardText, printedTable, onLines_append, onLines_cons]
  rw [whole]
  exact .lines sheets table listed ranked

theorem json_eq_members (report : BalanceReport) : report.json = .object report.members := by
  unfold json members
  cases report.sheets <;> rfl

theorem isPrintedAs_structuredText (report : BalanceReport) :
    report.IsPrintedAs true (Command.structuredText report.json) := by
  refine .structured _ ?_
  rw [← json_eq_members]
  exact (Json.spells_render report.json).ahead (by simp [Json.Blank])

theorem isPrintedAs (report : BalanceReport) (structured : Bool) :
    report.IsPrintedAs structured
      (if structured then Command.structuredText report.json else report.text) := by
  cases structured with
  | true => exact report.isPrintedAs_structuredText
  | false => exact report.isPrintedAs_text

end BalanceReport

end TrickLedger
