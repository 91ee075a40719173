import TrickLedger.Proofs.Balance.Faults
import TrickLedger.Proofs.Command.Report

/-!
# The leaderboard command

The command prints nothing until all sheets are read and all balances are drawn up, so it
prints the whole report or fails with nothing printed.  How it fails depends on the sheets
alone: a season that has a leaderboard has the balances of all its groups.
-/

namespace TrickLedger

/-! ### What a run prints -/

namespace Running

/-- The run succeeds and prints just the text. -/
def Prints (running : Running Unit) (text : String) : Prop :=
  ∀ printed, running.run.run printed = (.ok (), printed ++ text)

variable {first second : Running Unit} {text further : String}

theorem prints_print (text : String) : (print text).Prints text :=
  fun _ => rfl

theorem Prints.andThen (prints : first.Prints text) (printsFurther : second.Prints further) :
    (do first; second).Prints (text ++ further) := by
  intro printed
  rw [ExceptT.run_bind, StateT.run_bind, prints printed]
  exact (printsFurther _).trans (by rw [String.append_assoc])

theorem prints_forM {α : Type} {action : α → Running Unit} {text : α → String} {items : List α}
    (each : ∀ item ∈ items, (action item).Prints (text item)) :
    (items.forM action).Prints (String.join (items.map text)) := by
  induction items with
  | nil => exact fun printed => by simp; rfl
  | cons item items ih =>
      rw [List.forall_mem_cons] at each
      rw [List.map_cons, String.join_cons]
      exact each.1.andThen (ih each.2)

theorem Prints.outcome_eq (prints : first.Prints text) : first.outcome = { output := text } := by
  rw [outcome, prints "", String.empty_append]

end Running

theorem SheetBalances.prints_print (balances : SheetBalances) :
    balances.print.Prints balances.text := by
  refine (Running.prints_print _).andThen (Running.prints_forM fun (rows, number) _ => ?_)
  exact (Running.prints_print _).andThen (Running.prints_print _)

theorem BalanceReport.prints_print (report : BalanceReport) : report.print.Prints report.text :=
  (Running.prints_forM fun balances _ => balances.prints_print).andThen (Running.prints_print _)

/-! ### What a complete report lists -/

/-- The balances are those of all groups of a sheet, with the path of its file. -/
structure SheetBalances.Lists (balances : SheetBalances) (path : String) (sheet : Sheet) :
    Prop where
  file : balances.file = path
  place : balances.place = sheet.place
  rawDate : balances.rawDate = sheet.rawDate
  groups : List.Forall₂ (fun group rows => group.balances sheet.rules = .ok rows) sheet.groups
    balances.groups

/-- The report has the standings over a season and, if they are asked for, the balances of
each of its sheets. -/
inductive BalanceReport.Covers (paths : List String) (season : List Sheet) :
    Bool → BalanceReport → Prop
  | standings (standings : List Standing) (ranked : leaderboard season = .ok standings) :
      Covers paths season false { standings, sheets := none }
  | groups (standings : List Standing) (sheets : List SheetBalances)
      (ranked : leaderboard season = .ok standings)
      (listed : List.Forall₂ (fun read balances => SheetBalances.Lists balances read.1 read.2)
        (paths.zip season) sheets) :
      Covers paths season true { standings, sheets := some sheets }

theorem SheetBalances.ofSheet_eq_ok_iff {path : String} {sheet : Sheet}
    {balances : SheetBalances} :
    ofSheet path sheet = .ok balances ↔ balances.Lists path sheet := by
  unfold ofSheet
  constructor
  · intro drawn
    split at drawn
    case h_1 groups all =>
      cases drawn
      exact ⟨rfl, rfl, rfl, mapM_eq_ok_iff.mp all⟩
    case h_2 => cases drawn
  · rintro ⟨rfl, place, rawDate, groups⟩
    rw [mapM_eq_ok_iff.mpr groups, ← place, ← rawDate]

/-- A sheet that settles has the balances of all its groups. -/
theorem SheetBalances.faultOf?_ofSheet {sheet : Sheet} (accepted : sheet.Accepted)
    (settles : sheet.Settles) (path : String) : faultOf? (ofSheet path sheet) = none := by
  have each : ∀ group ∈ sheet.groups, faultOf? (group.balances sheet.rules) = none := by
    intro group made
    rw [Group.faultOf?_balances (accepted.sound group made) accepted.staked]
    exact Group.unsettled?_eq_none_iff.mpr (settles group made)
  obtain ⟨groups, all⟩ := faultOf?_eq_none_iff.mp (faultOf?_mapM each)
  rw [ofSheet, all, faultOf?_ok]

/-- Sheets that have a leaderboard all settle, so drawing up their balances cannot fail. -/
theorem SheetBalances.exists_ofSheet {season : List Sheet} {standings : List Standing}
    (paths : List String) (accepted : ∀ sheet ∈ season, sheet.Accepted)
    (ranked : leaderboard season = .ok standings) :
    ∃ sheets, (paths.zip season).mapM (fun (path, sheet) => ofSheet path sheet) = .ok sheets := by
  have settle := (leaderboard_ranked_iff accepted).mp ⟨standings, ranked⟩
  rw [← faultOf?_eq_none_iff]
  apply faultOf?_mapM
  rintro ⟨path, sheet⟩ paired
  have recorded := (List.of_mem_zip paired).2
  exact faultOf?_ofSheet (accepted sheet recorded) (settle sheet recorded) path

namespace Command

variable {files : FileView} {paths : List String} {groups : Bool} {report : BalanceReport}
  {fault : CommandFault}

theorem accepted_of_readSheet {path : String} {sheet : Sheet}
    (read : readSheet files path = .ok sheet) : sheet.Accepted := by
  unfold readSheet at read
  split at read
  case h_1 => cases read
  case h_2 text opened =>
    split at read
    case h_1 accepted found =>
      cases read
      exact ⟨text, found⟩
    case h_2 => cases read

/-- All sheets that paths name, read in the order of their files. -/
def ReadAs (files : FileView) (paths : List String) (season : List Sheet) : Prop :=
  List.Forall₂ (fun path sheet => readSheet files path = .ok sheet) (sheetFiles files paths) season

theorem ReadAs.accepted {season : List Sheet} (read : ReadAs files paths season) :
    ∀ sheet ∈ season, sheet.Accepted := by
  have paired := read.flip.imp fun _ _ found => And.intro (accepted_of_readSheet found) found
  exact ((List.forall₂_and_left _ _).mp paired).1

/-- Why a path gives no sheet: its file cannot be opened, or its text is refused. -/
inductive ReadFailure (files : FileView) (path : String) : CommandFault → Prop
  | unreadable (cause : FileFault) (failed : files path >>= FileTree.text = .error cause) :
      ReadFailure files path (.unreadable path cause)
  | refused (text : String) (cause : SheetFault)
      (opened : files path >>= FileTree.text = .ok text)
      (failed : Sheet.ofText text = .error cause) :
      ReadFailure files path (.sheet path text cause)

/-- Why no leaderboard can be drawn up: the first file that gives no sheet, or the season of
all sheets. -/
inductive FirstFailure (files : FileView) (paths : List String) : CommandFault → Prop
  | unread (before after : List String) (path : String) (fault : CommandFault)
      (listed : sheetFiles files paths = before ++ path :: after)
      (readBefore : ∀ earlier ∈ before, ∃ sheet, readSheet files earlier = .ok sheet)
      (failed : ReadFailure files path fault) : FirstFailure files paths fault
  | unranked (season : List Sheet) (cause : BalanceFault) (read : ReadAs files paths season)
      (failed : leaderboard season = .error cause) :
      FirstFailure files paths (.balance (seasonLabel paths) cause)

theorem balanceReport_eq_ok_iff :
    balanceReport files paths groups = .ok report ↔
      ∃ season, ReadAs files paths season ∧
        BalanceReport.Covers (sheetFiles files paths) season groups report := by
  unfold balanceReport
  rw [bind_eq_ok_iff]
  refine exists_congr fun season => and_congr mapM_eq_ok_iff ?_
  constructor
  · intro drawn
    split at drawn
    case h_1 => cases drawn
    case h_2 standings ranked =>
      cases groups with
      | true =>
          obtain ⟨sheets, all, same⟩ := bind_eq_ok_iff.mp drawn
          cases same
          refine .groups standings sheets ranked ((mapM_eq_ok_iff.mp all).imp ?_)
          exact fun _ _ => SheetBalances.ofSheet_eq_ok_iff.mp
      | false =>
          cases drawn
          exact .standings standings ranked
  · intro covers
    cases covers with
    | standings standings ranked => rw [ranked]; rfl
    | groups standings sheets ranked listed =>
        have all := mapM_eq_ok_iff.mpr (listed.imp fun _ _ => SheetBalances.ofSheet_eq_ok_iff.mpr)
        rw [ranked]
        exact bind_eq_ok_iff.mpr ⟨sheets, all, rfl⟩

theorem readSheet_eq_error_iff {path : String} :
    readSheet files path = .error fault ↔ ReadFailure files path fault := by
  unfold readSheet
  constructor
  · intro failed
    split at failed
    case h_1 cause unopened =>
      cases failed
      exact .unreadable cause unopened
    case h_2 text opened =>
      split at failed
      case h_1 => cases failed
      case h_2 cause refused =>
        cases failed
        exact .refused text cause opened refused
  · intro failure
    cases failure with
    | unreadable cause failed => rw [failed]
    | refused text cause opened failed => rw [opened]; simp only [failed]

theorem balanceReport_eq_error_iff :
    balanceReport files paths groups = .error fault ↔ FirstFailure files paths fault := by
  unfold balanceReport
  rw [bind_eq_error_iff, mapM_eq_error_iff]
  constructor
  · rintro (⟨before, path, after, listed, readBefore, failed⟩ | ⟨season, all, failed⟩)
    · exact .unread before after path fault listed readBefore (readSheet_eq_error_iff.mp failed)
    · have read : ReadAs files paths season := mapM_eq_ok_iff.mp all
      split at failed
      case h_1 cause unranked =>
        cases failed
        exact .unranked season cause read unranked
      case h_2 standings ranked =>
        cases groups with
        | true =>
            obtain ⟨sheets, drawn⟩ := SheetBalances.exists_ofSheet (sheetFiles files paths)
              read.accepted ranked
            simp only [drawn] at failed
            cases failed
        | false => cases failed
  · intro failure
    cases failure with
    | unread before after path fault listed readBefore failed =>
        exact .inl ⟨before, path, after, listed, readBefore, readSheet_eq_error_iff.mpr failed⟩
    | unranked season cause read failed =>
        exact .inr ⟨season, mapM_eq_ok_iff.mpr read, by rw [failed]⟩

theorem outcome_balance_of_error (structured : Bool)
    (failed : balanceReport files paths groups = .error fault) :
    (balance files paths groups structured).outcome = { output := "", fault := some fault } := by
  rw [balance, failed]
  rfl

theorem outcome_balance_of_ok (structured : Bool)
    (drawn : balanceReport files paths groups = .ok report) :
    (balance files paths groups structured).outcome =
      { output := if structured then structuredText report.json else report.text } := by
  rw [balance, drawn]
  cases structured with
  | true => exact (Running.prints_print _).outcome_eq
  | false => exact report.prints_print.outcome_eq

theorem fault_balance_eq_some_iff (structured : Bool) :
    (balance files paths groups structured).outcome.fault = some fault ↔
      FirstFailure files paths fault := by
  rw [← balanceReport_eq_error_iff]
  cases drawn : balanceReport files paths groups with
  | ok report => rw [outcome_balance_of_ok structured drawn]; simp
  | error cause => rw [outcome_balance_of_error structured drawn]; simp

/-- The command prints the whole report of all sheets, or it fails with the first failure and
prints nothing.  Neither the balances of groups nor the form of the report change whether
it fails or how. -/
theorem balance_allOrNothing (files : FileView) (paths : List String) (groups structured : Bool) :
    ((∃ season report output, ReadAs files paths season ∧
        BalanceReport.Covers (sheetFiles files paths) season groups report ∧
        report.IsPrintedAs structured output ∧
        (balance files paths groups structured).outcome = { output }) ∨
      ∃ fault, FirstFailure files paths fault ∧
        (balance files paths groups structured).outcome =
          { output := "", fault := some fault }) ∧
    (∀ fault, (balance files paths groups structured).outcome.fault = some fault ↔
      FirstFailure files paths fault) ∧
    ∀ otherGroups otherStructured,
      (balance files paths otherGroups otherStructured).outcome.fault =
        (balance files paths groups structured).outcome.fault := by
  refine ⟨?_, fun fault => fault_balance_eq_some_iff structured, ?_⟩
  · cases drawn : balanceReport files paths groups with
    | ok report =>
        obtain ⟨season, read, covers⟩ := balanceReport_eq_ok_iff.mp drawn
        exact .inl ⟨season, report, _, read, covers, report.isPrintedAs structured,
          outcome_balance_of_ok structured drawn⟩
    | error fault =>
        have failure := balanceReport_eq_error_iff.mp drawn
        exact .inr ⟨fault, failure, outcome_balance_of_error structured drawn⟩
  · intro otherGroups otherStructured
    ext fault
    exact (fault_balance_eq_some_iff otherStructured).trans
      (fault_balance_eq_some_iff structured).symm

/-- A directory with the sheets of two evenings. -/
def eveningFiles : FileTree :=
  .directory [
    ("first.txt", .file ("2024-03-14 U Fleků \x7bhundred=add multiplier=2\x7d\n" ++
      "Pepa +k100 e\nFranta\nJarda -c\n").toUTF8),
    ("second.txt", .file ("2024-03-21 Doma\nFranta $:+k100\nPepa $:-k100\nEva\n\n" ++
      "Jarda +s-h\nEva\nPepa").toUTF8)]

/-- The balances of the two evenings and the standings after them. -/
def eveningsReport : BalanceReport where
  standings := [⟨"Franta", 380, 2⟩, ⟨"Pepa", 170, 2⟩, ⟨"Eva", -10, 1⟩, ⟨"Jarda", -540, 2⟩]
  sheets := some [
    ⟨"first.txt", "U Fleků", "2024-03-14", [[("Pepa", 220), ("Franta", 340), ("Jarda", -560)]]⟩,
    ⟨"second.txt", "Doma", "2024-03-21", [[("Franta", 40), ("Pepa", -40), ("Eva", 0)],
      [("Jarda", 20), ("Eva", -10), ("Pepa", -10)]]⟩]

theorem balanceReport_eveningFiles :
    balanceReport eveningFiles.find ["first.txt", "second.txt"] true = .ok eveningsReport := by
  have read : ReadAs eveningFiles.find ["first.txt", "second.txt"] [firstEvening, secondEvening] :=
    .cons (by decide +kernel) (.cons (by decide +kernel) .nil)
  refine balanceReport_eq_ok_iff.mpr ⟨_, read, .groups _ _ leaderboard_twoEvenings ?_⟩
  refine .cons ⟨rfl, rfl, rfl, ?_⟩ (.cons ⟨rfl, rfl, rfl, ?_⟩ .nil)
  · exact .cons (by decide +kernel) .nil
  · exact .cons (by decide +kernel) (.cons (by decide +kernel) .nil)

theorem balance_allOrNothing_evenings :
    (∀ structured, ∃ output, eveningsReport.IsPrintedAs structured output ∧
      (balance eveningFiles.find ["first.txt", "second.txt"] true structured).outcome =
        { output }) ∧
    (balance eveningFiles.find ["first.txt", "second.txt"] true false).outcome =
      { output := Output.onLines [
        "2024-03-14 U Fleků (first.txt)",
        " group 1",
        "  Pepa           2,20 Kč",
        "  Franta         3,40 Kč",
        "  Jarda         -5,60 Kč",
        "2024-03-21 Doma (second.txt)",
        " group 1",
        "  Franta         0,40 Kč",
        "  Pepa          -0,40 Kč",
        "  Eva            0,00 Kč",
        " group 2",
        "  Jarda         0,20 Kč",
        "  Eva          -0,10 Kč",
        "  Pepa         -0,10 Kč",
        "Leaderboard",
        "  Franta         3,80 Kč",
        "  Pepa           1,70 Kč",
        "  Eva           -0,10 Kč",
        "  Jarda         -5,40 Kč"] } := by
  constructor
  · intro structured
    obtain ⟨season, report, output, read, covers, printed, outcome⟩ | ⟨fault, failure, -⟩ :=
      (balance_allOrNothing eveningFiles.find ["first.txt", "second.txt"] true structured).1
    · have drawn := balanceReport_eq_ok_iff.mpr ⟨season, read, covers⟩
      rw [balanceReport_eveningFiles, Except.ok.injEq] at drawn
      exact ⟨output, drawn ▸ printed, outcome⟩
    · have unprinted := balanceReport_eveningFiles.symm.trans
        (balanceReport_eq_error_iff.mpr failure)
      cases unprinted
  · rw [outcome_balance_of_ok false balanceReport_eveningFiles]
    decide +kernel

end Command

end TrickLedger
