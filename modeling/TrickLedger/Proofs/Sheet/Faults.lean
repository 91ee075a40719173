import TrickLedger.Proofs.Scanning.Faults
import TrickLedger.Proofs.Sheet.FirstFault

/-!
# Why a sheet is refused

A text is refused by the scanner, for an option or by the check of the sheet, and each
fault of the check names the group, the player and the play that it was found at.
-/

namespace TrickLedger

variable {rules : ScoringRules} {sheet : Sheet} {group : Group} {fault : SheetFault} {number : Nat}

theorem ScoringRules.exists_of_applySettings {settings : List Setting}
    (refused : rules.applySettings settings = .error fault) :
    ∃ known setting others, settings = known ++ setting :: others ∧
      fault = .unknownSetting setting.text setting.start := by
  induction settings generalizing rules with
  | nil => cases refused
  | cons setting settings ih =>
      rw [applySettings] at refused
      split at refused
      case h_1 next step =>
        obtain ⟨known, unknown, others, rfl, found⟩ := ih refused
        exact ⟨setting :: known, unknown, others, rfl, found⟩
      case h_2 =>
        cases refused
        exact ⟨[], setting, settings, rfl, rfl⟩

/-- What can be wrong with a group under rules with a positive stake. -/
inductive GroupFault (number : Nat) (group : Group) : SheetFault → Prop
  | tooSmall (small : group.size < fewestPlayers) :
      GroupFault number group (.groupTooSmall number group.size group.start)
  | emptyName (member : Member) (seated : member ∈ group.members) (unnamed : member.name = "") :
      GroupFault number group (.emptyName number member.start)
  | repeatedName (before after : List Member) (member : Member)
      (members : group.members = before ++ member :: after) (named : member.name ≠ "")
      (distinct : (before.map Member.name).Nodup)
      (repeated : member.name ∈ before.map Member.name) :
      GroupFault number group (.repeatedName number member.name member.start)
  | invalidPlay (member : Member) (index : Nat) (written : WrittenPlay) (cause : PlayFault)
      (seated : member ∈ group.members) (made : member.plays[index]? = some written)
      (refused : Play.ofCode written.code = .error cause) :
      GroupFault number group (.invalidPlay number member.name (index + 1) written.span cause)

theorem Group.FirstFault.groupFault {stake : Nat} (staked : 0 < stake)
    (first : group.FirstFault stake number fault) : GroupFault number group fault := by
  cases first with
  | tooSmall small =>
      rw [← group.start_eq]
      exact .tooSmall small
  | emptyName before after member enough members named unnamed =>
      exact .emptyName member (by simp [members]) unnamed
  | repeatedName before after member enough members named repeated =>
      exact .repeatedName before after member members (named.ne_empty repeated) named.2 repeated
  | zeroStake enough named unstaked => omega
  | invalidPlay before after member played later written cause enough named staked members readable
      plays read refused =>
      exact .invalidPlay member played.length written cause (by simp [members]) (by simp [plays])
        refused

/-- The fault of a sheet with rules is that of its header or of one of its groups. -/
theorem Sheet.exists_of_fault? (staked : 0 < sheet.rules.stake)
    (found : sheet.fault? = some fault) :
    (sheet.place = "" ∧ fault = .emptyPlace) ∨
      (sheet.place ≠ "" ∧ fault = .invalidDate sheet.rawDate) ∨
      ∃ index group, sheet.place ≠ "" ∧ sheet.groups[index]? = some group ∧
        GroupFault (index + 1) group fault := by
  cases fault?_eq_some_iff.mp found with
  | emptyPlace unplaced => exact .inl ⟨unplaced, rfl⟩
  | invalidDate placed undated => exact .inr (.inl ⟨placed, rfl⟩)
  | group before after group fault placed dated groups sound first =>
      exact .inr (.inr ⟨before.length, group, placed, by simp [groups], first.groupFault staked⟩)

namespace Sheet

variable {text : String}

theorem exists_of_ofText (refused : ofText text = .error fault) :
    Lines.tokens text = .error fault ∨
      ∃ found, Lines.tokens text = .ok found ∧
        (ScoringRules.ofSettings (ofTokens found).settings = .error fault ∨
          ∃ rules, ScoringRules.ofSettings (ofTokens found).settings = .ok rules ∧
            { ofTokens found with rules }.fault? = some fault) := by
  rw [ofText] at refused
  split at refused
  case isTrue => cases refused
  case isFalse =>
    simp only [draftOf, Token.ofText, Scanner.run_text, bind_eq_error_iff, bind_eq_ok_iff,
      Except.ok.injEq, reduceCtorEq, and_false, or_false, exists_false] at refused
    rcases refused with scan | ⟨_, ⟨found, scan, rfl⟩, unknown | ⟨rules, known, checked⟩⟩
    · exact .inl scan
    · exact .inr ⟨found, scan, .inl unknown⟩
    · exact .inr ⟨found, scan, .inr ⟨rules, known, check_eq_error_iff.mp checked⟩⟩

theorem ofText_ne_unscorableGroup (text : String) (number : Nat) (cause : RulesFault) :
    ofText text ≠ .error (.unscorableGroup number cause) := by
  intro refused
  rcases exists_of_ofText refused with scan | ⟨found, -, unknown | ⟨rules, known, checked⟩⟩
  · cases Lines.scanFault_of_tokens scan
  · obtain ⟨_, _, _, -, fault⟩ := ScoringRules.exists_of_applySettings unknown
    cases fault
  · have staked := ScoringRules.stake_pos_of_ofSettings known
    rcases exists_of_fault? staked checked with ⟨-, fault⟩ | ⟨-, fault⟩ | ⟨_, _, -, -, fault⟩
    all_goals cases fault

end Sheet

end TrickLedger
