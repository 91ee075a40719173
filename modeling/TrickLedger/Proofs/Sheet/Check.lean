import TrickLedger.Proofs.Balance.Group
import TrickLedger.Sheet.Reader

/-!
# What the check of a sheet asks for

A sheet passes the check exactly if it has a place and a date and each of its groups
can be scored.  The numbers of the groups and plays only matter for the report of a fault.
-/

namespace TrickLedger

theorem forall_mem_zipIdx_iff {α : Type} {property : α → Prop} (items : List α) (start : Nat) :
    (∀ pair ∈ items.zipIdx start, property pair.1) ↔ ∀ item ∈ items, property item := by
  rw [← List.forall_mem_map (f := Prod.fst) (P := property), List.zipIdx_map_fst]

variable {rules : ScoringRules} {sheet : Sheet}

theorem nameFault?_eq_none_iff (number : Nat) (earlier : List String) (members : List Member) :
    nameFault? number earlier members = none ↔
      (∀ member ∈ members, member.name ≠ "" ∧ member.name ∉ earlier) ∧
        (members.map Member.name).Nodup := by
  induction members generalizing earlier with
  | nil => simp [nameFault?]
  | cons member members ih =>
      rw [nameFault?, List.forall_mem_cons, List.map_cons, List.nodup_cons]
      by_cases unnamed : member.name = ""
      · simp [unnamed]
      by_cases known : member.name ∈ earlier
      · simp [unnamed, known]
      have distinct : member.name ∉ members.map Member.name ↔
          ∀ other ∈ members, other.name ≠ member.name := by
        simp
      have others : (∀ other ∈ members, other.name ≠ "" ∧ other.name ∉ member.name :: earlier) ↔
          (∀ other ∈ members, other.name ≠ "" ∧ other.name ∉ earlier) ∧
            ∀ other ∈ members, other.name ≠ member.name := by
        simp only [List.mem_cons, not_or, ← forall_and]
        exact forall_congr' fun other => by tauto
      simp only [String.isEmpty_iff, unnamed, known, if_false, ih, others, distinct]
      tauto

theorem Member.playFault?_eq_none_iff (member : Member) (number : Nat) :
    member.playFault? number = none ↔ member.Readable := by
  rw [Member.playFault?, List.findSome?_eq_none_iff, Member.Readable,
    ← forall_mem_zipIdx_iff member.plays 1]
  apply forall₂_congr
  rintro ⟨play, number⟩ -
  cases read : Play.ofCode play.code <;> simp [read]

/-- A group that can be scored: enough players with names of their own and plays that
are read. -/
structure Group.Sound (group : Group) : Prop where
  enough : fewestPlayers ≤ group.size
  named : ∀ member ∈ group.members, member.name ≠ ""
  distinct : (group.members.map Member.name).Nodup
  readable : group.Readable

theorem Group.fault?_eq_none_iff (group : Group) (number : Nat) :
    group.fault? rules number = none ↔ group.Sound ∧ 0 < rules.stake := by
  unfold Group.fault?
  by_cases enough : fewestPlayers ≤ group.size
  · rw [if_neg (Nat.not_lt.mpr enough)]
    cases names : nameFault? number [] group.members with
    | some fault =>
        refine ⟨fun faultless => absurd faultless (by simp), fun ⟨sound, _⟩ => ?_⟩
        rw [(nameFault?_eq_none_iff number [] group.members).mpr
          ⟨fun member seated => ⟨sound.named member seated, by simp⟩, sound.distinct⟩] at names
        cases names
    | none =>
        obtain ⟨named, distinct⟩ := (nameFault?_eq_none_iff number [] group.members).mp names
        by_cases staked : 0 < rules.stake
        · have table : Table.make group.size rules = .ok ⟨group.size, rules, enough, staked⟩ := by
            simp [Table.make, enough, staked]
          simp only [table, List.findSome?_eq_none_iff, Member.playFault?_eq_none_iff]
          exact ⟨fun readable => ⟨⟨enough, fun member seated => (named member seated).1, distinct,
            readable⟩, staked⟩, fun ⟨sound, _⟩ => sound.readable⟩
        · simp [Table.make, enough, staked]
  · rw [if_pos (Nat.not_le.mp enough)]
    exact ⟨fun faultless => absurd faultless (by simp),
      fun ⟨sound, _⟩ => absurd sound.enough enough⟩

/-- A sheet with a place and a date whose groups can be scored by its rules. -/
structure Sheet.Sound (sheet : Sheet) : Prop where
  placed : sheet.place ≠ ""
  dated : sheet.date.isSome
  groups : ∀ group ∈ sheet.groups, group.Sound ∧ 0 < sheet.rules.stake

theorem Sheet.fault?_eq_none_iff : sheet.fault? = none ↔ sheet.Sound := by
  rw [Sheet.fault?]
  by_cases unplaced : sheet.place = ""
  · simp [unplaced, show ¬ sheet.Sound from fun sound => sound.placed unplaced]
  rw [if_neg (by simpa using unplaced)]
  cases date : sheet.date with
  | none => simp [show ¬ sheet.Sound from fun sound => by simpa [date] using sound.dated]
  | some day =>
      simp only [Option.isNone_some, Bool.false_eq_true, if_false, List.findSome?_eq_none_iff,
        Group.fault?_eq_none_iff]
      exact (forall_mem_zipIdx_iff sheet.groups 1).trans
        ⟨fun groups => ⟨unplaced, by simp [date], groups⟩, Sound.groups⟩

theorem Sheet.check_eq_ok_iff_sound : sheet.check = .ok () ↔ sheet.Sound := by
  rw [← fault?_eq_none_iff, check]
  cases sheet.fault? <;> simp

/-- A sheet with a positive stake passes the check if it has a place, a date and groups
that can be scored, and not otherwise. -/
theorem Sheet.check_eq_ok_iff (staked : 0 < sheet.rules.stake) :
    sheet.check = .ok () ↔
      sheet.place ≠ "" ∧ sheet.date.isSome ∧ ∀ group ∈ sheet.groups, group.Sound := by
  rw [check_eq_ok_iff_sound]
  exact ⟨fun ⟨placed, dated, groups⟩ => ⟨placed, dated, fun group listed =>
      (groups group listed).1⟩,
    fun ⟨placed, dated, groups⟩ => ⟨placed, dated, fun group listed =>
      ⟨groups group listed, staked⟩⟩⟩

/-! ### The stake of a sheet -/

theorem Setting.stake_pos_of_rulesAfter? {text : String} {next : ScoringRules}
    (known : Setting.rulesAfter? rules text = some next) (staked : 0 < rules.stake) :
    0 < next.stake := by
  unfold Setting.rulesAfter? at known
  obtain ⟨⟨key, value⟩, -, known⟩ := Option.bind_eq_some_iff.mp known
  simp only at known
  split at known
  case isTrue =>
    obtain ⟨hundred, -, rfl⟩ := Option.map_eq_some_iff.mp known
    exact staked
  case isFalse =>
    split at known
    case isTrue =>
      obtain ⟨stake, read, rfl⟩ := Option.map_eq_some_iff.mp known
      have allowed : stake ∈ sheetStakes := by simpa using (Option.filter_eq_some_iff.mp read).2
      simp only [sheetStakes, List.mem_cons, List.not_mem_nil, or_false] at allowed
      show 0 < stake
      omega
    case isFalse => cases known

theorem ScoringRules.stake_pos_of_applySettings {settings : List Setting} {next : ScoringRules}
    (known : rules.applySettings settings = .ok next) (staked : 0 < rules.stake) :
    0 < next.stake := by
  induction settings generalizing rules with
  | nil =>
      cases known
      exact staked
  | cons setting settings ih =>
      rw [applySettings] at known
      split at known
      case h_1 after step => exact ih known (Setting.stake_pos_of_rulesAfter? step staked)
      case h_2 => cases known

/-- No option makes the stake zero. -/
theorem ScoringRules.stake_pos_of_ofSettings {settings : List Setting}
    (known : ScoringRules.ofSettings settings = .ok rules) : 0 < rules.stake :=
  stake_pos_of_applySettings known (by decide)

/-- The groups of a sheet that was read can be scored by its rules. -/
theorem Sheet.sound_of_ofText {text : String} (read : Sheet.ofText text = .ok sheet) :
    0 < sheet.rules.stake ∧ ∀ group ∈ sheet.groups, group.Sound := by
  unfold Sheet.ofText at read
  split at read
  case isTrue =>
    cases read
    exact ⟨by decide, by simp⟩
  case isFalse =>
    obtain ⟨draft, -, read⟩ := bind_eq_ok_iff.mp read
    obtain ⟨rules, known, read⟩ := bind_eq_ok_iff.mp read
    obtain ⟨_, checked, same⟩ := bind_eq_ok_iff.mp read
    cases same
    have staked := ScoringRules.stake_pos_of_ofSettings known
    exact ⟨staked, ((Sheet.check_eq_ok_iff staked).mp checked).2.2⟩

end TrickLedger
