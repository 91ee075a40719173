import TrickLedger.Proofs.Scoring.Words
import TrickLedger.Proofs.Sheet.Check

/-!
# The first fault of a sheet

The check looks at the header, and then at one group after the other: at its size, at the
names of its players, at the stake and at the plays.  A fault is reported only if everything
that is looked at before it is in order.
-/

namespace TrickLedger

/-- The end of a written play, added up in words of 64 bits. -/
def WrittenPlay.endInWords (play : WrittenPlay) : Except WordFault Int :=
  (WordRange.unsigned 64).hold (play.start + play.code.length)

/-- The players have names of their own. -/
def NamedApart (members : List Member) : Prop :=
  (∀ member ∈ members, member.name ≠ "") ∧ (members.map Member.name).Nodup

/-- Everything in a group that is looked at before the fault is in order. -/
inductive Group.FirstFault (stake number : Nat) (group : Group) : SheetFault → Prop
  | tooSmall (small : group.size < fewestPlayers) :
      FirstFault stake number group (.groupTooSmall number group.size
        ((group.members.head?.map Member.start).getD 0))
  | emptyName (before after : List Member) (member : Member)
      (enough : fewestPlayers ≤ group.size) (members : group.members = before ++ member :: after)
      (named : NamedApart before) (unnamed : member.name = "") :
      FirstFault stake number group (.emptyName number member.start)
  | repeatedName (before after : List Member) (member : Member)
      (enough : fewestPlayers ≤ group.size) (members : group.members = before ++ member :: after)
      (named : NamedApart before) (repeated : member.name ∈ before.map Member.name) :
      FirstFault stake number group (.repeatedName number member.name member.start)
  | zeroStake (enough : fewestPlayers ≤ group.size) (named : NamedApart group.members)
      (unstaked : stake = 0) :
      FirstFault stake number group (.unscorableGroup number .zeroStake)
  | invalidPlay (before after : List Member) (member : Member)
      (played later : List WrittenPlay) (written : WrittenPlay) (cause : PlayFault)
      (enough : fewestPlayers ≤ group.size) (named : NamedApart group.members)
      (staked : 0 < stake) (members : group.members = before ++ member :: after)
      (readable : ∀ other ∈ before, other.Readable)
      (plays : member.plays = played ++ written :: later)
      (read : ∀ play ∈ played, ∃ result, Play.ofCode play.code = .ok result)
      (refused : Play.ofCode written.code = .error cause) :
      FirstFault stake number group (.invalidPlay number member.name (played.length + 1)
        ⟨written.start, written.start + written.code.length⟩ cause)

namespace Sheet

/-- Everything on a sheet that is looked at before the fault is in order. -/
inductive FirstFault (sheet : Sheet) : SheetFault → Prop
  | emptyPlace (unplaced : sheet.place = "") : FirstFault sheet .emptyPlace
  | invalidDate (placed : sheet.place ≠ "") (undated : sheet.date = none) :
      FirstFault sheet (.invalidDate sheet.rawDate)
  | group (before after : List Group) (group : Group) (fault : SheetFault)
      (placed : sheet.place ≠ "") (dated : sheet.date.isSome)
      (groups : sheet.groups = before ++ group :: after)
      (sound : ∀ other ∈ before, other.Sound ∧ 0 < sheet.rules.stake)
      (first : group.FirstFault sheet.rules.stake (before.length + 1) fault) :
      FirstFault sheet fault

/-- Words of 64 bits hold the offset at which each play ends. -/
def OffsetsFit (sheet : Sheet) : Prop :=
  ∀ member ∈ sheet.members, ∀ written ∈ member.plays,
    written.start + written.code.length < 2 ^ 64

instance (sheet : Sheet) : Decidable sheet.OffsetsFit := by
  unfold OffsetsFit
  infer_instance

end Sheet

variable {rules : ScoringRules} {sheet : Sheet} {group : Group} {member : Member}
  {fault : SheetFault} {number : Nat}

/-- The first item in a numbered list for which something is found, and its number. -/
theorem findSome?_zipIdx_eq_some_iff {α β : Type} {find : α × Nat → Option β} {found : β}
    (items : List α) (start : Nat) :
    (items.zipIdx start).findSome? find = some found ↔
      ∃ before item after, items = before ++ item :: after ∧
        find (item, start + before.length) = some found ∧
        ∀ pair ∈ before.zipIdx start, find pair = none := by
  rw [List.findSome?_eq_some_iff]
  constructor
  · rintro ⟨front, ⟨item, _⟩, rest, numbered, hit, missed⟩
    obtain ⟨before, others, rfl, rfl, behind⟩ := List.zipIdx_eq_append_iff.mp numbered
    obtain ⟨_, after, rfl, same, -⟩ := List.zipIdx_eq_cons_iff.mp behind.symm
    cases same
    exact ⟨before, item, after, rfl, hit, missed⟩
  · rintro ⟨before, item, after, rfl, hit, missed⟩
    refine ⟨before.zipIdx start, _, after.zipIdx (start + before.length + 1), ?_, hit, missed⟩
    rw [List.zipIdx_append, List.zipIdx_cons]

/-! ### The names of a group -/

theorem NamedApart.ne_empty {members : List Member} (named : NamedApart members) {name : String}
    (known : name ∈ members.map Member.name) : name ≠ "" := by
  obtain ⟨member, seated, rfl⟩ := List.mem_map.mp known
  exact named.1 member seated

/-- The players in front of a refused name have names of their own. -/
theorem exists_of_nameFault? {earlier : List String} {members : List Member}
    (found : nameFault? number earlier members = some fault) :
    ∃ before member after, members = before ++ member :: after ∧
      nameFault? number earlier before = none ∧
      (member.name = "" ∧ fault = .emptyName number member.start ∨
        member.name ∈ earlier ++ before.map Member.name ∧
          fault = .repeatedName number member.name member.start) := by
  induction members generalizing earlier with
  | nil => cases found
  | cons member members ih =>
      rw [nameFault?] at found
      by_cases unnamed : member.name = ""
      · rw [if_pos (by simp [unnamed])] at found
        cases found
        exact ⟨[], member, members, rfl, rfl, .inl ⟨unnamed, rfl⟩⟩
      rw [if_neg (by simpa using unnamed)] at found
      by_cases known : member.name ∈ earlier
      · rw [if_pos known] at found
        cases found
        exact ⟨[], member, members, rfl, rfl, .inr ⟨by simp [known], rfl⟩⟩
      rw [if_neg known] at found
      obtain ⟨before, other, after, rfl, faultless, refused⟩ := ih found
      refine ⟨member :: before, other, after, rfl, ?_, ?_⟩
      · simp [nameFault?, unnamed, known, faultless]
      · rcases refused with empty | ⟨repeated, rfl⟩
        · exact .inl empty
        · refine .inr ⟨?_, rfl⟩
          simp only [List.mem_append, List.mem_cons, List.map_cons] at repeated ⊢
          tauto

theorem nameFault?_append {before : List Member} (earlier : List String) (members : List Member)
    (faultless : nameFault? number earlier before = none) :
    nameFault? number earlier (before ++ members) =
      nameFault? number ((before.map Member.name).reverse ++ earlier) members := by
  induction before generalizing earlier with
  | nil => rfl
  | cons member before ih =>
      rw [nameFault?] at faultless
      split_ifs at faultless with unnamed known
      rw [List.cons_append, nameFault?, if_neg unnamed, if_neg known, ih _ faultless]
      simp

theorem nameFault?_none_iff_namedApart (members : List Member) :
    nameFault? number [] members = none ↔ NamedApart members := by
  simp [nameFault?_eq_none_iff, NamedApart]

theorem nameFault?_eq_some_iff (members : List Member) :
    nameFault? number [] members = some fault ↔
      ∃ before member after, members = before ++ member :: after ∧ NamedApart before ∧
        (member.name = "" ∧ fault = .emptyName number member.start ∨
          member.name ∈ before.map Member.name ∧
            fault = .repeatedName number member.name member.start) := by
  constructor
  · intro found
    obtain ⟨before, member, after, rfl, faultless, refused⟩ := exists_of_nameFault? found
    refine ⟨before, member, after, rfl, (nameFault?_none_iff_namedApart before).mp faultless, ?_⟩
    simpa using refused
  · rintro ⟨before, member, after, rfl, named, refused⟩
    rw [nameFault?_append [] _ ((nameFault?_none_iff_namedApart before).mpr named), nameFault?]
    rcases refused with ⟨unnamed, rfl⟩ | ⟨repeated, rfl⟩
    · simp [unnamed]
    · rw [if_neg (by simpa using named.ne_empty repeated), if_pos (by simpa using repeated)]

/-! ### The plays of a group -/

theorem Member.playFault?_eq_some_iff :
    member.playFault? number = some fault ↔
      ∃ played written later cause, member.plays = played ++ written :: later ∧
        (∀ play ∈ played, ∃ result, Play.ofCode play.code = .ok result) ∧
        Play.ofCode written.code = .error cause ∧
        fault = .invalidPlay number member.name (played.length + 1) written.span cause := by
  rw [Member.playFault?, findSome?_zipIdx_eq_some_iff]
  have passed (played : List WrittenPlay) :=
    Member.playFault?_eq_none_iff { member with plays := played } number
  simp only [Member.playFault?, List.findSome?_eq_none_iff] at passed
  constructor
  · rintro ⟨played, written, later, plays, refused, read⟩
    cases outcome : Play.ofCode written.code with
    | ok result => simp [outcome] at refused
    | error cause =>
        simp only [outcome, Option.some.injEq] at refused
        exact ⟨played, written, later, cause, plays, (passed played).mp read, outcome,
          by rw [← refused, Nat.add_comm]⟩
  · rintro ⟨played, written, later, cause, plays, read, refused, rfl⟩
    exact ⟨played, written, later, plays, by simp [refused, Nat.add_comm], (passed played).mpr read⟩

/-! ### A group and the sheet -/

theorem Group.start_eq (group : Group) :
    group.start = (group.members.head?.map Member.start).getD 0 := by
  unfold Group.start
  cases group.members <;> rfl

/-- The refusals are met in the order of the constructors. -/
theorem Group.firstFault_of_fault? (found : group.fault? rules number = some fault) :
    group.FirstFault rules.stake number fault := by
  rw [Group.fault?] at found
  by_cases small : group.size < fewestPlayers
  · rw [if_pos small, Option.some.injEq] at found
    rw [← found, start_eq]
    exact .tooSmall small
  rw [if_neg small] at found
  have enough := Nat.not_lt.mp small
  cases names : nameFault? number [] group.members with
  | some nameFault =>
      simp only [names, Option.some.injEq] at found
      subst found
      obtain ⟨before, member, after, members, named, ⟨unnamed, rfl⟩ | ⟨repeated, rfl⟩⟩ :=
        (nameFault?_eq_some_iff group.members).mp names
      · exact .emptyName before after member enough members named unnamed
      · exact .repeatedName before after member enough members named repeated
  | none =>
      have named := (nameFault?_none_iff_namedApart group.members).mp names
      rcases Nat.eq_zero_or_pos rules.stake with unstaked | staked
      · simp only [names, Table.make, enough, unstaked, lt_irrefl, dite_true, dite_false,
          Option.some.injEq] at found
        subst found
        exact .zeroStake enough named unstaked
      · simp only [names, Table.make, enough, staked, dite_true] at found
        obtain ⟨before, member, after, members, refused, readable⟩ :=
          List.findSome?_eq_some_iff.mp found
        obtain ⟨played, written, later, cause, plays, read, unread, rfl⟩ :=
          Member.playFault?_eq_some_iff.mp refused
        exact .invalidPlay before after member played later written cause enough named staked
          members (fun other seated => (other.playFault?_eq_none_iff number).mp
            (readable other seated)) plays read unread

theorem Group.FirstFault.fault? (first : group.FirstFault rules.stake number fault) :
    group.fault? rules number = some fault := by
  rw [Group.fault?]
  cases first with
  | tooSmall small => rw [if_pos small, start_eq]
  | emptyName before after member enough members named unnamed =>
      rw [if_neg (Nat.not_lt.mpr enough), (nameFault?_eq_some_iff group.members).mpr
        ⟨before, member, after, members, named, .inl ⟨unnamed, rfl⟩⟩]
  | repeatedName before after member enough members named repeated =>
      rw [if_neg (Nat.not_lt.mpr enough), (nameFault?_eq_some_iff group.members).mpr
        ⟨before, member, after, members, named, .inr ⟨repeated, rfl⟩⟩]
  | zeroStake enough named unstaked =>
      rw [if_neg (Nat.not_lt.mpr enough), (nameFault?_none_iff_namedApart _).mpr named]
      simp [Table.make, enough, unstaked]
  | invalidPlay before after member played later written cause enough named staked members
      readable plays read refused =>
      rw [if_neg (Nat.not_lt.mpr enough), (nameFault?_none_iff_namedApart _).mpr named]
      simp only [Table.make, enough, staked, dite_true]
      refine List.findSome?_eq_some_iff.mpr ⟨before, member, after, members, ?_,
        fun other seated => (other.playFault?_eq_none_iff number).mpr (readable other seated)⟩
      exact Member.playFault?_eq_some_iff.mpr
        ⟨played, written, later, cause, plays, read, refused, rfl⟩

namespace Sheet

theorem fault?_eq_some_iff : sheet.fault? = some fault ↔ sheet.FirstFault fault := by
  rw [fault?]
  constructor
  · intro found
    by_cases unplaced : sheet.place = ""
    · rw [if_pos (by simp [unplaced]), Option.some.injEq] at found
      exact found ▸ .emptyPlace unplaced
    rw [if_neg (by simpa using unplaced)] at found
    cases date : sheet.date with
    | none =>
        simp only [date, Option.isNone_none, if_true, Option.some.injEq] at found
        exact found ▸ .invalidDate unplaced date
    | some day =>
        simp only [date, Option.isNone_some, Bool.false_eq_true, if_false] at found
        obtain ⟨before, group, after, groups, refused, sound⟩ :=
          (findSome?_zipIdx_eq_some_iff sheet.groups 1).mp found
        rw [Nat.add_comm] at refused
        refine .group before after group fault unplaced (by simp [date]) groups ?_
          (Group.firstFault_of_fault? refused)
        exact (forall_mem_zipIdx_iff before 1).mp fun pair numbered =>
          (pair.1.fault?_eq_none_iff pair.2).mp (sound pair numbered)
  · intro first
    cases first with
    | emptyPlace unplaced => simp [unplaced]
    | invalidDate placed undated => simp [placed, undated]
    | group before after group fault placed dated groups sound first =>
        rw [if_neg (by simpa using placed),
          if_neg (by simpa [Option.isSome_iff_ne_none] using dated)]
        refine (findSome?_zipIdx_eq_some_iff sheet.groups 1).mpr
          ⟨before, group, after, groups, ?_, fun pair numbered => ?_⟩
        · rw [Nat.add_comm]
          exact first.fault?
        · exact (pair.1.fault?_eq_none_iff pair.2).mpr
            ((forall_mem_zipIdx_iff before 1).mpr sound pair numbered)

theorem check_eq_error_iff : sheet.check = .error fault ↔ sheet.fault? = some fault := by
  unfold check
  cases sheet.fault? <;> simp

/-- The check lets exactly the sound sheets pass.  It reports exactly the first fault of any
other sheet, as long as words hold the offsets at which plays end: plays made by hand may end
beyond them, and then the end of a refused play has no word. -/
theorem check_ok_iff_and_error_iff (sheet : Sheet) :
    (sheet.check = .ok () ↔ sheet.Sound) ∧
      (sheet.OffsetsFit →
        (∀ member ∈ sheet.members, ∀ written ∈ member.plays,
          written.endInWords = .ok (written.span.stop : Int)) ∧
        ∀ fault, sheet.check = .error fault ↔ sheet.FirstFault fault) := by
  refine ⟨check_eq_ok_iff_sound, fun fits => ⟨fun member seated written listed => ?_, ?_⟩⟩
  · exact WordRange.hold_unsigned (fits member seated written listed)
  · exact fun fault => check_eq_error_iff.trans fault?_eq_some_iff

/-- A sheet made by hand with several faults.  The first one is a play that ends at the
greatest offset. -/
def farPlays : Sheet where
  date := some ⟨2024, 5, 2, by decide⟩
  rawDate := "2.5.2024"
  place := "U Fleků"
  groups := [
    ⟨[⟨"Pepa", 19, [⟨"e", 24⟩]⟩, ⟨"Franta", 26, []⟩, ⟨"Jarda", 33, []⟩]⟩,
    ⟨[⟨"Eva", 40, []⟩, ⟨"Pepa", 44, [⟨"+c", 49⟩, ⟨"+c*", 2 ^ 64 - 4⟩]⟩, ⟨"Jarda", 52, [⟨"", 0⟩]⟩]⟩,
    ⟨[⟨"", 58, []⟩]⟩]

theorem check_ok_iff_and_error_iff_farPlays :
    farPlays.OffsetsFit ∧ ¬farPlays.Sound ∧
      farPlays.FirstFault
        (.invalidPlay 2 "Pepa" 2 ⟨2 ^ 64 - 4, 2 ^ 64 - 1⟩ .betterSuitNotAllowed) := by
  have fits : farPlays.OffsetsFit := by decide +kernel
  have refused : farPlays.check =
      .error (.invalidPlay 2 "Pepa" 2 ⟨2 ^ 64 - 4, 2 ^ 64 - 1⟩ .betterSuitNotAllowed) := by
    decide +kernel
  obtain ⟨passes, reports⟩ := check_ok_iff_and_error_iff farPlays
  refine ⟨fits, fun sound => ?_, ((reports fits).2 _).mp refused⟩
  rw [passes.mpr sound] at refused
  cases refused

end Sheet

end TrickLedger
