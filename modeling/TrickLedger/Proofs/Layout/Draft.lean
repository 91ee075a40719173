import TrickLedger.Proofs.Layout.Sheet
import TrickLedger.Proofs.Scanning.Places

/-!
# Drafts in their texts

Also a sheet that is refused has its words in the text: the options stand on the first
line and every player on a line of their own, in the order of the lines.
-/

namespace TrickLedger

open Lines

variable {letters : List Placed} {line header : Line} {lines : List Line} {member : Member}
  {words : List (String × Nat)} {rawDate place : String} {settings : List Setting} {text : String}

theorem exists_of_forall₂ {α β : Type} {related : α → β → Prop} {first : List α} {second : List β}
    (pairs : List.Forall₂ related first second) {item : α} (member : item ∈ first) :
    ∃ other ∈ second, related item other := by
  induction pairs with
  | nil => cases member
  | cons pair pairs ih =>
      rcases List.mem_cons.mp member with rfl | later
      · exact ⟨_, .head _, pair⟩
      · obtain ⟨other, found, related⟩ := ih later
        exact ⟨other, .tail _ found, related⟩

/-! ### Words -/

theorem Spells.text_ne_empty {word : List Placed} {marked : String} {start : Nat}
    (spelled : Spells word marked start) : marked ≠ "" := by
  intro empty
  have none := spelled.toList_eq
  rw [empty, String.toList_empty, eq_comm, List.map_eq_nil_iff] at none
  exact spelled.ne_nil none

theorem WordsLaidOut.exists_infix (laidOut : WordsLaidOut words letters) {entry : String × Nat}
    (member : entry ∈ words) : ∃ word, word <:+: letters ∧ Spells word entry.1 entry.2 := by
  induction laidOut with
  | none => cases member
  | word gap word after text start words separators spelled ends more ih =>
      rcases List.mem_cons.mp member with rfl | later
      · exact ⟨word, List.infix_append gap word after, spelled⟩
      · obtain ⟨other, stands, spells⟩ := ih later
        exact ⟨other, stands.trans (List.suffix_append _ after).isInfix, spells⟩

theorem HeaderLaidOut.exists_infix (laidOut : HeaderLaidOut rawDate place settings letters)
    {setting : Setting} (member : setting ∈ settings) :
    ∃ word, word <:+: letters ∧ Spells word setting.text setting.start := by
  obtain ⟨before, date, _, separator, -, -, -, front, run, trail, options, -, -, -, options⟩ :=
    laidOut
  cases options with
  | absent => cases member
  | braces settings opening closing inside after opens closes words separators =>
      obtain ⟨word, stands, spelled⟩ :=
        words.exists_infix (List.mem_map_of_mem (f := Setting.word) member)
      refine ⟨word, stands.trans ?_, spelled⟩
      exact ⟨before ++ date ++ separator :: (front ++ run ++ trail ++ [opening]),
        closing :: after, by simp⟩

/-! ### Lines of players -/

theorem exists_cons_of_not_isGap (notBlank : ¬IsGap letters) :
    ∃ placed run, letters = placed :: run := by
  apply List.exists_cons_of_ne_nil
  rintro rfl
  exact notBlank (by simp [IsGap])

namespace Member.LaidOut

variable (laidOut : member.LaidOut letters)

include laidOut

theorem startOf_eq : startOf letters 0 = member.start := by
  obtain ⟨name, after, -, start, -, -⟩ := laidOut
  exact start

theorem starts_name : ∃ name others, letters = name ++ others ∧ textOf name = member.name := by
  obtain ⟨name, after, spelled, -, -, -⟩ := laidOut
  exact ⟨name, after, rfl, spelled⟩

theorem starts_separator (unnamed : member.name = "") (notBlank : ¬IsGap letters) :
    ∃ separator run, letters = separator :: run ∧ separator.isSeparator = true := by
  obtain ⟨name, after, spelled, -, ends, -⟩ := laidOut
  rw [unnamed] at spelled
  obtain rfl : name = [] := by simpa [textOf] using spelled
  obtain ⟨separator, run, rfl⟩ := exists_cons_of_not_isGap notBlank
  exact ⟨separator, run, rfl, ends separator rfl⟩

theorem exists_infix {play : WrittenPlay} (made : play ∈ member.plays) :
    ∃ word, word <:+: letters ∧ Spells word play.code play.start := by
  obtain ⟨name, after, -, -, -, plays⟩ := laidOut
  obtain ⟨word, stands, spelled⟩ :=
    plays.exists_infix (List.mem_map_of_mem (f := WrittenPlay.word) made)
  exact ⟨word, stands.trans (List.suffix_append name after).isInfix, spelled⟩

end Member.LaidOut

/-- The lines that are not blank. -/
def inhabited (lines : List Line) : List Line :=
  lines.filter fun line => !line.letters.all Placed.isSeparator

theorem inhabited_cons_blank (separators : IsGap line.letters) :
    inhabited (line :: lines) = inhabited lines := by
  simp [inhabited, all_isSeparator_iff.mpr separators]

theorem inhabited_cons (notBlank : ¬IsGap line.letters) :
    inhabited (line :: lines) = line :: inhabited lines := by
  rw [← all_isSeparator_iff, Bool.not_eq_true] at notBlank
  simp [inhabited, notBlank]

theorem mem_inhabited_iff : line ∈ inhabited lines ↔ line ∈ lines ∧ ¬IsGap line.letters := by
  rw [inhabited, List.mem_filter, ← all_isSeparator_iff, Bool.not_eq_true, Bool.not_eq_true']

theorem flatMap_closing (members : List Member) (groups : List Group) :
    (closing members groups).flatMap Group.members =
      members ++ groups.flatMap Group.members := by
  cases members <;> rfl

/-- Players stand on the lines that are not blank, one on each. -/
def OnLines (members : List Member) (lines : List Line) : Prop :=
  List.Forall₂ (fun member line => member.LaidOut line.letters) members (inhabited lines)

theorem LinesAssembled.onLines {members : List Member} {groups : List Group}
    (assembled : LinesAssembled lines members groups) :
    OnLines (members ++ groups.flatMap Group.members) lines := by
  induction assembled with
  | nil => exact .nil
  | blank line lines members groups separators more ih =>
      rw [OnLines, inhabited_cons_blank separators, List.nil_append, flatMap_closing]
      exact ih
  | member line lines member members groups notBlank laidOut scanned more ih =>
      rw [OnLines, inhabited_cons notBlank]
      exact .cons laidOut ih

namespace OnLines

variable {members : List Member}

theorem exists_line (onLines : OnLines members lines) (seated : member ∈ members) :
    ∃ line ∈ lines, ¬IsGap line.letters ∧ member.LaidOut line.letters := by
  obtain ⟨line, stands, laidOut⟩ := exists_of_forall₂ onLines seated
  obtain ⟨found, notBlank⟩ := mem_inhabited_iff.mp stands
  exact ⟨line, found, notBlank, laidOut⟩

/-- Players whose lines follow each other have increasing offsets. -/
theorem pairwise_start (onLines : OnLines members lines)
    (ordered : lines.Pairwise Scanner.StandsBefore) :
    members.Pairwise fun first second => first.start < second.start := by
  have starts : members.map Member.start =
      (inhabited lines).map fun line => startOf line.letters 0 := by
    rw [← List.forall₂_eq_eq_eq, List.forall₂_map_left_iff, List.forall₂_map_right_iff]
    exact onLines.imp fun member line laidOut => laidOut.startOf_eq.symm
  rw [← List.pairwise_map (f := Member.start) (R := (· < ·)), starts, List.pairwise_map]
  apply (ordered.sublist List.filter_sublist).imp_of_mem
  intro first second inFirst inSecond standsBefore
  obtain ⟨placed, run, here⟩ := exists_cons_of_not_isGap (mem_inhabited_iff.mp inFirst).2
  obtain ⟨other, others, there⟩ := exists_cons_of_not_isGap (mem_inhabited_iff.mp inSecond).2
  rw [here, there]
  exact standsBefore placed (by simp [here]) other (by simp [there])

end OnLines

/-! ### Drafts -/

/-- The options and the players of a sheet stand on the lines of a text. -/
structure Sheet.StandsOn (sheet : Sheet) (header : Line) (lines : List Line) : Prop where
  settings : ∀ setting ∈ sheet.settings,
    ∃ word, word <:+: header.letters ∧ Spells word setting.text setting.start
  players : OnLines sheet.members lines
  nonempty : ∀ group ∈ sheet.groups, group.members ≠ []

theorem ofTokens_of_noPlace {first more : List Token} {members : List Member} {groups : List Group}
    (noPlace : first = [] ∨ ∃ rawDate, first = [.date rawDate])
    (assembled : more.foldr Assembly.add {} = bodyAssembly members groups) :
    (Sheet.ofTokens (first ++ more)).settings = [] ∧
      (Sheet.ofTokens (first ++ more)).groups = closing members groups := by
  rw [Sheet.ofTokens, List.foldr_append, assembled]
  rcases noPlace with rfl | ⟨rawDate, rfl⟩ <;> cases members <;> exact ⟨rfl, rfl⟩

theorem Sheet.exists_standsOn {found : List Token} (scan : Lines.tokens text = .ok found) :
    ∃ header lines, Scanner.LineCut (placedLetters text.toList) (header :: lines) ∧
      (ofTokens found).StandsOn header lines := by
  have lineCut := Scanner.lineCut_cut (placedLetters text.toList)
  have proper := properLines_cut text.toList
  rw [Lines.tokens] at scan
  generalize cut (placedLetters text.toList) = lines at *
  cases lines with
  | nil => exact absurd rfl lineCut.ne_nil
  | cons header lines =>
      obtain ⟨first, more, scanHeader, scanLines, rfl⟩ := followedBy_eq_ok_iff.mp scan
      obtain ⟨members, groups, folded, assembled⟩ := linesAssembled_of_linesAssembly
        (linesAssembly_eq_ok_iff.mpr ⟨more, scanLines, rfl⟩) proper.2.2
      have onLines := assembled.onLines
      rw [← flatMap_closing] at onLines
      have nonempty : ∀ group ∈ closing members groups, group.members ≠ [] :=
        forall_closing.mpr ⟨id, assembled.members_ne_nil⟩
      refine ⟨header, lines, lineCut, ?_⟩
      rcases laidOut_headerTokens scanHeader proper.1 with
        noPlace | ⟨rawDate, place, settings, rfl, headerLaidOut, -⟩
      · obtain ⟨noSettings, sameGroups⟩ := ofTokens_of_noPlace noPlace folded
        refine ⟨by simp [noSettings], ?_, ?_⟩
        · rwa [Sheet.members, sameGroups]
        · rwa [sameGroups]
      · rw [ofTokens_headerOf rawDate place settings folded]
        exact ⟨fun setting made => headerLaidOut.exists_infix made, onLines, nonempty⟩

end TrickLedger
