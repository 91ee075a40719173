import TrickLedger.Proofs.Layout.Plays
import TrickLedger.Sheet.Assembly

/-!
# Groups on the lines of a text

The tokens of the lines after the first are assembled into the groups that are laid out
on them.  The members of the group at hand are those on the lines up to the next blank
one.
-/

namespace TrickLedger

open Lines

variable {letters : List Placed} {line : Line} {lines : List Line} {member : Member}
  {members : List Member} {group : Group} {groups : List Group} {found : List Token}

/-! ### A player on a line -/

/-- The tokens of a player. -/
def Member.tokens (member : Member) : List Token :=
  .player member.name member.start :: member.plays.map WrittenPlay.token

/-- The letters can stand on a line. -/
def Proper (letters : List Placed) : Prop :=
  ∀ placed ∈ letters, placed.letter ≠ '\n' ∧ placed.letter ≠ '\r'

theorem Proper.fitsLine (proper : Proper letters) {text : String}
    (inside : ∀ letter ∈ text.toList, ∃ placed ∈ letters, placed.letter = letter) :
    FitsLine text := by
  constructor
  · intro member
    obtain ⟨placed, stands, equal⟩ := inside _ member
    exact (proper placed stands).1 equal
  · intro member
    obtain ⟨placed, stands, equal⟩ := inside _ member
    exact (proper placed stands).2 equal

theorem Proper.subset {part : List Placed} (proper : Proper letters) (inside : part ⊆ letters) :
    Proper part :=
  fun placed member => proper placed (inside member)

theorem Proper.fitsLine_textOf (proper : Proper letters) : FitsLine (textOf letters) := by
  apply proper.fitsLine
  rw [toList_textOf]
  exact fun letter => List.mem_map.mp

/-- What is known of a player that was found on a line, before the sheet is checked. -/
structure Member.IsScanned (member : Member) : Prop where
  word : ∀ letter ∈ member.name.toList, Scanner.isSeparator letter = false
  fits : FitsLine member.name
  plays : ∀ play ∈ member.plays, ScannedCode play.code.toList ∧ FitsLine play.code

theorem isWord_letters {word : List Placed} {text : String} (spelled : textOf word = text)
    (isWord : IsWord text) : word ≠ [] ∧ ∀ placed ∈ word, placed.isSeparator = false := by
  subst spelled
  constructor
  · rintro rfl
    exact isWord.1 rfl
  · have noSeparator := isWord.2.2
    rw [toList_textOf, List.forall_mem_map] at noSeparator
    exact noSeparator

theorem Member.LaidOut.not_isGap (laidOut : member.LaidOut letters)
    (name : IsWord member.name) : ¬IsGap letters := by
  obtain ⟨nameLetters, after, spelled, -, -, -⟩ := laidOut
  obtain ⟨nonempty, noSeparator⟩ := isWord_letters spelled name
  obtain ⟨first, rest, rfl⟩ := List.exists_cons_of_ne_nil nonempty
  intro separators
  have separator := separators first (by simp)
  rw [noSeparator first (.head rest)] at separator
  contradiction

theorem all_isSeparator_iff : letters.all Placed.isSeparator = true ↔ IsGap letters :=
  List.all_eq_true

theorem EndsWord.takeWhile {word after : List Placed}
    (inside : ∀ placed ∈ word, placed.isSeparator = false) (ends : EndsWord after) :
    (word ++ after).takeWhile (!·.isSeparator) = word ∧
      (word ++ after).dropWhile (!·.isSeparator) = after := by
  have inside' : ∀ placed ∈ word, (!placed.isSeparator) = true := by simpa using inside
  rw [List.takeWhile_append_of_pos inside', List.dropWhile_append_of_pos inside']
  cases after with
  | nil => simp
  | cons next after =>
      have separator : next.isSeparator = true := ends next rfl
      simp [separator]

/-- The tokens of a line with a well-formed player. -/
theorem bodyTokens_of_laidOut (laidOut : member.LaidOut line.letters)
    (wellFormed : member.WellFormed) : bodyTokens line = .ok member.tokens := by
  have notGap := laidOut.not_isGap wellFormed.name
  rw [bodyTokens, if_neg (mt all_isSeparator_iff.mp notGap)]
  generalize line.letters = letters at laidOut
  obtain ⟨name, after, spelled, start, ends, plays⟩ := laidOut
  have noSeparator := (isWord_letters spelled wellFormed.name).2
  obtain ⟨taken, dropped⟩ := EndsWord.takeWhile noSeparator ends
  have read := playTokens_of_laidOut plays fun play made =>
    (wellFormed.plays play made).closedCode
  simp only [taken, dropped, spelled, start, read]
  rfl

/-- On a line that is not blank there is a player. -/
theorem laidOut_bodyTokens (scan : bodyTokens line = .ok found) (proper : Proper line.letters)
    (notBlank : ¬IsGap line.letters) :
    ∃ member : Member, found = member.tokens ∧ member.LaidOut line.letters ∧
      member.IsScanned := by
  rw [bodyTokens, if_neg (mt all_isSeparator_iff.mp notBlank)] at scan
  generalize line.letters = letters at *
  obtain ⟨name, after, rfl, taken, dropped, inside, stops⟩ := exists_run (!·.isSeparator) letters
  have word : ∀ placed ∈ name, placed.isSeparator = false := by simpa using inside
  have ends : EndsWord after := by simpa [EndsWord] using stops
  rw [taken, dropped] at scan
  obtain ⟨_, _, named, played, rfl⟩ := followedBy_eq_ok_iff.mp scan
  obtain ⟨plays, rfl, laidOut, scanned⟩ := laidOut_playTokens played
  cases named
  have properAfter := proper.subset (List.subset_append_right name after)
  refine ⟨⟨textOf name, startOf (name ++ after) 0, plays⟩, rfl,
    .line name after rfl rfl ends laidOut, ?_,
    (proper.subset (List.subset_append_left name after)).fitsLine_textOf, fun play made => ?_⟩
  · rw [toList_textOf, List.forall_mem_map]
    exact word
  · have entry := List.mem_map_of_mem (f := WrittenPlay.word) made
    exact ⟨scanned play made, properAfter.fitsLine fun letter => laidOut.mem_letters entry⟩

/-- A blank line breaks groups where a line feed ends it. -/
theorem bodyTokens_of_isGap (separators : IsGap line.letters) :
    bodyTokens line = .ok (if line.lineFeed.isSome then [.groupBreak] else []) := by
  rw [bodyTokens, if_pos (all_isSeparator_iff.mpr separators)]

/-! ### Groups of players -/

/-- The groups with the players at hand in front, if there are any. -/
def closing (members : List Member) (groups : List Group) : List Group :=
  if members.isEmpty then groups else ⟨members⟩ :: groups

/-- The groups of lines and the players in front of the first blank one. -/
def bodyAssembly (members : List Member) (groups : List Group) : Assembly where
  sheet := { groups }
  members

theorem closeGroup_bodyAssembly (members : List Member) (groups : List Group) :
    (bodyAssembly members groups).closeGroup = bodyAssembly [] (closing members groups) := by
  cases members <;> rfl

theorem foldr_plays (plays : List WrittenPlay) (assembly : Assembly) :
    (plays.map WrittenPlay.token).foldr Assembly.add assembly =
      { assembly with plays := plays ++ assembly.plays } := by
  induction plays with
  | nil => rfl
  | cons play plays ih => rw [List.map_cons, List.foldr_cons, ih]; rfl

/-- The tokens of a player put the player in front. -/
theorem foldr_member (member : Member) (members : List Member) (groups : List Group) :
    member.tokens.foldr Assembly.add (bodyAssembly members groups) =
      bodyAssembly (member :: members) groups := by
  rw [Member.tokens, List.foldr_cons, foldr_plays]
  simp [Assembly.add, bodyAssembly]

/-- The lines can stand in a text: none but the last ends without a line feed. -/
def ProperLines : List Line → Prop
  | [] => True
  | line :: lines => Proper line.letters ∧ (line.lineFeed = none → lines = []) ∧ ProperLines lines

/-- Lines with the players at hand, and after them lines with groups. -/
inductive HandLaidOut (members : List Member) (groups : List Group) : List Line → Prop
  | lines (first later : List Line)
      (laidOut : List.Forall₂ (fun member line => member.LaidOut line.letters) members first)
      (ends : ∀ line ∈ later.head?, IsGap line.letters) (more : GroupsLaidOut groups later) :
      HandLaidOut members groups (first ++ later)

namespace HandLaidOut

theorem closed (hand : HandLaidOut members groups lines) :
    GroupsLaidOut (closing members groups) lines := by
  obtain ⟨first, later, laidOut, ends, more⟩ := hand
  cases members with
  | nil =>
      rw [List.forall₂_nil_left_iff.mp laidOut]
      exact more
  | cons member members => exact .group ⟨member :: members⟩ groups first later laidOut ends more

theorem cons_blank (hand : HandLaidOut members groups lines) (separators : IsGap line.letters) :
    HandLaidOut [] (closing members groups) (line :: lines) :=
  .lines [] (line :: lines) .nil (by simpa using separators)
    (.blank _ line lines separators hand.closed)

theorem cons_member (hand : HandLaidOut members groups lines)
    (laidOut : member.LaidOut line.letters) :
    HandLaidOut (member :: members) groups (line :: lines) := by
  obtain ⟨first, later, others, ends, more⟩ := hand
  exact .lines (line :: first) later (.cons laidOut others) ends more

end HandLaidOut

theorem forall_closing {property : Group → Prop} :
    (∀ group ∈ closing members groups, property group) ↔
      (members ≠ [] → property ⟨members⟩) ∧ ∀ group ∈ groups, property group := by
  cases members <;> simp [closing]

/-- What the tokens of lines amount to. -/
def linesAssembly (lines : List Line) : Except SheetFault Assembly := do
  let found ← bodyLines lines
  .ok (found.foldr Assembly.add {})

theorem linesAssembly_eq_ok_iff {assembly : Assembly} :
    linesAssembly lines = .ok assembly ↔
      ∃ found, bodyLines lines = .ok found ∧ found.foldr Assembly.add {} = assembly := by
  simp [linesAssembly, bind_eq_ok_iff]

theorem linesAssembly_nil : linesAssembly [] = .ok (bodyAssembly [] []) :=
  rfl

theorem linesAssembly_cons_eq_ok_iff {assembly : Assembly} :
    linesAssembly (line :: lines) = .ok assembly ↔
      ∃ found later, bodyTokens line = .ok found ∧ linesAssembly lines = .ok later ∧
        found.foldr Assembly.add later = assembly := by
  simp only [linesAssembly_eq_ok_iff, bodyLines, followedBy_eq_ok_iff]
  constructor
  · rintro ⟨_, ⟨found, more, scanLine, scanLines, rfl⟩, rfl⟩
    exact ⟨found, _, scanLine, ⟨more, scanLines, rfl⟩, by rw [List.foldr_append]⟩
  · rintro ⟨found, _, scanLine, ⟨more, scanLines, rfl⟩, rfl⟩
    exact ⟨found ++ more, ⟨found, more, scanLine, scanLines, rfl⟩, by rw [List.foldr_append]⟩

/-- A blank line closes the group of the players after it, unless the text ends there. -/
theorem linesAssembly_blank (separators : IsGap line.letters)
    (ended : line.lineFeed = none → lines = [])
    (assembled : linesAssembly lines = .ok (bodyAssembly members groups)) :
    linesAssembly (line :: lines) = .ok (bodyAssembly [] (closing members groups)) := by
  refine linesAssembly_cons_eq_ok_iff.mpr
    ⟨_, _, bodyTokens_of_isGap separators, assembled, ?_⟩
  cases lineFeed : line.lineFeed with
  | some offset => exact closeGroup_bodyAssembly members groups
  | none =>
      rw [ended lineFeed, linesAssembly_nil, Except.ok.injEq] at assembled
      have noMembers : [] = members := congrArg Assembly.members assembled
      have noGroups : [] = groups := congrArg (·.sheet.groups) assembled
      rw [← noMembers, ← noGroups]
      rfl

theorem linesAssembly_member (scan : bodyTokens line = .ok member.tokens)
    (assembled : linesAssembly lines = .ok (bodyAssembly members groups)) :
    linesAssembly (line :: lines) = .ok (bodyAssembly (member :: members) groups) :=
  linesAssembly_cons_eq_ok_iff.mpr
    ⟨_, _, scan, assembled, foldr_member member members groups⟩

/-- How the tokens of lines are assembled: a blank line closes the group of the players
after it, and any other line joins them. -/
inductive LinesAssembled : List Line → List Member → List Group → Prop
  | nil : LinesAssembled [] [] []
  | blank (line : Line) (lines : List Line) (members : List Member) (groups : List Group)
      (separators : IsGap line.letters) (more : LinesAssembled lines members groups) :
      LinesAssembled (line :: lines) [] (closing members groups)
  | member (line : Line) (lines : List Line) (member : Member) (members : List Member)
      (groups : List Group) (notBlank : ¬IsGap line.letters)
      (laidOut : member.LaidOut line.letters) (scanned : member.IsScanned)
      (more : LinesAssembled lines members groups) :
      LinesAssembled (line :: lines) (member :: members) groups

theorem linesAssembled_of_linesAssembly {assembly : Assembly}
    (assembled : linesAssembly lines = .ok assembly) (proper : ProperLines lines) :
    ∃ members groups, assembly = bodyAssembly members groups ∧
      LinesAssembled lines members groups := by
  induction lines generalizing assembly with
  | nil =>
      cases assembled
      exact ⟨[], [], rfl, .nil⟩
  | cons line lines ih =>
      obtain ⟨properLine, ended, properLines⟩ := proper
      obtain ⟨found, later, scan, assembledLater, whole⟩ :=
        linesAssembly_cons_eq_ok_iff.mp assembled
      obtain ⟨members, groups, rfl, more⟩ := ih assembledLater properLines
      by_cases separators : IsGap line.letters
      · rw [linesAssembly_blank separators ended assembledLater, Except.ok.injEq] at assembled
        exact ⟨[], closing members groups, assembled.symm,
          .blank line lines members groups separators more⟩
      · obtain ⟨member, rfl, laidOut, scanned⟩ := laidOut_bodyTokens scan properLine separators
        rw [linesAssembly_member scan assembledLater, Except.ok.injEq] at assembled
        exact ⟨member :: members, groups, assembled.symm,
          .member line lines member members groups separators laidOut scanned more⟩

namespace LinesAssembled

theorem handLaidOut (assembled : LinesAssembled lines members groups) :
    HandLaidOut members groups lines := by
  induction assembled with
  | nil => exact .lines [] [] .nil (by simp) .none
  | blank line lines members groups separators more ih => exact ih.cons_blank separators
  | member line lines member members groups notBlank laidOut scanned more ih =>
      exact ih.cons_member laidOut

theorem isScanned (assembled : LinesAssembled lines members groups) :
    (∀ member ∈ members, member.IsScanned) ∧
      ∀ group ∈ groups, ∀ member ∈ group.members, member.IsScanned := by
  induction assembled with
  | nil => exact ⟨by simp, by simp⟩
  | blank line lines members groups separators more ih =>
      exact ⟨by simp, forall_closing.mpr ⟨fun _ => ih.1, ih.2⟩⟩
  | member line lines member members groups notBlank laidOut scanned more ih =>
      refine ⟨?_, ih.2⟩
      rw [List.forall_mem_cons]
      exact ⟨scanned, ih.1⟩

theorem members_ne_nil (assembled : LinesAssembled lines members groups) :
    ∀ group ∈ groups, group.members ≠ [] := by
  induction assembled with
  | nil => simp
  | blank line lines members groups separators more ih => exact forall_closing.mpr ⟨id, ih⟩
  | member line lines member members groups notBlank laidOut scanned more ih => exact ih

end LinesAssembled

/-- Whatever the lines are, the groups assembled from their tokens are laid out on them. -/
theorem laidOut_linesAssembly {assembly : Assembly} (assembled : linesAssembly lines = .ok assembly)
    (proper : ProperLines lines) :
    ∃ members groups, assembly = bodyAssembly members groups ∧
      HandLaidOut members groups lines ∧ (∀ member ∈ members, member.IsScanned) ∧
      ∀ group ∈ groups, ∀ member ∈ group.members, member.IsScanned := by
  obtain ⟨members, groups, rfl, onLines⟩ := linesAssembled_of_linesAssembly assembled proper
  exact ⟨members, groups, rfl, onLines.handLaidOut, onLines.isScanned⟩

theorem linesAssembly_members {first later : List Line} {earlier : List Member}
    (laidOut : List.Forall₂ (fun member line => member.LaidOut line.letters) earlier first)
    (wellFormed : ∀ member ∈ earlier, member.WellFormed)
    (assembled : linesAssembly later = .ok (bodyAssembly members groups)) :
    linesAssembly (first ++ later) = .ok (bodyAssembly (earlier ++ members) groups) := by
  induction laidOut with
  | nil => exact assembled
  | cons here others ih =>
      rw [List.forall_mem_cons] at wellFormed
      exact linesAssembly_member (bodyTokens_of_laidOut here wellFormed.1) (ih wellFormed.2)

theorem ProperLines.of_append {first later : List Line} (proper : ProperLines (first ++ later)) :
    ProperLines later := by
  induction first with
  | nil => exact proper
  | cons line first ih => exact ih proper.2.2

/-- Groups of well-formed players that are laid out on lines are assembled again. -/
theorem linesAssembly_of_laidOut (laidOut : GroupsLaidOut groups lines)
    (proper : ProperLines lines) (wellFormed : ∀ group ∈ groups, group.WellFormed) :
    ∃ members later, linesAssembly lines = .ok (bodyAssembly members later) ∧
      closing members later = groups ∧
      ((∀ line ∈ lines.head?, IsGap line.letters) → members = []) := by
  induction laidOut with
  | none => exact ⟨[], [], rfl, rfl, fun _ => rfl⟩
  | blank groups line lines separators more ih =>
      obtain ⟨-, ended, properLines⟩ := proper
      obtain ⟨members, later, assembled, rfl, -⟩ := ih properLines wellFormed
      exact ⟨[], closing members later, linesAssembly_blank separators ended assembled, rfl,
        fun _ => rfl⟩
  | group group groups first lines laidOut ends more ih =>
      obtain ⟨players⟩ := group
      rw [List.forall_mem_cons] at wellFormed
      obtain ⟨⟨enough, -, wellFormedPlayers⟩, wellFormedGroups⟩ := wellFormed
      obtain ⟨members, later, assembled, rfl, none⟩ := ih proper.of_append wellFormedGroups
      -- The blank line after the group keeps its players apart from later ones.
      obtain rfl := none ends
      have whole := linesAssembly_members laidOut wellFormedPlayers assembled
      rw [List.append_nil] at whole
      refine ⟨players, later, whole, ?_, fun blank => ?_⟩
      all_goals cases laidOut with
      | nil => simp [Group.size, fewestPlayers] at enough
      | @cons player line players others here _ => ?_
      · rfl
      · rw [List.forall_mem_cons] at wellFormedPlayers
        exact absurd (blank line rfl) (here.not_isGap wellFormedPlayers.1.name)

end TrickLedger
