import TrickLedger.Proofs.Layout.Draft

/-!
# Tokens in the draft of a sheet

The tokens of a text come in an order in which none of them is lost when a sheet is
assembled: the header comes first, and every play has a player in front of it.  So the
tokens can be read off the sheet again, group by group and player by player.
-/

namespace TrickLedger

open Lines

/-- The tokens of a group, player by player. -/
def Group.tokens (group : Group) : List Token :=
  group.members.flatMap Member.tokens

namespace Token

/-- The token stands behind the first line of a sheet. -/
def isOfBody : Token → Bool
  | player .. | play .. | groupBreak => true
  | date _ | place _ | setting .. => false

def isPlay : Token → Bool
  | play .. => true
  | date _ | place _ | setting .. | player .. | groupBreak => false

end Token

/-- The tokens in front of the options of a sheet.  Options only stand behind a place. -/
inductive HeadedBy : Sheet → List Token → Prop
  | nothing (sheet : Sheet) (undated : sheet.date = none) (rawDate : sheet.rawDate = "")
      (noPlace : sheet.place = "") (noSettings : sheet.settings = []) : HeadedBy sheet []
  | date (sheet : Sheet) (dated : sheet.date = Calendar.readDate? sheet.rawDate)
      (noPlace : sheet.place = "") (noSettings : sheet.settings = []) :
      HeadedBy sheet [.date sheet.rawDate]
  | place (sheet : Sheet) (dated : sheet.date = Calendar.readDate? sheet.rawDate) :
      HeadedBy sheet [.date sheet.rawDate, .place sheet.place]

/-- Every token has its place on the sheet, and nothing else is there. -/
structure Gathered (tokens : List Token) (sheet : Sheet) : Prop where
  /-- The stretches without a group break that are not empty are the groups. -/
  parts : ∃ header body, tokens = header ++ sheet.settings.map Setting.token ++ body ∧
    HeadedBy sheet header ∧ (∀ token ∈ body, token.isOfBody = true) ∧
    (body.splitOn .groupBreak).filter (!·.isEmpty) = sheet.groups.map Group.tokens
  played : ∀ before code start after, tokens = before ++ .play code start :: after →
    ∃ front name nameStart between, before = front ++ .player name nameStart :: between ∧
      .groupBreak ∉ between
  inhabited : ∀ group ∈ sheet.groups, group.members ≠ []
  playCount : sheet.playCount = tokens.countP Token.isPlay

variable {lines : List Line} {members : List Member} {groups : List Group}
  {tokens : List Token} {rawDate text : String}

/-! ### Splitting tokens -/

/-- An item of two lists stands in the second or in the first one. -/
theorem append_eq_append_cons_cases {α : Type} {first second before after : List α} {item : α}
    (parts : first ++ second = before ++ item :: after) :
    (∃ others, before = first ++ others ∧ second = others ++ item :: after) ∨
      ∃ others, first = before ++ item :: others := by
  rcases List.append_eq_append_iff.mp parts with ⟨others, rfl, behind⟩ | ⟨others, rfl, behind⟩
  · exact .inl ⟨others, rfl, behind⟩
  · cases others with
    | nil => exact .inl ⟨[], by simp, behind.symm⟩
    | cons other others =>
        obtain ⟨rfl, -⟩ := List.cons.inj behind
        exact .inr ⟨others, rfl⟩

theorem splitOn_append_of_not_mem {run : List Token} (noBreak : .groupBreak ∉ run)
    {first : List Token} {later : List (List Token)}
    (split : tokens.splitOn .groupBreak = first :: later) :
    (run ++ tokens).splitOn .groupBreak = (run ++ first) :: later := by
  induction run with
  | nil => exact split
  | cons token run ih =>
      rw [List.mem_cons, not_or] at noBreak
      have inside : (token == .groupBreak) = false := by simpa using Ne.symm noBreak.1
      rw [List.splitOn] at ih ⊢
      rw [List.cons_append, List.splitOnP_cons_eq_if_modifyHead, inside,
        if_neg Bool.false_ne_true, ih noBreak.2]
      rfl

theorem Member.mem_tokens_iff {member : Member} {token : Token} :
    token ∈ member.tokens ↔
      token = .player member.name member.start ∨ ∃ play ∈ member.plays, play.token = token := by
  rw [tokens, List.mem_cons, List.mem_map]

theorem Member.groupBreak_not_mem (member : Member) : .groupBreak ∉ member.tokens := by
  rw [mem_tokens_iff]
  rintro (named | ⟨play, -, played⟩)
  · cases named
  · cases played

theorem Member.countP_tokens (member : Member) :
    member.tokens.countP Token.isPlay = member.plays.length := by
  have all : ∀ play ∈ member.plays, Token.isPlay play.token = true := fun _ _ => rfl
  rw [tokens, List.countP_cons_of_neg (by simp [Token.isPlay]), List.countP_map]
  exact List.countP_eq_length.mpr all

/-- In front of a play of a player stands the name and perhaps other plays. -/
theorem Member.exists_player {member : Member} {before after : List Token} {code : String}
    {start : Nat} (parts : member.tokens = before ++ .play code start :: after) :
    ∃ between, before = .player member.name member.start :: between ∧
      .groupBreak ∉ between := by
  have noBreak := member.groupBreak_not_mem
  cases before with
  | nil => cases (List.cons.inj parts).1
  | cons token between =>
      obtain ⟨rfl, -⟩ := List.cons.inj parts
      refine ⟨between, rfl, fun broken => noBreak ?_⟩
      rw [parts]
      simp [broken]

/-! ### The tokens of lines -/

/-- How tokens follow each other behind the first line, and the players in front of the
first group break and the groups behind it. -/
inductive BodyTokens : List Token → List Member → List Group → Prop
  | nil : BodyTokens [] [] []
  | groupBreak (tokens : List Token) (members : List Member) (groups : List Group)
      (more : BodyTokens tokens members groups) :
      BodyTokens (.groupBreak :: tokens) [] (closing members groups)
  | member (member : Member) (tokens : List Token) (members : List Member)
      (groups : List Group) (more : BodyTokens tokens members groups) :
      BodyTokens (member.tokens ++ tokens) (member :: members) groups

theorem bodyTokens_of_bodyLines (scan : bodyLines lines = .ok tokens)
    (proper : ProperLines lines) : ∃ members groups, BodyTokens tokens members groups := by
  induction lines generalizing tokens with
  | nil =>
      cases scan
      exact ⟨[], [], .nil⟩
  | cons line lines ih =>
      obtain ⟨properLine, ended, properLines⟩ := proper
      obtain ⟨found, more, scanLine, scanLines, rfl⟩ := followedBy_eq_ok_iff.mp scan
      obtain ⟨members, groups, body⟩ := ih scanLines properLines
      by_cases separators : IsGap line.letters
      · rw [bodyTokens_of_isGap separators] at scanLine
        cases lineFeed : line.lineFeed with
        | some offset =>
            rw [lineFeed] at scanLine
            cases scanLine
            exact ⟨[], closing members groups, .groupBreak more members groups body⟩
        | none =>
            rw [ended lineFeed] at scanLines
            rw [lineFeed] at scanLine
            cases scanLine
            cases scanLines
            exact ⟨[], [], .nil⟩
      · obtain ⟨member, rfl, -, -⟩ := laidOut_bodyTokens scanLine properLine separators
        exact ⟨member :: members, groups, .member member more members groups body⟩

namespace BodyTokens

variable (body : BodyTokens tokens members groups)

include body

theorem foldr_add : tokens.foldr Assembly.add {} = bodyAssembly members groups := by
  induction body with
  | nil => rfl
  | groupBreak tokens members groups more ih =>
      rw [List.foldr_cons, ih]
      exact closeGroup_bodyAssembly members groups
  | member member tokens members groups more ih =>
      rw [List.foldr_append, ih, foldr_member]

theorem isOfBody : ∀ token ∈ tokens, token.isOfBody = true := by
  induction body with
  | nil => simp
  | groupBreak tokens members groups more ih =>
      rw [List.forall_mem_cons]
      exact ⟨rfl, ih⟩
  | member member tokens members groups more ih =>
      rw [List.forall_mem_append]
      refine ⟨fun token made => ?_, ih⟩
      rcases Member.mem_tokens_iff.mp made with rfl | ⟨play, -, rfl⟩ <;> rfl

/-- The first stretch has the players at hand, and those behind it have the groups. -/
theorem splitOn_groupBreak :
    ∃ later, tokens.splitOn .groupBreak = members.flatMap Member.tokens :: later ∧
      later.filter (!·.isEmpty) = groups.map Group.tokens := by
  induction body with
  | nil => exact ⟨[], rfl, rfl⟩
  | groupBreak tokens members groups more ih =>
      obtain ⟨later, split, filtered⟩ := ih
      refine ⟨tokens.splitOn .groupBreak, ?_, ?_⟩
      · exact List.splitOn_append_cons_self (a := Token.groupBreak) [] tokens
      · rw [split]
        cases members with
        | nil => exact filtered
        | cons member members =>
            rw [List.filter_cons_of_pos (by rfl), filtered]
            rfl
  | member member tokens members groups more ih =>
      obtain ⟨later, split, filtered⟩ := ih
      exact ⟨later, splitOn_append_of_not_mem member.groupBreak_not_mem split, filtered⟩

theorem filter_splitOn :
    (tokens.splitOn .groupBreak).filter (!·.isEmpty) =
      (closing members groups).map Group.tokens := by
  obtain ⟨later, split, filtered⟩ := (BodyTokens.groupBreak _ _ _ body).splitOn_groupBreak
  have cut := List.splitOn_append_cons_self (a := Token.groupBreak) [] tokens
  rw [List.nil_append, split] at cut
  obtain ⟨-, rfl⟩ := List.cons.inj cut
  exact filtered

theorem exists_player {before after : List Token} {code : String} {start : Nat}
    (parts : tokens = before ++ .play code start :: after) :
    ∃ front name nameStart between, before = front ++ .player name nameStart :: between ∧
      .groupBreak ∉ between := by
  induction body generalizing before with
  | nil => simp at parts
  | groupBreak tokens members groups more ih =>
      cases before with
      | nil => cases (List.cons.inj parts).1
      | cons token before =>
          obtain ⟨rfl, others⟩ := List.cons.inj parts
          obtain ⟨front, name, nameStart, between, rfl, noBreak⟩ := ih others
          exact ⟨.groupBreak :: front, name, nameStart, between, rfl, noBreak⟩
  | member member tokens members groups more ih =>
      rcases append_eq_append_cons_cases parts with ⟨others, rfl, later⟩ | ⟨others, inside⟩
      · obtain ⟨front, name, nameStart, between, rfl, noBreak⟩ := ih later
        exact ⟨member.tokens ++ front, name, nameStart, between, by simp, noBreak⟩
      · obtain ⟨between, rfl, noBreak⟩ := Member.exists_player inside
        exact ⟨[], _, _, between, rfl, noBreak⟩

theorem countP_isPlay :
    tokens.countP Token.isPlay =
      ((members ++ groups.flatMap Group.members).flatMap Member.plays).length := by
  induction body with
  | nil => rfl
  | groupBreak tokens members groups more ih =>
      rw [List.countP_cons_of_neg (by simp [Token.isPlay]), ih, List.nil_append, flatMap_closing]
  | member member tokens members groups more ih =>
      rw [List.countP_append, member.countP_tokens, ih, List.cons_append, List.flatMap_cons,
        List.length_append]

theorem members_ne_nil : ∀ group ∈ closing members groups, group.members ≠ [] := by
  induction body with
  | nil => simp [closing]
  | groupBreak tokens members groups more ih => exact ih
  | member member tokens members groups more ih =>
      rw [forall_closing] at ih
      exact forall_closing.mpr ⟨id, ih.2⟩

end BodyTokens

/-! ### The tokens of a text -/

theorem ofTokens_body (body : BodyTokens tokens members groups) :
    Sheet.ofTokens tokens = { groups := closing members groups } := by
  rw [Sheet.ofTokens, body.foldr_add]
  cases members <;> rfl

theorem ofTokens_date (body : BodyTokens tokens members groups) :
    Sheet.ofTokens (.date rawDate :: tokens) =
      { date := Calendar.readDate? rawDate, rawDate, groups := closing members groups } := by
  rw [Sheet.ofTokens, List.foldr_cons, body.foldr_add]
  cases members <;> rfl

/-- The sheet has the tokens of the first line, whatever that is, and the groups behind it. -/
theorem headedBy_ofTokens {line : Line} {textEnd : Nat} {found : List Token}
    (scan : headerTokens line textEnd = .ok found) (proper : Proper line.letters)
    (body : BodyTokens tokens members groups) :
    (Sheet.ofTokens (found ++ tokens)).groups = closing members groups ∧
      ∃ header, found = header ++ (Sheet.ofTokens (found ++ tokens)).settings.map Setting.token ∧
        HeadedBy (Sheet.ofTokens (found ++ tokens)) header := by
  rcases laidOut_headerTokens scan proper with
    (rfl | ⟨rawDate, rfl⟩) | ⟨rawDate, place, settings, rfl, -⟩
  · rw [List.nil_append, ofTokens_body body]
    exact ⟨rfl, [], rfl, .nothing _ rfl rfl rfl rfl⟩
  · rw [List.singleton_append, ofTokens_date body]
    exact ⟨rfl, [.date rawDate], rfl, .date _ rfl rfl rfl⟩
  · rw [ofTokens_headerOf rawDate place settings body.foldr_add]
    exact ⟨rfl, [.date rawDate, .place place], rfl, .place _ rfl⟩

theorem HeadedBy.not_isPlay {sheet : Sheet} {header : List Token} (headed : HeadedBy sheet header) :
    ∀ token ∈ header ++ sheet.settings.map Setting.token, token.isPlay = false := by
  rw [List.forall_mem_append, List.forall_mem_map]
  refine ⟨?_, fun _ _ => rfl⟩
  cases headed <;> simp [Token.isPlay]

theorem Sheet.gathered_ofTokens (scan : Lines.tokens text = .ok tokens) :
    Gathered tokens (ofTokens tokens) := by
  have lineCut := Scanner.lineCut_cut (placedLetters text.toList)
  have proper := properLines_cut text.toList
  rw [Lines.tokens] at scan
  generalize cut (placedLetters text.toList) = lines at *
  cases lines with
  | nil => exact absurd rfl lineCut.ne_nil
  | cons line lines =>
      obtain ⟨found, tokens, scanLine, scanLines, rfl⟩ := followedBy_eq_ok_iff.mp scan
      obtain ⟨members, groups, body⟩ := bodyTokens_of_bodyLines scanLines proper.2.2
      obtain ⟨sameGroups, header, parts, headed⟩ := headedBy_ofTokens scanLine proper.1 body
      have noPlay := headed.not_isPlay
      rw [← parts] at noPlay
      refine ⟨⟨header, tokens, by rw [← parts], headed, body.isOfBody, ?_⟩, ?_, ?_, ?_⟩
      · rw [sameGroups]
        exact body.filter_splitOn
      · -- A play does not stand in the header.
        intro before code start after whole
        rcases append_eq_append_cons_cases whole with ⟨others, rfl, later⟩ | ⟨others, inside⟩
        · obtain ⟨front, name, nameStart, between, rfl, noBreak⟩ := body.exists_player later
          exact ⟨found ++ front, name, nameStart, between, by simp, noBreak⟩
        · exact absurd (noPlay (.play code start) (by simp [inside])) (by simp [Token.isPlay])
      · rw [sameGroups]
        exact body.members_ne_nil
      · rw [playCount, Sheet.members, sameGroups, flatMap_closing, List.countP_append,
          List.countP_eq_zero.mpr (by simpa using noPlay), Nat.zero_add, body.countP_isPlay]

/-- No token is lost when the draft of a sheet is assembled: from the sheet all of them can be
read off again, in the order of the text. -/
theorem gathered_of_ofText (scan : Token.ofText text = .ok tokens) :
    ∃ sheet, Sheet.draftOf text = .ok sheet ∧ Gathered tokens sheet := by
  have drafted : Sheet.draftOf text = .ok (.ofTokens tokens) := by
    rw [Sheet.draftOf, scan, ok_bind]
  rw [Token.ofText, Scanner.run_text] at scan
  exact ⟨.ofTokens tokens, drafted, Sheet.gathered_ofTokens scan⟩

/-- Blank lines, an indented line and a comment that is left open. -/
def looseLines : String :=
  "2024-03-04 P \x7bhundred=add  multiplier=2\x7d\n\n e\nB\n \t\nC +c -c\x7bnot closed\n"

theorem gathered_of_ofText_looseLines :
    ∃ sheet, Sheet.draftOf looseLines = .ok sheet ∧
      Gathered [.date "2024-03-04", .place "P", .setting "hundred=add" 14,
        .setting "multiplier=2" 27, .groupBreak, .player "" 42, .play "e" 43, .player "B" 45,
        .groupBreak, .player "C" 50, .play "+c" 52, .play "-c\x7bnot closed" 55] sheet :=
  gathered_of_ofText rfl

end TrickLedger
