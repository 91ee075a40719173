import TrickLedger.Proofs.Layout.Draft
import TrickLedger.Sheet.Comments

/-!
# Comments in the text of a sheet

The scanner goes forward to the first closing brace and the reader goes back to the last
one.  On the codes that the scanner finds they come to the same comment, and if a sheet is
read its comments stand in the text.
-/

namespace TrickLedger

open Lines

variable {code text : String} {play : Play} {line : Line} {lines : List Line} {found : List Token}
  {start : Nat}

/-! ### Codes -/

theorem Play.comment_eq_none (noOpening : '{' ∉ code.toList)
    (read : Play.ofCode code = .ok play) : play.comment = none := by
  obtain ⟨lead, trail, whole, -, -⟩ := Text.exists_eq_trim code.toList
  have outside : '{' ∉ Text.trim code.toList := by
    intro member
    apply noOpening
    rw [whole]
    simp [member]
  have cut := ClosedCode.cutComment_of_outside outside
  exact ((ofCode_eq_ok_iff_of_cut cut).mp read).1

/-- On a code that was found on a line the scanner and the reader agree. -/
theorem commentAgrees_of_scannedCode (scanned : ScannedCode code.toList) : CommentAgrees code := by
  have refused (isOpen : OpenCode code.toList) : ∃ fault, Play.ofCode code = .error fault := by
    cases read : Play.ofCode code with
    | error fault => exact ⟨fault, rfl⟩
    | ok play => exact absurd read isOpen.not_read
  generalize letters : code.toList = list at scanned refused
  rcases scanned with closed | isOpen
  · cases closed with
    | plain body outside =>
        have noOpening : '{' ∉ code.toList := letters ▸ ClosedCode.not_mem_opening outside
        exact .absent noOpening fun play => Play.comment_eq_none noOpening
    | commented front comment outside noClosing =>
        have first := ClosedCode.not_mem_opening outside
        refine .closed front comment letters first noClosing ?_
        rw [letters, Play.cutComment_trim (Play.noneOpen_of_not_mem first) noClosing]
  · have unread := refused isOpen
    cases isOpen with
    | unclosed front rest outside noClosing =>
        exact .unclosed front rest letters (ClosedCode.not_mem_opening outside) noClosing unread

/-- The comment of a play that is read stands between the first brace of its code and the
last one. -/
theorem CommentAgrees.comment_of_ofCode (agrees : CommentAgrees code)
    (read : Play.ofCode code = .ok play) :
    ('{' ∉ code.toList ∧ play.comment = none) ∨
      ∃ front comment, code.toList = front ++ '{' :: comment ++ ['}'] ∧ '{' ∉ front ∧
        '}' ∉ comment ∧ play.comment = some (String.ofList comment) := by
  cases agrees with
  | absent noOpening none => exact .inl ⟨noOpening, none play read⟩
  | closed front comment parts first noClosing cut =>
      have commentEq := ((Play.ofCode_eq_ok_iff_of_cut cut).mp read).1
      exact .inr ⟨front, comment, parts, first, noClosing, commentEq⟩
  | unclosed front rest parts first noClosing refused =>
      obtain ⟨fault, refused⟩ := refused
      rw [read] at refused
      cases refused

/-! ### Tokens -/

theorem scannedCode_of_bodyTokens (scan : bodyTokens line = .ok found)
    (proper : Proper line.letters) (member : .play code start ∈ found) :
    ScannedCode code.toList := by
  by_cases separators : IsGap line.letters
  · rw [bodyTokens_of_isGap separators, Except.ok.injEq] at scan
    subst scan
    split at member <;> simp at member
  · obtain ⟨player, rfl, -, scanned⟩ := laidOut_bodyTokens scan proper separators
    rw [Member.tokens, List.mem_cons] at member
    rcases member with player | play
    · cases player
    · obtain ⟨written, made, token⟩ := List.mem_map.mp play
      cases token
      exact (scanned.plays written made).1

theorem scannedCode_of_bodyLines (scan : bodyLines lines = .ok found) (proper : ProperLines lines)
    (member : .play code start ∈ found) : ScannedCode code.toList := by
  induction lines generalizing found with
  | nil =>
      cases scan
      cases member
  | cons line lines ih =>
      obtain ⟨properLine, -, properLines⟩ := proper
      obtain ⟨here, later, scanLine, scanLines, rfl⟩ := followedBy_eq_ok_iff.mp scan
      rcases List.mem_append.mp member with inLine | inLines
      · exact scannedCode_of_bodyTokens scanLine properLine inLine
      · exact ih scanLines properLines inLines

theorem not_play_of_headerTokens {textEnd : Nat} (scan : headerTokens line textEnd = .ok found)
    (proper : Proper line.letters) : .play code start ∉ found := by
  intro member
  rcases laidOut_headerTokens scan proper with
    (rfl | ⟨rawDate, rfl⟩) | ⟨rawDate, place, settings, rfl, -⟩
  · cases member
  · simp at member
  · simp [headerOf, Setting.token] at member

theorem scannedCode_of_tokens (scan : Lines.tokens text = .ok found)
    (member : .play code start ∈ found) : ScannedCode code.toList := by
  have proper := properLines_cut text.toList
  rw [Lines.tokens] at scan
  generalize cut (placedLetters text.toList) = lines at *
  cases lines with
  | nil =>
      cases scan
      cases member
  | cons header lines =>
      obtain ⟨first, more, scanHeader, scanLines, rfl⟩ := followedBy_eq_ok_iff.mp scan
      rcases List.mem_append.mp member with inHeader | inBody
      · exact absurd inHeader (not_play_of_headerTokens scanHeader proper.1)
      · exact scannedCode_of_bodyLines scanLines proper.2.2 inBody

/-! ### Comments in the text -/

theorem map_letter_placedFrom {offset : Nat} (behind : 0 < offset) (letters : List Char) :
    (Scanner.placedFrom offset letters).map Placed.letter = withoutReturns letters := by
  induction letters generalizing offset with
  | nil => rfl
  | cons letter letters ih =>
      have ignored : Scanner.isIgnored letter offset = (letter == '\r') := by
        simp [Scanner.isIgnored, behind.ne']
      rw [Scanner.placedFrom_cons, ignored, withoutReturns, List.filter_cons]
      by_cases returned : letter = '\r'
      · simp [returned, ih (Nat.succ_pos offset), withoutReturns]
      · simp [returned, ih (Nat.succ_pos offset), withoutReturns]

/-- The letters from one on stand in the text from its offset on, with carriage returns
between them. -/
theorem exists_raw {letters : List Char} {front run : List Placed} {placed : Placed}
    (stands : placedLetters letters = front ++ placed :: run) :
    ∃ before raw, letters = before ++ raw ∧ placed.offset = before.length ∧
      withoutReturns raw = (placed :: run).map Placed.letter := by
  obtain ⟨before, after, rfl, place, -, behind⟩ := Scanner.exists_placed stands
  have counts := (List.mem_filter.mp (stands ▸ List.mem_append_right front (.head run))).2
  have noReturn : placed.letter ≠ '\r' := by
    intro returned
    simp [Scanner.isIgnored, returned] at counts
  have others := map_letter_placedFrom (Nat.succ_pos placed.offset) after
  rw [behind] at others
  refine ⟨before, placed.letter :: after, rfl, by rw [place, Nat.zero_add], ?_⟩
  rw [List.map_cons, others, withoutReturns, List.filter_cons, if_pos (by simpa using noReturn)]
  rfl

theorem exists_raw_opening {raw front comment : List Char}
    (letters : withoutReturns raw = front ++ '{' :: comment) :
    ∃ before between, raw = before ++ '{' :: between ∧ withoutReturns before = front ∧
      withoutReturns between = comment := by
  obtain ⟨first, rest, rfl, firstLetters, restLetters⟩ := List.filter_eq_append_iff.mp letters
  obtain ⟨returns, between, rfl, none, -, betweenLetters⟩ := List.filter_eq_cons_iff.mp restLetters
  refine ⟨first ++ returns, between, by simp, ?_, betweenLetters⟩
  have skipped : withoutReturns returns = [] := List.filter_eq_nil_iff.mpr none
  rw [withoutReturns, List.filter_append, firstLetters, ← withoutReturns, skipped, List.append_nil]

theorem mem_withoutReturns {letters : List Char} {letter : Char} (noReturn : letter ≠ '\r')
    (member : letter ∈ letters) : letter ∈ withoutReturns letters :=
  List.mem_filter.mpr ⟨member, by simpa using noReturn⟩

theorem exists_braces {word : List Placed} {front comment : List Char}
    (spelled : Spells word code start) (stands : word <:+: placedLetters text.toList)
    (parts : code.toList = front ++ '{' :: comment ++ ['}']) :
    ∃ before body between after,
      text.toList = before ++ (body ++ '{' :: between ++ ['}']) ++ after ∧
      before.length = start ∧ withoutReturns body = front ∧ withoutReturns between = comment := by
  obtain ⟨lead, trail, whole⟩ := stands
  have letters := spelled.toList_eq
  rw [parts, eq_comm, List.map_eq_append_iff] at letters
  obtain ⟨inner, last, rfl, innerLetters, lastLetters⟩ := letters
  obtain ⟨closing, rfl, closes⟩ := List.map_eq_singleton_iff.mp lastLetters
  obtain ⟨placed, run, rfl⟩ : ∃ placed run, inner = placed :: run := by
    apply List.exists_cons_of_ne_nil
    rintro rfl
    simp at innerLetters
  -- The text up to the closing brace ends with the play and the carriage returns in it.
  have behind : placedLetters text.toList = (lead ++ placed :: run) ++ closing :: trail := by
    rw [← whole]
    simp
  obtain ⟨upTo, after, textParts, -, inFront, -⟩ := Scanner.exists_placed behind
  obtain ⟨before, raw, rfl, place, rawLetters⟩ := exists_raw inFront
  rw [innerLetters] at rawLetters
  obtain ⟨body, between, rfl, bodyLetters, betweenLetters⟩ := exists_raw_opening rawLetters
  refine ⟨before, body, between, after, ?_, ?_, bodyLetters, betweenLetters⟩
  · rw [textParts, closes]
    simp
  · rw [← place, ← spelled.startOf_eq 0]
    rfl

theorem commentStands_of_spells {written : WrittenPlay} {word : List Placed}
    (spelled : Spells word written.code written.start)
    (stands : word <:+: placedLetters text.toList) (agrees : CommentAgrees written.code)
    (read : Play.ofCode written.code = .ok play) : CommentStands text.toList written play := by
  rcases agrees.comment_of_ofCode read with
    ⟨noOpening, none⟩ | ⟨front, comment, parts, first, noClosing, commentEq⟩
  · exact .absent noOpening none
  · obtain ⟨before, body, between, after, whole, place, rfl, rfl⟩ :=
      exists_braces spelled stands parts
    refine .braces before body between after whole place ?_
      (fun member => first (mem_withoutReturns (by decide) member))
      (fun member => noClosing (mem_withoutReturns (by decide) member)) commentEq
    simp [parts, withoutReturns]

namespace Sheet

variable {sheet : Sheet}

theorem commentStands_of_ofText (read : ofText text = .ok sheet) {member : Member}
    (seated : member ∈ sheet.members) {written : WrittenPlay} (made : written ∈ member.plays) :
    ∃ play, Play.ofCode written.code = .ok play ∧ CommentStands text.toList written play := by
  by_cases blank : isBlankText text = true
  · rw [ofText, if_pos blank, Except.ok.injEq] at read
    subst read
    cases seated
  · obtain ⟨group, inSheet, inGroup⟩ := List.mem_flatMap.mp seated
    have wellFormed := (laidOut_of_ofText read blank).1.groups group inSheet
    have wellFormedPlay := (wellFormed.members member inGroup).plays written made
    have agrees := commentAgrees_of_scannedCode (.inl wellFormedPlay.closedCode)
    obtain ⟨play, readPlay⟩ := wellFormedPlay.read
    obtain ⟨found, rules, scan, -, -, rfl⟩ := (ofText_eq_ok_of_not_blank blank).mp read
    obtain ⟨header, lines, lineCut, standsOn⟩ := exists_standsOn scan
    obtain ⟨line, stands, -, laidOut⟩ := standsOn.players.exists_line seated
    obtain ⟨word, inLine, spelled⟩ := laidOut.exists_infix made
    have inText := inLine.trans (lineCut.isInfix (.tail header stands))
    exact ⟨play, readPlay, commentStands_of_spells spelled inText agrees readPlay⟩

end Sheet

/-- The scanner and the reader agree on the comments of all plays in a text.  If the text
is read as a sheet, all comments are closed and stand in the text, less any carriage
returns. -/
theorem comments_of_text (text : String) :
    (∀ tokens, Token.ofText text = .ok tokens → ∀ code start, .play code start ∈ tokens →
      CommentAgrees code) ∧
    ∀ sheet, Sheet.ofText text = .ok sheet → ∀ member ∈ sheet.members,
      ∀ written ∈ member.plays, ∃ play, Play.ofCode written.code = .ok play ∧
        CommentStands text.toList written play := by
  constructor
  · intro tokens scan code start member
    rw [Token.ofText, Scanner.run_text] at scan
    exact commentAgrees_of_scannedCode (scannedCode_of_tokens scan member)
  · intro sheet read member seated written made
    exact Sheet.commentStands_of_ofText read seated made

/-- A comment with a carriage return that ends no line. -/
def returnedComment : String :=
  "2024-03-04 P\nA e\x7ba\rb\x7d\nB\nC"

def returnedSheet : Sheet where
  date := some ⟨2024, 3, 4, by decide⟩
  rawDate := "2024-03-04"
  place := "P"
  groups := [⟨[⟨"A", 13, [⟨"e\x7bab\x7d", 15⟩]⟩, ⟨"B", 22, []⟩, ⟨"C", 24, []⟩]⟩]

theorem comments_of_text_returnedComment :
    CommentAgrees "e\x7bab\x7d" ∧
      ∃ play, Play.ofCode "e\x7bab\x7d" = .ok play ∧
        CommentStands returnedComment.toList ⟨"e\x7bab\x7d", 15⟩ play := by
  obtain ⟨agrees, stands⟩ := comments_of_text returnedComment
  constructor
  · exact agrees [.date "2024-03-04", .place "P", .player "A" 13, .play "e\x7bab\x7d" 15,
      .player "B" 22, .player "C" 24] rfl "e\x7bab\x7d" 15 (by simp)
  · exact stands returnedSheet rfl ⟨"A", 13, [⟨"e\x7bab\x7d", 15⟩]⟩ (by decide) _ (.head _)

/-- A carriage return in a comment is not kept, so a comment need not stand in the text
letter by letter. -/
theorem not_braces_infix_of_ofText :
    ¬∀ text sheet, Sheet.ofText text = .ok sheet → ∀ member ∈ sheet.members,
      ∀ written ∈ member.plays, ∀ play comment, Play.ofCode written.code = .ok play →
        play.comment = some comment → '{' :: comment.toList ++ ['}'] <:+: text.toList := by
  intro verbatim
  have stands := verbatim returnedComment returnedSheet rfl ⟨"A", 13, [⟨"e\x7bab\x7d", 15⟩]⟩
    (by decide) ⟨"e\x7bab\x7d", 15⟩ (.head _) { base := .ofFault .fold, comment := some "ab" } "ab"
    rfl rfl
  revert stands
  decide

end TrickLedger
