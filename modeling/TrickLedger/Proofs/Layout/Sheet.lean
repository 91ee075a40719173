import TrickLedger.Proofs.Layout.Header
import TrickLedger.Proofs.Scanning.Text
import TrickLedger.Proofs.Sheet.Check

/-!
# Texts of well-formed sheets

A text is read as a sheet exactly if the sheet is well-formed and the text is one of
its layouts, blank texts apart.
-/

namespace TrickLedger

open Lines

variable {letters : List Placed} {lines : List Line} {text : String} {sheet : Sheet}
  {rawDate place : String} {settings : List Setting} {members : List Member}
  {groups : List Group}

/-! ### The lines of a text -/

theorem properLines_of_lineCut (cut : Scanner.LineCut letters lines)
    (noReturn : ∀ placed ∈ letters, placed.letter ≠ '\r') : ProperLines lines := by
  induction cut with
  | last letters unbroken =>
      exact ⟨fun placed member => ⟨unbroken placed member, noReturn placed member⟩,
        fun _ => rfl, trivial⟩
  | line letters others offset lines unbroken cut ih =>
      rw [List.forall_mem_append, List.forall_mem_cons] at noReturn
      exact ⟨fun placed member => ⟨unbroken placed member, noReturn.1 placed member⟩,
        fun ends => absurd ends (by simp), ih noReturn.2.2⟩

theorem properLines_cut (text : List Char) : ProperLines (cut (placedLetters text)) := by
  apply properLines_of_lineCut (Scanner.lineCut_cut _)
  intro placed member returned
  have counts := (List.mem_filter.mp member).2
  simp [returned, Scanner.isIgnored] at counts

theorem placedLetters_sublist (text : List Char) :
    ((placedLetters text).map Placed.letter).Sublist text := by
  have letters : (text.zipIdx.map fun pair => Placed.mk pair.1 pair.2).map Placed.letter =
      text := by
    rw [List.map_map]
    exact List.zipIdx_map_fst 0 text
  rw [placedLetters]
  conv_rhs => rw [← letters]
  exact List.filter_sublist.map Placed.letter

theorem header_sublist {header : Line} (whole : cut letters = header :: lines) :
    header.letters.Sublist letters := by
  have cut := Scanner.lineCut_cut letters
  rw [whole] at cut
  cases cut with
  | last => exact .refl _
  | line letters others => exact List.sublist_append_left _ _

/-! ### Texts that are not blank -/

/-- Behind another character than a byte order mark, a blank text is blank. -/
theorem isBlank_of_isBlankText (blank : Sheet.isBlankText text = true) {first second : Char}
    (stands : [first, second].Sublist text.toList) (noMark : first ≠ Scanner.byteOrderMark) :
    Text.isBlank second = true := by
  rw [← List.takeWhile_append_dropWhile (p := (· == Scanner.byteOrderMark)) (l := text.toList),
    List.sublist_append_iff] at stands
  obtain ⟨marks, others, parts, inMarks, inOthers⟩ := stands
  cases marks with
  | nil =>
      have member : second ∈ others := by simp [show others = [first, second] from parts.symm]
      exact List.all_eq_true.mp blank second (inOthers.subset member)
  | cons mark marks =>
      obtain ⟨rfl, -⟩ := List.cons.inj parts
      have isMark := List.all_eq_true.mp List.all_takeWhile first (inMarks.subset (.head marks))
      exact absurd (beq_iff_eq.mp isMark) noMark

/-- The place stands behind a separator. -/
theorem HeaderLaidOut.sublist (laidOut : HeaderLaidOut rawDate place settings letters)
    {letter : Char} (spells : letter ∈ place.toList) :
    ∃ separator, Scanner.isSeparator separator = true ∧
      [separator, letter].Sublist (letters.map Placed.letter) := by
  obtain ⟨before, date, _, separator, -, -, ends, before', run, after, options, -, rfl, -, -⟩ :=
    laidOut
  rw [toList_textOf] at spells
  obtain ⟨placed, member, rfl⟩ := List.mem_map.mp spells
  refine ⟨separator.letter, ends, ?_⟩
  have behind : [placed].Sublist (before' ++ run ++ after ++ options) :=
    List.singleton_sublist.mpr (by simp [member])
  exact ((behind.cons_cons separator).trans (List.sublist_append_right _ _)).map Placed.letter

theorem exists_not_isBlank {letters : List Char} (nonempty : letters ≠ [])
    (trimmed : Text.trim letters = letters) : ∃ letter ∈ letters, Text.isBlank letter = false := by
  by_contra allBlank
  have blank : ∀ letter ∈ letters, Text.isBlank letter = true := by simpa using allBlank
  have nothing : Text.trim (letters ++ [] ++ []) = Text.trim [] := Text.trim_padded blank (by simp)
  rw [List.append_nil, List.append_nil, trimmed] at nothing
  exact nonempty nothing

/-- A layout of a well-formed sheet is no blank text. -/
theorem Sheet.LaidOut.not_isBlankText (laidOut : sheet.LaidOut text)
    (isPlace : IsPlace sheet.place) : ¬Sheet.isBlankText text = true := by
  intro blank
  obtain ⟨header, lines, whole, headerLaidOut, -⟩ := laidOut
  -- Byte order marks at the start do not count, but the place stands behind a separator.
  have nonempty : sheet.place.toList ≠ [] := by simpa using isPlace.nonempty
  obtain ⟨letter, spells, notBlank⟩ := exists_not_isBlank nonempty isPlace.trimmed
  obtain ⟨separator, separates, stands⟩ := headerLaidOut.sublist spells
  have inText := (stands.trans ((header_sublist whole).map Placed.letter)).trans
    (placedLetters_sublist text.toList)
  have noMark : separator ≠ Scanner.byteOrderMark := by
    rintro rfl
    exact absurd separates (by decide)
  rw [isBlank_of_isBlankText blank inText noMark] at notBlank
  contradiction

/-! ### Reading and laying out -/

theorem foldr_settings (settings : List Setting) (assembly : Assembly) :
    (settings.map Setting.token).foldr Assembly.add assembly =
      { assembly with sheet :=
        { assembly.sheet with settings := settings ++ assembly.sheet.settings } } := by
  induction settings with
  | nil => rfl
  | cons setting settings ih => rw [List.map_cons, List.foldr_cons, ih]; rfl

/-- The sheet that a whole first line and the groups after it make up. -/
theorem ofTokens_headerOf (rawDate place : String) (settings : List Setting) {found : List Token}
    (assembled : found.foldr Assembly.add {} = bodyAssembly members groups) :
    Sheet.ofTokens (headerOf rawDate place settings ++ found) =
      { date := Calendar.readDate? rawDate, rawDate, place, settings,
        groups := closing members groups } := by
  rw [Sheet.ofTokens, List.foldr_append, assembled, headerOf, List.foldr_cons, List.foldr_cons,
    foldr_settings]
  cases members <;> simp [Assembly.add, Assembly.closeGroup, bodyAssembly, closing]

/-- Without more than a date in front there is no place. -/
theorem ofTokens_place_eq_empty {first more : List Token}
    (noPlace : first = [] ∨ ∃ rawDate, first = [.date rawDate])
    (assembled : more.foldr Assembly.add {} = bodyAssembly members groups) :
    (Sheet.ofTokens (first ++ more)).place = "" := by
  rw [Sheet.ofTokens, List.foldr_append, assembled]
  rcases noPlace with rfl | ⟨rawDate, rfl⟩ <;> cases members <;> rfl

theorem Group.WellFormed.sound {group : Group} (wellFormed : group.WellFormed) : group.Sound where
  enough := wellFormed.enough
  named member seated := (wellFormed.members member seated).name.1
  distinct := wellFormed.distinct
  readable member seated play made := ((wellFormed.members member seated).plays play made).read

theorem WrittenPlay.wellFormed_of_scanned {play : WrittenPlay}
    (read : ∃ result, Play.ofCode play.code = .ok result)
    (scanned : ScannedCode play.code.toList) (fits : FitsLine play.code) : play.WellFormed := by
  rcases scanned with closed | unclosed
  · exact ⟨read, fits, closed.noSeparator, closed.getLast?_eq⟩
  · obtain ⟨result, read⟩ := read
    exact absurd read unclosed.not_read

/-- A group that was found on lines is well-formed when it can be scored. -/
theorem Group.wellFormed_of_scanned {group : Group} (sound : group.Sound)
    (scanned : ∀ member ∈ group.members, member.IsScanned) : group.WellFormed := by
  refine ⟨sound.enough, sound.distinct, fun member seated => ?_⟩
  obtain ⟨word, fits, plays⟩ := scanned member seated
  refine ⟨⟨sound.named member seated, fits, word⟩, fun play made => ?_⟩
  obtain ⟨scannedCode, fitsCode⟩ := plays play made
  have read := sound.readable member seated play made
  exact WrittenPlay.wellFormed_of_scanned read scannedCode fitsCode

namespace Sheet

theorem ofText_eq_ok_of_not_blank (notBlank : ¬isBlankText text = true) :
    ofText text = .ok sheet ↔
      ∃ found rules, Lines.tokens text = .ok found ∧
        ScoringRules.ofSettings (ofTokens found).settings = .ok rules ∧
        { ofTokens found with rules }.check = .ok () ∧ { ofTokens found with rules } = sheet := by
  simp only [ofText, if_neg notBlank, draftOf, Token.ofText, Scanner.run_text, bind_eq_ok_iff,
    Except.ok.injEq]
  constructor
  · rintro ⟨_, ⟨found, scan, rfl⟩, rules, known, ⟨⟩, checked, rfl⟩
    exact ⟨found, rules, scan, known, checked, rfl⟩
  · rintro ⟨found, rules, scan, known, checked, rfl⟩
    exact ⟨_, ⟨found, scan, rfl⟩, rules, known, ⟨⟩, checked, rfl⟩

/-- A layout of a well-formed sheet is read as the sheet. -/
theorem ofText_of_laidOut (wellFormed : sheet.WellFormed) (laidOut : sheet.LaidOut text) :
    ofText text = .ok sheet := by
  have notBlank := laidOut.not_isBlankText wellFormed.place
  obtain ⟨header, lines, whole, headerLaidOut, groupsLaidOut⟩ := laidOut
  obtain ⟨date, readDate, isDate⟩ := wellFormed.date
  have proper := properLines_cut text.toList
  rw [whole] at proper
  obtain ⟨members, later, assembled, closed, -⟩ :=
    linesAssembly_of_laidOut groupsLaidOut proper.2.2 wellFormed.groups
  obtain ⟨found, scan, folded⟩ := linesAssembly_eq_ok_iff.mp assembled
  have headerScan := headerTokens_of_laidOut headerLaidOut wellFormed.rawDate wellFormed.place
    wellFormed.settings text.length
  have draft := ofTokens_headerOf sheet.rawDate sheet.place sheet.settings folded
  have same : { ofTokens (headerOf sheet.rawDate sheet.place sheet.settings ++ found) with
      rules := sheet.rules } = sheet := by
    rw [draft, closed, readDate, ← isDate]
  refine (ofText_eq_ok_of_not_blank notBlank).mpr
    ⟨headerOf sheet.rawDate sheet.place sheet.settings ++ found, sheet.rules, ?_, ?_, ?_, same⟩
  · rw [Lines.tokens, whole]
    simp only [headerScan, scan, ok_followedBy_ok]
  · rw [draft]
    exact wellFormed.rules
  · rw [same]
    have staked := ScoringRules.stake_pos_of_ofSettings wellFormed.rules
    refine (check_eq_ok_iff staked).mpr ⟨wellFormed.place.nonempty, ?_, ?_⟩
    · rw [isDate]
      rfl
    · exact fun group member => (wellFormed.groups group member).sound

/-- A text that is not blank and that is read as a sheet is a layout of it, and the
sheet is well-formed. -/
theorem laidOut_of_ofText (read : ofText text = .ok sheet)
    (notBlank : ¬isBlankText text = true) : sheet.WellFormed ∧ sheet.LaidOut text := by
  obtain ⟨found, rules, scan, known, checked, rfl⟩ := (ofText_eq_ok_of_not_blank notBlank).mp read
  have staked := ScoringRules.stake_pos_of_ofSettings known
  obtain ⟨placed, dated, sound⟩ := (check_eq_ok_iff staked).mp checked
  cases whole : cut (placedLetters text.toList) with
  | nil =>
      simp only [Lines.tokens, whole, Except.ok.injEq] at scan
      subst scan
      exact absurd rfl placed
  | cons header lines =>
      simp only [Lines.tokens, whole] at scan
      have proper := properLines_cut text.toList
      rw [whole] at proper
      obtain ⟨first, more, scanHeader, scanLines, rfl⟩ := followedBy_eq_ok_iff.mp scan
      obtain ⟨members, groups, folded, hand, scanned, scannedGroups⟩ :=
        laidOut_linesAssembly (linesAssembly_eq_ok_iff.mpr ⟨more, scanLines, rfl⟩) proper.2.2
      rcases laidOut_headerTokens scanHeader proper.1 with
        noPlace |
        ⟨rawDate, place, settings, rfl, headerLaidOut, isWord, isPlace, settingsWellFormed⟩
      · exact absurd (ofTokens_place_eq_empty noPlace folded) placed
      · simp only [ofTokens_headerOf rawDate place settings folded] at *
        obtain ⟨date, readDate⟩ := Option.isSome_iff_exists.mp dated
        have rawDate_ne : rawDate ≠ "" := by
          rintro rfl
          cases readDate
        refine ⟨⟨isWord rawDate_ne, ⟨date, readDate, readDate⟩, isPlace placed, settingsWellFormed,
          known, fun group member => ?_⟩, header, lines, whole, headerLaidOut, hand.closed⟩
        have scannedAll : ∀ group ∈ closing members groups, ∀ member ∈ group.members,
            member.IsScanned := forall_closing.mpr ⟨fun _ => scanned, scannedGroups⟩
        exact Group.wellFormed_of_scanned (sound group member) (scannedAll group member)

/-- A text is read as a sheet exactly if the sheet is well-formed and the text is one of
its layouts. Apart from that a blank text is read as the empty sheet. -/
theorem ofText_eq_ok_iff (text : String) (sheet : Sheet) :
    ofText text = .ok sheet ↔
      (isBlankText text = true ∧ sheet = {}) ∨ (sheet.WellFormed ∧ sheet.LaidOut text) := by
  constructor
  · intro read
    by_cases blank : isBlankText text = true
    · rw [ofText, if_pos blank, Except.ok.injEq] at read
      exact .inl ⟨blank, read.symm⟩
    · exact .inr (laidOut_of_ofText read blank)
  · rintro (⟨blank, rfl⟩ | ⟨wellFormed, laidOut⟩)
    · rw [ofText, if_pos blank]
    · exact ofText_of_laidOut wellFormed laidOut

-- A byte order mark, a carriage return and all kinds of separators.
example :
    let sheet : Sheet :=
      { date := some ⟨2024, 3, 14, by decide⟩
        rawDate := "2024-03-14"
        place := "Doma"
        settings := [⟨"hundred=add", 20⟩]
        rules := { hundred := .additive }
        groups :=
          [⟨[⟨"Pepa", 37, [⟨"+k100", 42⟩, ⟨"e\x7ba b\x7d", 49⟩]⟩, ⟨"Jan", 57, []⟩,
            ⟨"Eva", 61, []⟩]⟩] }
    sheet.WellFormed ∧ sheet.LaidOut
      "\uFEFF2024-03-14\t Doma \x7b hundred=add \x7d\r\n\n\nPepa\t+k100  e\x7ba b\x7d \nJan\nEva" :=
  laidOut_of_ofText rfl (by decide)

end Sheet

end TrickLedger
