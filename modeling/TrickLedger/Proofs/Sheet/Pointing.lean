import TrickLedger.Proofs.Layout.Draft
import TrickLedger.Proofs.Sheet.Faults
import TrickLedger.Proofs.Text.Bytes

/-!
# Faults point at what was refused

The offset of a fault comes from the scanner and is counted in characters.  The bytes that
it is reported with are those of the word, the letter or the start of the line that the
fault is about.
-/

namespace TrickLedger

open Lines

variable {text before marked after : String} {fault : SheetFault} {length number : Nat}

theorem SheetFault.marks_of_span (whole : text = before ++ marked ++ after)
    (span : fault.span? = some (.ofLength before.length length))
    (covers : marked.length = max length 1) (points : fault.PointsAt text before marked after) :
    fault.Marks text := by
  refine ⟨before, marked, after, whole, ?_, points⟩
  rw [bytes?, span, Option.map_some, whole, Text.Span.bytes_ofLength covers]

theorem SheetFault.marks_of_word (whole : text = before ++ marked ++ after) (nonempty : marked ≠ "")
    (span : fault.span? = some (.ofLength before.length marked.length))
    (points : fault.PointsAt text before marked after) : fault.Marks text := by
  apply marks_of_span whole span _ points
  have positive : 0 < marked.length := by
    rw [Nat.pos_iff_ne_zero, ne_eq, String.length_eq_zero_iff]
    exact nonempty
  omega

theorem SheetFault.marks_of_letter {letter : Char}
    (whole : text = before ++ String.singleton letter ++ after)
    (span : fault.span? = some (.ofLength before.length 1))
    (points : fault.PointsAt text before (String.singleton letter) after) : fault.Marks text := by
  apply marks_of_span whole span _ points
  rw [String.length_singleton, max_self]

/-! ### Parts of the text -/

theorem textOf_singleton (placed : Placed) : textOf [placed] = String.singleton placed.letter :=
  String.toList_inj.mp (by simp [textOf])

theorem eq_append_of_toList {front back : List Char}
    (whole : text.toList = front ++ marked.toList ++ back) :
    text = String.ofList front ++ marked ++ String.ofList back := by
  apply String.toList_inj.mp
  simp [whole]

theorem exists_text_of_placed {placed : Placed} (stands : placed ∈ placedLetters text.toList) :
    ∃ before after : String, text = before ++ String.singleton placed.letter ++ after ∧
      placed.offset = before.length := by
  obtain ⟨front, post, whole⟩ := List.append_of_mem stands
  obtain ⟨before, after, parts, place, -, -⟩ := Scanner.exists_placed whole
  refine ⟨String.ofList before, String.ofList after, eq_append_of_toList (by simp [parts]), ?_⟩
  rw [place, Nat.zero_add, String.length_ofList]

section Returns

variable (returns : ReturnsEndLines text.toList)

include returns

theorem exists_text_of_spells {word : List Placed} {start : Nat}
    (spelled : Spells word marked start) (unbroken : Scanner.Unbroken word)
    (stands : word <:+: placedLetters text.toList) :
    ∃ before after : String, text = before ++ marked ++ after ∧ start = before.length := by
  obtain ⟨placed, run, rfl⟩ := List.exists_cons_of_ne_nil spelled.ne_nil
  obtain ⟨before, after, parts, place⟩ := Scanner.exists_word_of_infix returns unbroken stands
  rw [← spelled.toList_eq] at parts
  refine ⟨String.ofList before, String.ofList after, eq_append_of_toList parts, ?_⟩
  rw [String.length_ofList, ← place, ← spelled.startOf_eq 0, startOf]

theorem exists_text_of_lineStart {header line : Line} {lines : List Line} {run others : List Placed}
    (lineCut : Scanner.LineCut (placedLetters text.toList) (header :: lines))
    (member : line ∈ lines) (starts : line.letters = run ++ others) (nonempty : run ≠ []) :
    ∃ before after : String, text = before ++ textOf run ++ after ∧
      startOf line.letters 0 = before.length ∧ EndsWithLineFeed before := by
  obtain ⟨placed, rest, rfl⟩ := List.exists_cons_of_ne_nil nonempty
  have letters : line.letters = placed :: (rest ++ others) := starts
  obtain ⟨before, after, parts, place⟩ :=
    Scanner.exists_lineStart returns lineCut member letters
  refine ⟨String.ofList (before ++ ['\n']),
    String.ofList (others.map Placed.letter ++ after), eq_append_of_toList ?_, ?_, ?_⟩
  · rw [parts, starts, toList_textOf]
    simp
  · rw [starts, List.cons_append, startOf, place, String.length_ofList, List.length_append]
    rfl
  · simp [EndsWithLineFeed]

end Returns

/-! ### Faults of scanning and of options -/

theorem marks_of_scanFault (scanFault : ScanFault (placedLetters text.toList) text.length fault) :
    fault.Marks text := by
  cases scanFault with
  | headerTail placed stands =>
      obtain ⟨before, after, whole, place⟩ := exists_text_of_placed stands
      apply SheetFault.marks_of_letter whole
      · rw [SheetFault.span?, place]
      · exact .headerTail placed.letter placed.offset rfl
  | afterComment placed stands =>
      obtain ⟨before, after, whole, place⟩ := exists_text_of_placed stands
      apply SheetFault.marks_of_letter whole
      · rw [SheetFault.span?, place]
      · exact .afterComment placed.letter placed.offset rfl
  | openOptions offset stands =>
      obtain ⟨before, after, whole, place⟩ := exists_text_of_placed stands
      apply SheetFault.marks_of_letter whole
      · rw [SheetFault.span?, ← place]
      · exact .openLine offset rfl
  | openText =>
      refine ⟨text, "", "", by simp, ?_, .openText text.length rfl rfl⟩
      rw [SheetFault.bytes?, SheetFault.span?, Option.map_some, Text.Span.bytes_ofLength_end]
      rfl

namespace Sheet

variable {draft : Sheet} {header : Line} {lines : List Line} {group : Group} {member : Member}

theorem StandsOn.exists_line (standsOn : draft.StandsOn header lines) (made : group ∈ draft.groups)
    (seated : member ∈ group.members) :
    ∃ line ∈ lines, ¬IsGap line.letters ∧ member.LaidOut line.letters :=
  standsOn.players.exists_line (List.mem_flatMap.mpr ⟨group, made, seated⟩)

theorem StandsOn.pairwise_start (standsOn : draft.StandsOn header lines)
    (lineCut : Scanner.LineCut (placedLetters text.toList) (header :: lines))
    (made : group ∈ draft.groups) :
    group.members.Pairwise fun first second => first.start < second.start := by
  have ordered := lineCut.pairwise (Scanner.pairwise_placedFrom 0 text.toList)
  have inDraft : group.members.Sublist draft.members :=
    List.sublist_flatten_of_mem (List.mem_map_of_mem made)
  exact (standsOn.players.pairwise_start ordered.of_cons).sublist inDraft

section Marks

variable (returns : ReturnsEndLines text.toList) (drafted : draftOf text = .ok draft)
  (lineCut : Scanner.LineCut (placedLetters text.toList) (header :: lines))
  (standsOn : draft.StandsOn header lines)

include returns drafted lineCut standsOn

theorem marks_of_unknownSetting {setting : Setting} (made : setting ∈ draft.settings) :
    (SheetFault.unknownSetting setting.text setting.start).Marks text := by
  obtain ⟨word, stands, spelled⟩ := standsOn.settings setting made
  have unbroken := lineCut.unbroken (.head lines)
  obtain ⟨before, after, whole, place⟩ := exists_text_of_spells returns spelled
    (fun placed inside => unbroken placed (stands.subset inside))
    (stands.trans (lineCut.isInfix (.head lines)))
  apply SheetFault.marks_of_word whole spelled.text_ne_empty
  · rw [SheetFault.span?, place]
  · exact .setting setting.start draft drafted (place ▸ made)

theorem marks_of_groupFault {index : Nat} (made : draft.groups[index]? = some group)
    (groupFault : GroupFault (index + 1) group fault) : fault.Marks text := by
  have inDraft : group ∈ draft.groups := List.mem_of_getElem? made
  have draftGroup : DraftGroup text (index + 1) group := ⟨⟨draft, drafted, made⟩, index.succ_pos⟩
  cases groupFault with
  | tooSmall small =>
      obtain ⟨members⟩ := group
      obtain ⟨first, others, rfl⟩ := List.exists_cons_of_ne_nil (standsOn.nonempty _ inDraft)
      obtain ⟨line, stands, notBlank, laidOut⟩ := standsOn.exists_line inDraft (.head others)
      obtain ⟨placed, run, letters⟩ := exists_cons_of_not_isGap notBlank
      have starts : line.letters = [placed] ++ run := letters
      obtain ⟨before, after, whole, place, ends⟩ :=
        exists_text_of_lineStart returns lineCut stands starts (List.cons_ne_nil _ _)
      rw [laidOut.startOf_eq] at place
      rw [textOf_singleton] at whole
      apply SheetFault.marks_of_letter whole
      · simp only [SheetFault.span?, Group.start, place]
      · exact .smallGroup _ _ _ first others draftGroup place ends String.length_singleton
  | emptyName member seated unnamed =>
      obtain ⟨line, stands, notBlank, laidOut⟩ := standsOn.exists_line inDraft seated
      -- Without a name the line starts with the separator in front of the plays.
      obtain ⟨separator, run, letters, separates⟩ := laidOut.starts_separator unnamed notBlank
      have starts : line.letters = [separator] ++ run := letters
      obtain ⟨before, after, whole, place, ends⟩ :=
        exists_text_of_lineStart returns lineCut stands starts (List.cons_ne_nil _ _)
      rw [laidOut.startOf_eq] at place
      rw [textOf_singleton] at whole
      apply SheetFault.marks_of_letter whole
      · rw [SheetFault.span?, place]
      · exact .emptyName _ _ group member separator.letter draftGroup seated unnamed place ends
          separates rfl
  | repeatedName earlier later member members named distinct repeated =>
      -- The name stands at the start of the line, and the earlier players on earlier lines.
      obtain ⟨players⟩ := group
      obtain rfl : players = earlier ++ member :: later := members
      have seated : member ∈ earlier ++ member :: later := by simp
      obtain ⟨line, stands, notBlank, laidOut⟩ := standsOn.exists_line inDraft seated
      have start := laidOut.startOf_eq
      obtain ⟨name, others, letters, spelled⟩ := laidOut.starts_name
      obtain ⟨before, after, whole, place, ends⟩ := exists_text_of_lineStart returns lineCut stands
        letters (by rintro rfl; exact named spelled.symm)
      rw [spelled] at whole
      rw [start] at place
      have positive : max member.name.length 1 = member.name.length := by
        have := mt String.length_eq_zero_iff.mp named
        omega
      have order := standsOn.pairwise_start lineCut inDraft
      apply SheetFault.marks_of_word whole named
      · rw [SheetFault.span?, place, positive]
      · exact .repeatedName _ _ earlier later member draftGroup rfl place ends
          (List.count_eq_one_of_mem distinct repeated)
          fun other before => (List.pairwise_append.mp order).2.2 other before member (.head _)
  | invalidPlay member play written cause seated made refused =>
      obtain ⟨line, stands, notBlank, laidOut⟩ := standsOn.exists_line inDraft seated
      obtain ⟨word, inLine, spelled⟩ := laidOut.exists_infix (List.mem_of_getElem? made)
      have unbroken := lineCut.unbroken (.tail header stands)
      obtain ⟨before, after, whole, place⟩ := exists_text_of_spells returns spelled
        (fun placed inside => unbroken placed (inLine.subset inside))
        (inLine.trans (lineCut.isInfix (.tail header stands)))
      apply SheetFault.marks_of_word whole spelled.text_ne_empty
      · rw [SheetFault.span?, WrittenPlay.span, place]
      · exact .invalidPlay _ play _ cause group member draftGroup seated (place ▸ made) refused

end Marks

end Sheet

/-- Where a text is refused with a span and carriage returns only stand in front of line
feeds, the bytes of the span are those of the part that was refused. -/
theorem SheetFault.marks_of_ofText (text : String) (fault : SheetFault) (span : Text.Span)
    (returns : ReturnsEndLines text.toList) (refused : Sheet.ofText text = .error fault)
    (spanned : fault.span? = some span) : fault.Marks text := by
  rcases Sheet.exists_of_ofText refused with scan | ⟨found, scan, inDraft⟩
  · exact marks_of_scanFault (scanFault_of_tokens scan)
  obtain ⟨header, lines, lineCut, standsOn⟩ := Sheet.exists_standsOn scan
  have drafted : Sheet.draftOf text = .ok (Sheet.ofTokens found) := by
    rw [Sheet.draftOf, Token.ofText, Scanner.run_text, scan, ok_bind]
  rcases inDraft with unknown | ⟨rules, known, checked⟩
  · obtain ⟨earlier, setting, others, settings, rfl⟩ :=
      ScoringRules.exists_of_applySettings unknown
    exact Sheet.marks_of_unknownSetting returns drafted lineCut standsOn (by simp [settings])
  · have staked := ScoringRules.stake_pos_of_ofSettings known
    obtain ⟨-, rfl⟩ | ⟨-, rfl⟩ | ⟨index, group, -, made, groupFault⟩ :=
      Sheet.exists_of_fault? staked checked
    · cases spanned
    · cases spanned
    · exact Sheet.marks_of_groupFault returns drafted lineCut standsOn made groupFault

/-- A text with a byte order mark, carriage returns and letters of several bytes, in which a
name stands twice. -/
def twiceListed : String :=
  "\uFEFF2024-03-14 U Fleků\r\n\r\nJiří e\r\nŽaneta e\x7bř\x7d\r\nJiří\r\n"

theorem SheetFault.marks_of_ofText_twiceListed :
    Sheet.ofText twiceListed = .error (.repeatedName 1 "Jiří" 44) ∧
      (SheetFault.repeatedName 1 "Jiří" 44).Marks twiceListed := by
  have refused : Sheet.ofText twiceListed = .error (.repeatedName 1 "Jiří" 44) := rfl
  exact ⟨refused, marks_of_ofText twiceListed _ (.ofLength 44 4) (by decide) refused rfl⟩

end TrickLedger
