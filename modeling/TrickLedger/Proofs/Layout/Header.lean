import TrickLedger.Proofs.Layout.Groups
import TrickLedger.Proofs.Text.Runs

/-!
# The first line of a sheet

The date, the place and the options that are laid out on the first line are found
again, and whatever the line is, those found on it are laid out so.
-/

namespace TrickLedger

open Lines

variable {letters : List Placed} {line : Line} {placed : Placed} {rawDate place : String}
  {settings : List Setting} {found : List Token} {lineEnd textEnd : Nat}

/-- The tokens of a whole first line. -/
def headerOf (rawDate place : String) (settings : List Setting) : List Token :=
  .date rawDate :: .place place :: settings.map Setting.token

theorem isBlank_of_isSeparator (separator : placed.isSeparator = true) :
    Text.isBlank placed.letter = true := by
  rw [Placed.isSeparator, Scanner.isSeparator, Bool.or_eq_true, beq_iff_eq, beq_iff_eq] at separator
  rcases separator with equal | equal <;> rw [equal] <;> decide

theorem IsBlankRun.not_opening (blank : IsBlankRun letters) :
    ∀ placed ∈ letters, placed.letter ≠ '{' := by
  intro placed member opening
  simpa [opening, isBlank_opening] using blank placed member

/-! ### From a layout to its tokens -/

theorem optionTokens_braces {closing : Placed} {inside after : List Placed}
    (noClosing : ∀ placed ∈ inside, placed.letter ≠ '}') (closes : closing.letter = '}')
    (separators : IsGap after) (lineEnd : Nat) :
    optionTokens (inside ++ closing :: after) lineEnd = .ok (Lines.settings [] inside) := by
  have inside' : ∀ placed ∈ inside, decide (placed.letter ≠ '}') = true := by
    simpa using noClosing
  have rest : (closing :: after).dropWhile (·.letter ≠ '}') = closing :: after := by simp [closes]
  have taken : (closing :: after).takeWhile (·.letter ≠ '}') = [] := by simp [closes]
  rw [optionTokens, List.dropWhile_append_of_pos inside', List.takeWhile_append_of_pos inside',
    rest, taken, List.append_nil]
  simp [List.dropWhile_eq_nil_iff.mpr separators]

/-- A letter between the braces that is no separator belongs to an option. -/
theorem WordsLaidOut.isSeparator_or_mem {words : List (String × Nat)}
    (laidOut : WordsLaidOut words letters) (stands : placed ∈ letters) :
    placed.isSeparator = true ∨ ∃ word ∈ words, placed.letter ∈ word.1.toList := by
  induction laidOut with
  | none gap separators => exact .inl (separators placed stands)
  | word gap letters after text start words separators spelled ends more ih =>
      rw [List.mem_append, List.mem_append] at stands
      rcases stands with (inGap | inWord) | inAfter
      · exact .inl (separators placed inGap)
      · refine .inr ⟨(text, start), .head words, ?_⟩
        rw [spelled.toList_eq]
        exact List.mem_map_of_mem inWord
      · rcases ih inAfter with separator | ⟨word, member, spells⟩
        · exact .inl separator
        · exact .inr ⟨word, .tail _ member, spells⟩

theorem WordsLaidOut.not_closing
    (laidOut : WordsLaidOut (settings.map Setting.word) letters)
    (wellFormed : ∀ setting ∈ settings, setting.WellFormed) :
    ∀ placed ∈ letters, placed.letter ≠ '}' := by
  intro placed stands closing
  rcases laidOut.isSeparator_or_mem stands with separator | ⟨word, member, spells⟩
  · simpa [closing, isBlank_closing] using isBlank_of_isSeparator separator
  · obtain ⟨setting, found, rfl⟩ := List.mem_map.mp member
    exact (wellFormed setting found).inside (closing ▸ spells)

section Place

variable {lead run trail : List Placed} (isPlace : IsPlace (textOf run))
  (leadBlank : IsBlankRun lead) (trailBlank : IsBlankRun trail)

include isPlace leadBlank trailBlank

theorem IsPlace.not_opening : ∀ placed ∈ lead ++ run ++ trail, placed.letter ≠ '{' := by
  intro placed stands
  rw [List.mem_append, List.mem_append] at stands
  rcases stands with (inLead | inRun) | inTrail
  · exact leadBlank.not_opening placed inLead
  · intro opening
    apply isPlace.outside
    rw [toList_textOf, ← opening]
    exact List.mem_map_of_mem inRun
  · exact trailBlank.not_opening placed inTrail

theorem IsPlace.trim_padded :
    String.ofList (Text.trim ((lead ++ run ++ trail).map Placed.letter)) = textOf run := by
  have unchanged := isPlace.trimmed
  rw [toList_textOf] at unchanged
  rw [List.map_append, List.map_append, Text.trim_padded (List.forall_mem_map.mpr leadBlank)
    (List.forall_mem_map.mpr trailBlank), unchanged, textOf]

end Place

/-- The place and the options after it are found again. -/
theorem placeTokens_of_laidOut (laidOut : PlaceLaidOut place settings letters)
    (isPlace : IsPlace place) (wellFormed : ∀ setting ∈ settings, setting.WellFormed) :
    placeTokens letters lineEnd = .ok (.place place :: settings.map Setting.token) := by
  obtain ⟨lead, run, trail, options, leadBlank, rfl, trailBlank, laidOut⟩ := laidOut
  have trimmed := isPlace.trim_padded leadBlank trailBlank
  have outside : ∀ placed ∈ lead ++ run ++ trail, decide (placed.letter ≠ '{') = true := by
    simpa using isPlace.not_opening leadBlank trailBlank
  cases laidOut with
  | absent =>
      have none : (lead ++ run ++ trail).dropWhile (·.letter ≠ '{') = [] :=
        List.dropWhile_eq_nil_iff.mpr outside
      have whole : (lead ++ run ++ trail).takeWhile (·.letter ≠ '{') = lead ++ run ++ trail :=
        List.takeWhile_eq_self_iff.mpr outside
      rw [List.append_nil, placeTokens, none, whole, trimmed]
      rfl
  | braces settings opening closing inside after opens closes words separators =>
      have rest (others : List Placed) :
          (opening :: others).dropWhile (·.letter ≠ '{') = opening :: others := by simp [opens]
      have taken (others : List Placed) :
          (opening :: others).takeWhile (·.letter ≠ '{') = [] := by simp [opens]
      rw [placeTokens, List.dropWhile_append_of_pos outside, List.takeWhile_append_of_pos outside,
        rest, taken, List.append_nil, trimmed]
      have options := optionTokens_braces (words.not_closing wellFormed) closes separators lineEnd
      have noSeparator := fun setting made => (wellFormed setting made).word.2.2
      simp only [options, settings_of_laidOut words noSeparator]
      rfl

/-- A well-formed first line is found again. -/
theorem headerTokens_of_laidOut (laidOut : HeaderLaidOut rawDate place settings line.letters)
    (date : IsWord rawDate) (isPlace : IsPlace place)
    (wellFormed : ∀ setting ∈ settings, setting.WellFormed) (textEnd : Nat) :
    headerTokens line textEnd = .ok (headerOf rawDate place settings) := by
  unfold headerTokens
  generalize line.letters = letters at laidOut
  obtain ⟨before, dateRun, rest, separator, separators, spelled, ends, laidOut⟩ := laidOut
  obtain ⟨nonempty, noSeparator⟩ := isWord_letters spelled date
  have start : (before ++ dateRun ++ separator :: rest).dropWhile Placed.isSeparator =
      dateRun ++ separator :: rest := by
    obtain ⟨first, others, rfl⟩ := List.exists_cons_of_ne_nil nonempty
    rw [List.append_assoc, List.dropWhile_append_of_pos separators]
    exact List.dropWhile_cons_of_neg (by simp [noSeparator first (.head others)])
  have endsDate : EndsWord (separator :: rest) := by simpa [EndsWord] using ends
  obtain ⟨taken, dropped⟩ := EndsWord.takeWhile noSeparator endsDate
  simp only [start, taken, dropped, spelled, placeTokens_of_laidOut laidOut isPlace wellFormed]
  rfl

/-! ### From tokens to a layout -/

theorem exists_trimmed (letters : List Placed) :
    ∃ lead run trail, letters = lead ++ run ++ trail ∧ IsBlankRun lead ∧ IsBlankRun trail ∧
      String.ofList (Text.trim (letters.map Placed.letter)) = textOf run := by
  obtain ⟨lead, trail, whole, leadBlank, trailBlank⟩ :=
    Text.exists_eq_trim (letters.map Placed.letter)
  obtain ⟨front, trailRun, rfl, parts, rfl⟩ := List.map_eq_append_iff.mp whole
  obtain ⟨leadRun, run, rfl, rfl, trimmed⟩ := List.map_eq_append_iff.mp parts
  rw [List.forall_mem_map] at leadBlank trailBlank
  exact ⟨leadRun, run, trailRun, rfl, leadBlank, trailBlank, by rw [← trimmed, textOf]⟩

/-- Whatever stands after the opening brace, the options found there are laid out. -/
theorem laidOut_optionTokens {opening : Placed} (scan : optionTokens letters lineEnd = .ok found)
    (opens : opening.letter = '{') (proper : Proper letters) :
    ∃ settings : List Setting, found = settings.map Setting.token ∧
      SettingsLaidOut settings (opening :: letters) ∧
      ∀ setting ∈ settings, setting.WellFormed := by
  obtain ⟨inside, others, rfl, taken, dropped, noClosing, -⟩ :=
    exists_run (·.letter ≠ '}') letters
  rw [optionTokens, taken] at scan
  split at scan
  case h_1 => cases scan
  case h_2 closing tail rest =>
    have closes := letter_eq_of_dropWhile rest
    obtain rfl := dropped.symm.trans rest
    split at scan
    case h_2 => cases scan
    case h_1 last =>
      cases scan
      obtain ⟨settings, tokens, words, scanned⟩ := laidOut_settings inside
      have properInside := proper.subset (List.subset_append_left inside (closing :: tail))
      refine ⟨settings, tokens, .braces settings opening closing inside tail opens closes words
        (List.dropWhile_eq_nil_iff.mp last), fun setting made => ?_⟩
      have entry := List.mem_map_of_mem (f := Setting.word) made
      obtain ⟨nonempty, word⟩ := scanned setting made
      have fits := properInside.fitsLine fun letter => words.mem_letters entry
      refine ⟨⟨nonempty, fits, word⟩, fun closing => ?_⟩
      obtain ⟨placed, stands, equal⟩ := words.mem_letters entry closing
      exact absurd equal (by simpa using noClosing placed stands)

/-- Whatever stands after the date, the place and the options found there are laid out. -/
theorem laidOut_placeTokens (scan : placeTokens letters lineEnd = .ok found)
    (proper : Proper letters) :
    ∃ (place : String) (settings : List Setting),
      found = .place place :: settings.map Setting.token ∧ PlaceLaidOut place settings letters ∧
      (place ≠ "" → IsPlace place) ∧ ∀ setting ∈ settings, setting.WellFormed := by
  obtain ⟨front, others, rfl, taken, dropped, outside, -⟩ :=
    exists_run (·.letter ≠ '{') letters
  obtain ⟨lead, run, trail, rfl, leadBlank, trailBlank, trimmed⟩ := exists_trimmed front
  rw [placeTokens, taken] at scan
  simp only [trimmed] at scan
  have properRun : Proper run := proper.subset fun placed member => by simp [member]
  have isPlace (nonempty : textOf run ≠ "") : IsPlace (textOf run) := by
    refine ⟨nonempty, ?_, properRun.fitsLine_textOf, fun opening => ?_⟩
    · rw [← trimmed, String.toList_ofList, Text.trim_trim]
    · rw [toList_textOf] at opening
      obtain ⟨placed, member, equal⟩ := List.mem_map.mp opening
      exact absurd equal (by simpa using outside placed (by simp [member]))
  split at scan
  case h_1 rest =>
    obtain rfl := dropped.symm.trans rest
    cases scan
    exact ⟨textOf run, [], rfl, .place lead run trail [] leadBlank rfl trailBlank .absent, isPlace,
      by simp⟩
  case h_2 opening options rest =>
    have opens := letter_eq_of_dropWhile rest
    obtain rfl := dropped.symm.trans rest
    obtain ⟨_, more, placed, scanOptions, rfl⟩ := followedBy_eq_ok_iff.mp scan
    cases placed
    have properOptions : Proper options := proper.subset fun placed member => by simp [member]
    obtain ⟨settings, rfl, laidOut, wellFormed⟩ :=
      laidOut_optionTokens scanOptions opens properOptions
    exact ⟨textOf run, settings, rfl, .place lead run trail _ leadBlank rfl trailBlank laidOut,
      isPlace, wellFormed⟩

/-- Whatever the first line is, unless it ends with the date, what is found on it is laid
out. -/
theorem laidOut_headerTokens (scan : headerTokens line textEnd = .ok found)
    (proper : Proper line.letters) :
    (found = [] ∨ ∃ rawDate, found = [.date rawDate]) ∨
      ∃ (rawDate place : String) (settings : List Setting),
        found = headerOf rawDate place settings ∧
        HeaderLaidOut rawDate place settings line.letters ∧ (rawDate ≠ "" → IsWord rawDate) ∧
        (place ≠ "" → IsPlace place) ∧ ∀ setting ∈ settings, setting.WellFormed := by
  simp only [headerTokens] at scan
  generalize line.letters = letters at *
  obtain ⟨before, afterGap, rfl, -, gapDropped, separators, -⟩ :=
    exists_run Placed.isSeparator letters
  obtain ⟨date, others, rfl, taken, dropped, inside, stops⟩ :=
    exists_run (!·.isSeparator) afterGap
  have word : ∀ placed ∈ date, placed.isSeparator = false := by simpa using inside
  rw [gapDropped, taken, dropped] at scan
  cases others with
  | nil =>
      rw [Except.ok.injEq] at scan
      split at scan
      · exact .inl (.inl scan.symm)
      · exact .inl (.inr ⟨_, scan.symm⟩)
  | cons separator rest =>
      obtain ⟨_, more, dated, scanPlace, rfl⟩ := followedBy_eq_ok_iff.mp scan
      cases dated
      have properDate : Proper date := proper.subset fun placed member => by simp [member]
      have properRest : Proper rest := proper.subset fun placed member => by simp [member]
      obtain ⟨place, settings, rfl, laidOut, isPlace, wellFormed⟩ :=
        laidOut_placeTokens scanPlace properRest
      refine .inr ⟨textOf date, place, settings, rfl, ?_, fun nonempty => ?_, isPlace, wellFormed⟩
      · rw [← List.append_assoc]
        exact .header before date rest separator separators rfl (by simpa using stops) laidOut
      · refine ⟨nonempty, properDate.fitsLine_textOf, ?_⟩
        rw [toList_textOf, List.forall_mem_map]
        exact word

end TrickLedger
