import TrickLedger.Proofs.Scanning.Text

/-!
# Faults of scanning

A text that does not fall into tokens has a fault at one of its letters, or at its end if
the options are still open there.
-/

namespace TrickLedger

namespace Lines

variable {letters : List Placed} {line : Line} {lines : List Line} {lineEnd textEnd : Nat}
  {fault : SheetFault}

theorem followedBy_eq_error_iff {first others : Except SheetFault (List Token)} :
    followedBy first others = .error fault ↔
      first = .error fault ∨ ∃ found, first = .ok found ∧ others = .error fault := by
  cases first <;> cases others <;> simp

/-- The faults of a text that does not fall into tokens, each at its place. -/
inductive ScanFault (letters : List Placed) (textEnd : Nat) : SheetFault → Prop
  | headerTail (placed : Placed) (stands : placed ∈ letters) :
      ScanFault letters textEnd (.unexpectedHeaderTail placed.letter placed.offset)
  | afterComment (placed : Placed) (stands : placed ∈ letters) :
      ScanFault letters textEnd (.unexpectedAfterComment placed.letter placed.offset)
  | openOptions (offset : Nat) (stands : ⟨'\n', offset⟩ ∈ letters) :
      ScanFault letters textEnd (.unterminatedOptions offset)
  | openText : ScanFault letters textEnd (.unterminatedOptions textEnd)

/-- A fault of options is at a letter after them or at the end of their line. -/
theorem fault_of_optionTokens (refused : optionTokens letters lineEnd = .error fault) :
    fault = .unterminatedOptions lineEnd ∨
      ∃ placed ∈ letters, fault = .unexpectedHeaderTail placed.letter placed.offset := by
  rw [optionTokens] at refused
  split at refused
  case h_1 =>
    cases refused
    exact .inl rfl
  case h_2 closing tail rest =>
    split at refused
    case h_1 => cases refused
    case h_2 found others after =>
      cases refused
      have inTail : found ∈ tail :=
        (List.dropWhile_sublist _).subset (after ▸ List.mem_cons_self)
      have inLetters : found ∈ letters :=
        (List.dropWhile_sublist _).subset (rest ▸ List.mem_cons_of_mem closing inTail)
      exact .inr ⟨found, inLetters, rfl⟩

theorem fault_of_headerTokens (refused : headerTokens line textEnd = .error fault) :
    fault = .unterminatedOptions (line.lineFeed.getD textEnd) ∨
      ∃ placed ∈ line.letters, fault = .unexpectedHeaderTail placed.letter placed.offset := by
  simp only [headerTokens] at refused
  split at refused
  case h_1 => cases refused
  case h_2 separator rest behindDate =>
    have restSubset : rest ⊆ line.letters := by
      intro placed member
      apply (List.dropWhile_sublist Placed.isSeparator).subset
      apply (List.dropWhile_sublist (!·.isSeparator)).subset
      rw [behindDate]
      exact .tail _ member
    obtain place | ⟨_, -, place⟩ := followedBy_eq_error_iff.mp refused
    · cases place
    simp only [placeTokens] at place
    split at place
    case h_1 => cases place
    case h_2 opening options behindPlace =>
      obtain inOptions | ⟨_, -, inOptions⟩ := followedBy_eq_error_iff.mp place
      · cases inOptions
      obtain unclosed | ⟨placed, member, tail⟩ := fault_of_optionTokens inOptions
      · exact .inl unclosed
      · refine .inr ⟨placed, restSubset ?_, tail⟩
        exact (List.dropWhile_sublist _).subset (behindPlace ▸ List.mem_cons_of_mem opening member)

theorem fault_of_playTokens (refused : playTokens letters = .error fault) :
    ∃ placed ∈ letters, fault = .unexpectedAfterComment placed.letter placed.offset := by
  have behind {letters others after : List Placed} {first next : Placed}
      (start : letters.dropWhile Placed.isSeparator = first :: others)
      (rest : (cutPlay (first :: others)).2 = next :: after) : next :: after ⊆ letters := by
    intro placed member
    apply (List.dropWhile_sublist Placed.isSeparator).subset
    rw [start, ← cutPlay_append (first :: others), rest]
    exact List.mem_append_right _ member
  fun_induction playTokens letters with
  | case1 => cases refused
  | case2 => cases refused
  | case3 letters first others start next after rest separator ih =>
      obtain played | ⟨_, -, later⟩ := followedBy_eq_error_iff.mp refused
      · cases played
      obtain ⟨placed, member, found⟩ := ih later
      exact ⟨placed, behind start rest (.tail _ member), found⟩
  | case4 letters first others start next after rest word =>
      cases refused
      exact ⟨next, behind start rest (.head _), rfl⟩

theorem fault_of_bodyTokens (refused : bodyTokens line = .error fault) :
    ∃ placed ∈ line.letters, fault = .unexpectedAfterComment placed.letter placed.offset := by
  rw [bodyTokens] at refused
  split at refused
  · cases refused
  · obtain named | ⟨_, -, played⟩ := followedBy_eq_error_iff.mp refused
    · cases named
    obtain ⟨placed, member, found⟩ := fault_of_playTokens played
    exact ⟨placed, (List.dropWhile_sublist _).subset member, found⟩

theorem fault_of_bodyLines (refused : bodyLines lines = .error fault) :
    ∃ line ∈ lines, ∃ placed ∈ line.letters,
      fault = .unexpectedAfterComment placed.letter placed.offset := by
  induction lines with
  | nil => cases refused
  | cons line lines ih =>
      rw [bodyLines] at refused
      obtain here | ⟨_, -, later⟩ := followedBy_eq_error_iff.mp refused
      · exact ⟨line, .head lines, fault_of_bodyTokens here⟩
      · obtain ⟨other, member, found⟩ := ih later
        exact ⟨other, .tail line member, found⟩

end Lines

namespace Scanner

open Lines

variable {letters : List Placed} {lines : List Line} {line : Line}

theorem LineCut.isInfix (cut : LineCut letters lines) (member : line ∈ lines) :
    line.letters <:+: letters := by
  induction cut with
  | last letters unbroken =>
      obtain rfl := List.mem_singleton.mp member
      exact List.infix_rfl
  | line letters others offset lines unbroken cut ih =>
      rcases List.mem_cons.mp member with rfl | later
      · exact (List.prefix_append letters _).isInfix
      · have behind : others <:+ letters ++ ⟨'\n', offset⟩ :: others :=
          (List.suffix_cons _ others).trans (List.suffix_append letters _)
        exact (ih later).trans behind.isInfix

theorem LineCut.mem_letters (cut : LineCut letters lines) (member : line ∈ lines)
    {placed : Placed} (stands : placed ∈ line.letters) : placed ∈ letters :=
  (cut.isInfix member).subset stands

theorem LineCut.mem_lineFeed {header : Line} (cut : LineCut letters (header :: lines))
    {offset : Nat} (ends : header.lineFeed = some offset) : ⟨'\n', offset⟩ ∈ letters := by
  cases cut with
  | last letters unbroken => cases ends
  | line letters others offset lines unbroken cut =>
      cases ends
      simp

end Scanner

namespace Lines

/-- Every fault of scanning is at a letter of the text, or at its end. -/
theorem scanFault_of_tokens {text : String} {fault : SheetFault}
    (refused : tokens text = .error fault) :
    ScanFault (placedLetters text.toList) text.length fault := by
  have lineCut := Scanner.lineCut_cut (placedLetters text.toList)
  rw [tokens] at refused
  generalize cut (placedLetters text.toList) = lines at *
  cases lines with
  | nil => cases refused
  | cons header lines =>
      obtain inHeader | ⟨_, -, inBody⟩ := followedBy_eq_error_iff.mp refused
      · obtain rfl | ⟨placed, member, rfl⟩ := fault_of_headerTokens inHeader
        · cases ends : header.lineFeed with
          | none => exact .openText
          | some offset => exact .openOptions offset (lineCut.mem_lineFeed ends)
        · exact .headerTail placed (lineCut.mem_letters (.head lines) member)
      · obtain ⟨line, recorded, placed, member, rfl⟩ := fault_of_bodyLines inBody
        exact .afterComment placed (lineCut.mem_letters (.tail header recorded) member)

end Lines

end TrickLedger
