import TrickLedger.Proofs.Layout.Plays
import TrickLedger.Proofs.Scanning.Feeding

/-!
# Pending text

What a scanner holds after any characters, with faults among them, is a run of the
characters that it took last.  Its part of the sheet says what this run looks like; between
words it is empty.
-/

namespace TrickLedger

namespace Scanner

open Lines

/-! ### What is pending -/

/-- What a scanner can hold in a part of the sheet. -/
def Shape : Phase → List Placed → Prop
  | .headerTail, held | .indent, held | .gap, held => held = []
  | .date, held | .options, held | .name, held => ∀ placed ∈ held, placed.isSeparator = false
  | .place, _ => True
  | .play, held => held ≠ [] ∧ ∀ placed ∈ held, placed.isPlain = true
  | .comment, held => ∃ body mark comment, held = body ++ mark :: comment ∧
      (∀ placed ∈ body, placed.isPlain = true) ∧ mark.letter = '{' ∧
      ∀ placed ∈ comment, placed.letter ≠ '}'
  | .afterComment, held => ∃ body mark comment closing,
      held = body ++ mark :: comment ++ [closing] ∧
      (∀ placed ∈ body, placed.isPlain = true) ∧ mark.letter = '{' ∧
      (∀ placed ∈ comment, placed.letter ≠ '}') ∧ closing.letter = '}'

variable {held taken : List Placed} {phase : Phase} {stale : Nat} {placed : Placed}
  {scanner next : Scanner} {token : Option Token}

theorem shape_opening (plain : ∀ placed ∈ held, placed.isPlain = true)
    (opening : placed.letter = '{') : Shape .comment (held ++ [placed]) :=
  ⟨held, placed, [], rfl, plain, opening, by simp⟩

theorem shape_word (plain : ∀ placed ∈ held, placed.isPlain = true)
    (word : placed.isSeparator = false) (noComment : placed.letter ≠ '{') :
    Shape .play (held ++ [placed]) := by
  refine ⟨by simp, List.forall_mem_append.mpr ⟨plain, ?_⟩⟩
  simp [Placed.isPlain, word, noComment]

/-- A scanner that goes on with a play holds its comment if a brace opens one. -/
theorem shape_play (plain : ∀ placed ∈ held, placed.isPlain = true)
    (word : placed.isSeparator = false) :
    Shape (if placed.letter = '{' then .comment else .play) (held ++ [placed]) := by
  split
  case isTrue opening => exact shape_opening plain opening
  case isFalse noComment => exact shape_word plain word noComment

theorem shape_unseparated (unseparated : ∀ placed ∈ held, placed.isSeparator = false)
    (word : placed.isSeparator = false) : ∀ other ∈ held ++ [placed], other.isSeparator = false :=
  List.forall_mem_append.mpr ⟨unseparated, List.forall_mem_singleton.mpr word⟩

theorem letter_ne_lineFeed (separator : placed.isSeparator = true) : placed.letter ≠ '\n' := by
  intro lineFeed
  rw [Placed.isSeparator, lineFeed, isSeparator_lineFeed] at separator
  contradiction

/-- The ways to the next scanner: the character is added to what is pending, which a line feed
never is, or nothing is pending any more. -/
inductive Moves (held : List Placed) (stale : Nat) (placed : Placed) : Scanner → Prop
  | adds (phase : Phase) (unbroken : placed.letter ≠ '\n') (shape : Shape phase (held ++ [placed])) :
      Moves held stale placed (holding phase (held ++ [placed]) stale)
  | clears (phase : Phase) (stale' : Nat) (shape : Shape phase [])
      (lineFeed : placed.letter = '\n' → phase = .name) :
      Moves held stale placed (holding phase [] stale')

theorem Moves.push (unbroken : placed.letter ≠ '\n') {after : Phase}
    (shape : Shape after (held ++ [placed])) :
    Moves held stale placed
      ((holding phase held stale).push after placed.letter placed.offset) := by
  rw [holding_push]
  exact .adds after unbroken shape

theorem Moves.lineFeed : Moves held stale placed ((holding phase held stale).enter .name) :=
  .clears .name (startOf held stale) (by simp [Shape]) fun _ => rfl

theorem Moves.separator (separator : placed.isSeparator = true) {after : Phase}
    (shape : Shape after []) : Moves held stale placed ((holding phase held stale).enter after) :=
  .clears after (startOf held stale) shape fun lineFeed =>
    absurd lineFeed (letter_ne_lineFeed separator)

/-- A scanner that passes over a separator holds nothing. -/
theorem Moves.skip (separator : placed.isSeparator = true) (shape : Shape phase []) :
    Moves [] stale placed (holding phase [] stale) :=
  .clears phase stale shape fun lineFeed => absurd lineFeed (letter_ne_lineFeed separator)

theorem moves_of_advance (shape : Shape phase held)
    (result : (holding phase held stale).advance placed.letter placed.offset = .ok (next, token)) :
    Moves held stale placed next := by
  cases phase with
  | date =>
      simp only [advance, holding_phase, holding_pending, textOf_isEmpty,
        List.isEmpty_iff] at result
      split at result
      case isTrue separator =>
        split at result <;> cases result
        case isTrue empty =>
          subst empty
          exact .skip separator shape
        case isFalse => exact .separator separator trivial
      case isFalse word =>
        split at result <;> cases result
        case isTrue => exact .lineFeed
        case isFalse unbroken => exact .push unbroken (shape_unseparated shape (by simpa using word))
  | place =>
      simp only [advance, holding_phase] at result
      split at result
      case isTrue opening =>
        cases result
        exact .clears .options _ (by simp [Shape]) (by simp [opening])
      case isFalse =>
        split at result <;> cases result
        case isTrue => exact .lineFeed
        case isFalse unbroken => exact .push unbroken trivial
  | options =>
      simp only [advance, holding_phase] at result
      split at result
      case isTrue closing =>
        cases result
        exact .clears .headerTail _ rfl (by simp [closing])
      case isFalse =>
        split at result
        case isTrue separator =>
          cases result
          exact .separator separator (by simp [Shape])
        case isFalse word =>
          split at result <;> cases result
          case isFalse unbroken =>
            exact .push unbroken (shape_unseparated shape (by simpa using word))
  | headerTail =>
      cases shape
      simp only [advance, holding_phase] at result
      split at result
      case isTrue separator =>
        cases result
        exact .skip separator rfl
      case isFalse =>
        split at result <;> cases result
        exact .lineFeed
  | name =>
      simp only [advance, holding_phase, holding_pending, textOf_isEmpty,
        List.isEmpty_iff] at result
      split at result
      case isTrue separator =>
        split at result <;> cases result
        case isTrue empty =>
          subst empty
          exact .clears .indent placed.offset rfl fun lineFeed =>
            absurd lineFeed (letter_ne_lineFeed separator)
        case isFalse => exact .separator separator rfl
      case isFalse word =>
        split at result
        case isTrue =>
          split at result <;> cases result
          case isTrue empty =>
            subst empty
            exact .clears .name stale shape fun _ => rfl
          case isFalse => exact .lineFeed
        case isFalse unbroken =>
          cases result
          exact .push unbroken (shape_unseparated shape (by simpa using word))
  | indent =>
      cases shape
      simp only [advance, holding_phase] at result
      split at result
      case isTrue separator =>
        cases result
        exact .skip separator rfl
      case isFalse word =>
        split at result <;> cases result
        case isTrue => exact .lineFeed
        case isFalse unbroken =>
          rw [holding_enter]
          exact .push unbroken (shape_play (by simp) (by simpa using word))
  | gap =>
      cases shape
      simp only [advance, holding_phase] at result
      split at result
      case isTrue separator =>
        cases result
        exact .skip separator rfl
      case isFalse word =>
        split at result <;> cases result
        case isTrue => exact .lineFeed
        case isFalse unbroken =>
          exact .push unbroken (shape_play (by simp) (by simpa using word))
  | play =>
      simp only [advance, holding_phase] at result
      split at result
      case isTrue separator =>
        cases result
        exact .separator separator rfl
      case isFalse word =>
        split at result <;> cases result
        case isTrue => exact .lineFeed
        case isFalse unbroken => exact .push unbroken (shape_play shape.2 (by simpa using word))
  | comment =>
      obtain ⟨body, mark, comment, rfl, plain, opening, inside⟩ := shape
      simp only [advance, holding_phase] at result
      split at result
      case isTrue closing =>
        cases result
        exact .push (by simp [closing]) ⟨body, mark, comment, placed, rfl, plain, opening, inside,
          closing⟩
      case isFalse noClosing =>
        split at result <;> cases result
        case isTrue => exact .lineFeed
        case isFalse unbroken =>
          refine .push unbroken ⟨body, mark, comment ++ [placed], by simp, plain, opening, ?_⟩
          exact List.forall_mem_append.mpr ⟨inside, List.forall_mem_singleton.mpr noClosing⟩
  | afterComment =>
      simp only [advance, holding_phase] at result
      split at result
      case isTrue separator =>
        cases result
        exact .separator separator rfl
      case isFalse =>
        split at result <;> cases result
        exact .lineFeed

/-! ### Faults -/

/-- The faults of a character in the parts of a sheet. -/
inductive Refuses (placed : Placed) : Phase → SheetFault → Prop
  | options (lineFeed : placed.letter = '\n') :
      Refuses placed .options (.unterminatedOptions placed.offset)
  | headerTail (word : placed.isSeparator = false) (unbroken : placed.letter ≠ '\n') :
      Refuses placed .headerTail (.unexpectedHeaderTail placed.letter placed.offset)
  | afterComment (word : placed.isSeparator = false) (unbroken : placed.letter ≠ '\n') :
      Refuses placed .afterComment (.unexpectedAfterComment placed.letter placed.offset)

theorem advance_eq_error_iff {fault : SheetFault} :
    scanner.advance placed.letter placed.offset = .error fault ↔
      Refuses placed scanner.phase fault := by
  constructor
  · intro refused
    obtain ⟨phase, pending, start⟩ := scanner
    cases phase with
    | options =>
        simp only [advance] at refused
        split at refused
        case isTrue => cases refused
        case isFalse =>
          split at refused
          case isTrue => cases refused
          case isFalse =>
            split at refused <;> cases refused
            case isTrue lineFeed => exact .options lineFeed
    | headerTail =>
        simp only [advance] at refused
        split at refused
        case isTrue => cases refused
        case isFalse word =>
          split at refused <;> cases refused
          case isFalse unbroken => exact .headerTail (by simpa using word) unbroken
    | afterComment =>
        simp only [advance] at refused
        split at refused
        case isTrue => cases refused
        case isFalse word =>
          split at refused <;> cases refused
          case isFalse unbroken => exact .afterComment (by simpa using word) unbroken
    | _ =>
        simp only [advance] at refused
        repeat' split at refused
        all_goals cases refused
  · intro refuses
    generalize standing : scanner.phase = phase at refuses
    cases refuses with
    | options lineFeed => simp [advance, standing, lineFeed]
    | headerTail word unbroken => simp [advance, standing, word, unbroken]
    | afterComment word unbroken => simp [advance, standing, word, unbroken]

/-! ### Runs -/

/-- A scanner holds the last of the characters that were taken. -/
inductive HoldsLast (taken : List Placed) : Scanner → Prop
  | run (phase : Phase) (held : List Placed) (stale : Nat) (last : held <:+ taken)
      (shape : Shape phase held)
      (unbroken : ∀ placed ∈ held, placed.letter ≠ '\n' ∧ placed.letter ≠ '\r') :
      HoldsLast taken (holding phase held stale)

theorem HoldsLast.quiet (holds : HoldsLast taken scanner) :
    scanner.phase.isQuiet = true → scanner.pending = "" := by
  obtain ⟨phase, held, stale, -, shape, -⟩ := holds
  intro quiet
  cases phase <;> first | contradiction | exact congrArg textOf shape

theorem HoldsLast.feed_eq (holds : HoldsLast taken scanner) (placed : Placed) :
    scanner.feed placed = scanner.kept (scanner.take placed.letter placed.offset) :=
  feed_eq_kept scanner placed holds.quiet

theorem HoldsLast.feed (holds : HoldsLast taken scanner) (placed : Placed) :
    HoldsLast (taken ++ if scanner.takes placed then [placed] else []) (scanner.feed placed).2 := by
  rw [takes, holds.feed_eq, take]
  by_cases ignored : isIgnored placed.letter placed.offset
  · simpa [ignored, kept] using holds
  cases result : scanner.advance placed.letter placed.offset with
  | error fault => simpa [ignored, kept, Except.isOk, Except.toBool] using holds
  | ok outcome =>
      obtain ⟨next, token⟩ := outcome
      simp only [ignored, kept, Except.isOk, Except.toBool]
      obtain ⟨phase, held, stale, last, shape, unbroken⟩ := holds
      -- What is held grows at its end, together with what was taken, or it starts anew.
      cases moves_of_advance shape result with
      | adds after noLineFeed shapeAfter =>
          refine .run after (held ++ [placed]) stale ?_ shapeAfter ?_
          · obtain ⟨before, rfl⟩ := last
            exact ⟨before, by simp⟩
          · have noReturn : placed.letter ≠ '\r' := by
              intro carriageReturn
              simp [isIgnored, carriageReturn] at ignored
            exact List.forall_mem_append.mpr
              ⟨unbroken, List.forall_mem_singleton.mpr ⟨noLineFeed, noReturn⟩⟩
      | clears after stale' shapeAfter =>
          exact .run after [] stale' List.nil_suffix shapeAfter (by simp)

theorem HoldsLast.fed (holds : HoldsLast taken scanner) (inputs : List Placed) :
    HoldsLast (taken ++ scanner.takenOf inputs) (scanner.fed inputs) := by
  induction inputs generalizing scanner taken with
  | nil => rwa [takenOf, List.append_nil]
  | cons placed others ih =>
      rw [takenOf, ← List.append_assoc]
      exact ih (holds.feed placed)

theorem holdsLast_fed (inputs : List Placed) :
    HoldsLast (({} : Scanner).takenOf inputs) (({} : Scanner).fed inputs) :=
  HoldsLast.fed (.run .date [] 0 List.nil_suffix (by simp [Shape]) (by simp) : HoldsLast [] {})
    inputs

/-- What is pending fits the part of the sheet, and starts where its first character was. -/
structure Consistent (taken : List Placed) (scanner : Scanner) : Prop where
  quiet : scanner.phase.isQuiet = true → scanner.pending = ""
  busy : scanner.phase = .play ∨ scanner.phase = .comment ∨ scanner.phase = .afterComment →
    scanner.pending ≠ ""
  unbroken : '\n' ∉ scanner.pending.toList ∧ '\r' ∉ scanner.pending.toList
  separated : (∃ letter ∈ scanner.pending.toList, isSeparator letter = true) →
    scanner.phase = .place ∨ scanner.phase = .comment ∨ scanner.phase = .afterComment
  play : scanner.phase = .play → '{' ∉ scanner.pending.toList
  comment : scanner.phase = .comment → ∃ body comment,
    scanner.pending.toList = body ++ '{' :: comment ∧
      (∀ letter ∈ body, OutsideComment letter) ∧ '}' ∉ comment
  afterComment : scanner.phase = .afterComment → ∃ body comment,
    scanner.pending.toList = body ++ '{' :: comment ++ ['}'] ∧
      (∀ letter ∈ body, OutsideComment letter) ∧ '}' ∉ comment
  start : ∃ held, held <:+ taken ∧ scanner.pending = textOf held ∧
    ∀ first ∈ held.head?, scanner.start = first.offset

theorem outsideComment_letters (plain : ∀ placed ∈ held, placed.isPlain = true) :
    ∀ letter ∈ held.map Placed.letter, OutsideComment letter :=
  List.forall_mem_map.mpr fun placed member => isPlain_iff.mp (plain placed member)

theorem Shape.ne_nil (shape : Shape phase held)
    (busy : phase = .play ∨ phase = .comment ∨ phase = .afterComment) : held ≠ [] := by
  rcases busy with rfl | rfl | rfl
  · exact shape.1
  · obtain ⟨body, mark, comment, rfl, -⟩ := shape
    simp
  · obtain ⟨body, mark, comment, closing, rfl, -⟩ := shape
    simp

/-- Separators are pending only in places and comments. -/
theorem Shape.separated (shape : Shape phase held) {placed : Placed} (member : placed ∈ held)
    (separator : placed.isSeparator = true) :
    phase = .place ∨ phase = .comment ∨ phase = .afterComment := by
  cases phase with
  | place => exact .inl rfl
  | comment => exact .inr (.inl rfl)
  | afterComment => exact .inr (.inr rfl)
  | headerTail => cases shape; cases member
  | indent => cases shape; cases member
  | gap => cases shape; cases member
  | play =>
      have outside := isPlain_iff.mp (shape.2 placed member)
      exact absurd separator (by simp [outside.1, ← isSeparator_letter])
  | _ => exact absurd separator (by simp [shape placed member])

theorem HoldsLast.consistent (holds : HoldsLast taken scanner) : Consistent taken scanner where
  quiet := holds.quiet
  busy := by
    obtain ⟨phase, held, stale, -, shape, -⟩ := holds
    intro busy empty
    have none : held.isEmpty = true := by
      rw [← textOf_isEmpty]
      exact String.isEmpty_iff.mpr empty
    exact shape.ne_nil busy (List.isEmpty_iff.mp none)
  unbroken := by
    obtain ⟨phase, held, stale, -, -, unbroken⟩ := holds
    rw [holding_pending, toList_textOf]
    constructor <;> intro member <;> obtain ⟨placed, stands, letter⟩ := List.mem_map.mp member
    · exact (unbroken placed stands).1 letter
    · exact (unbroken placed stands).2 letter
  separated := by
    obtain ⟨phase, held, stale, -, shape, -⟩ := holds
    rintro ⟨letter, member, separator⟩
    rw [holding_pending, toList_textOf] at member
    obtain ⟨placed, stands, rfl⟩ := List.mem_map.mp member
    exact shape.separated stands separator
  play := by
    obtain ⟨phase, held, stale, -, shape, -⟩ := holds
    rintro rfl opening
    rw [holding_pending, toList_textOf] at opening
    exact (outsideComment_letters shape.2 _ opening).2 rfl
  comment := by
    obtain ⟨phase, held, stale, -, shape, -⟩ := holds
    rintro rfl
    obtain ⟨body, mark, comment, rfl, plain, opening, inside⟩ := shape
    refine ⟨body.map Placed.letter, comment.map Placed.letter, ?_, outsideComment_letters plain, ?_⟩
    · simp [toList_textOf, opening]
    · simpa using inside
  afterComment := by
    obtain ⟨phase, held, stale, -, shape, -⟩ := holds
    rintro rfl
    obtain ⟨body, mark, comment, closing, rfl, plain, opening, inside, closes⟩ := shape
    refine ⟨body.map Placed.letter, comment.map Placed.letter, ?_, outsideComment_letters plain, ?_⟩
    · simp [toList_textOf, opening, closes]
    · simpa using inside
  start := by
    obtain ⟨phase, held, stale, last, -, -⟩ := holds
    refine ⟨held, last, rfl, ?_⟩
    cases held with
    | nil => simp
    | cons first held => simp [startOf]

theorem HoldsLast.feed_lineFeed (holds : HoldsLast taken scanner) {placed : Placed}
    (lineFeed : placed.letter = '\n') {token : Option Token}
    (result : (scanner.feed placed).1 = .ok token) :
    (scanner.feed placed).2.phase = .name ∧ (scanner.feed placed).2.pending = "" := by
  have counts : isIgnored placed.letter placed.offset = false := by
    rw [lineFeed]
    rfl
  rw [holds.feed_eq, take, counts, if_neg Bool.false_ne_true] at result ⊢
  obtain ⟨phase, held, stale, -, shape, -⟩ := holds
  cases advanced : (holding phase held stale).advance placed.letter placed.offset with
  | error fault =>
      rw [advanced] at result
      cases result
  | ok outcome =>
      obtain ⟨next, token⟩ := outcome
      cases moves_of_advance shape advanced with
      | adds after unbroken => exact absurd lineFeed unbroken
      | clears after stale' shapeAfter phase => exact ⟨phase lineFeed, rfl⟩

theorem HoldsLast.feed_eq_error_iff (holds : HoldsLast taken scanner) {placed : Placed}
    {fault : SheetFault} :
    (scanner.feed placed).1 = .error fault ↔
      isIgnored placed.letter placed.offset = false ∧ Refuses placed scanner.phase fault := by
  rw [holds.feed_eq, take]
  cases ignored : isIgnored placed.letter placed.offset with
  | true => simp [kept]
  | false =>
      rw [← advance_eq_error_iff]
      cases scanner.advance placed.letter placed.offset <;> simp [kept]

theorem HoldsLast.feed_of_error (holds : HoldsLast taken scanner) {placed : Placed}
    {fault : SheetFault} (refused : (scanner.feed placed).1 = .error fault) :
    (scanner.feed placed).2 = scanner := by
  rw [holds.feed_eq] at refused ⊢
  cases result : scanner.take placed.letter placed.offset with
  | error cause => rfl
  | ok outcome => simp [result, kept] at refused

/-- However a new scanner is fed, what is pending fits the part of the sheet and starts where
its first character was.  A line feed that is taken leads to the next name with nothing
pending.  Characters are refused only where options are not closed and behind what has to
end, and a character that is refused changes nothing. -/
theorem fed_consistent (inputs : List Placed) :
    let scanner := ({} : Scanner).fed inputs
    Consistent (({} : Scanner).takenOf inputs) scanner ∧
      ∀ placed,
        (placed.letter = '\n' → ∀ token, (scanner.feed placed).1 = .ok token →
          (scanner.feed placed).2.phase = .name ∧ (scanner.feed placed).2.pending = "") ∧
        (∀ fault, (scanner.feed placed).1 = .error fault ↔
          isIgnored placed.letter placed.offset = false ∧ Refuses placed scanner.phase fault) ∧
        ∀ fault, (scanner.feed placed).1 = .error fault → (scanner.feed placed).2 = scanner := by
  have holds := holdsLast_fed inputs
  exact ⟨holds.consistent, fun placed => ⟨fun lineFeed _ => holds.feed_lineFeed lineFeed,
    fun _ => holds.feed_eq_error_iff, fun _ => holds.feed_of_error⟩⟩

end Scanner

end TrickLedger
