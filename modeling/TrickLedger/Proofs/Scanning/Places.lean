import TrickLedger.Proofs.Scanning.Faults
import TrickLedger.Sheet.Pointing

/-!
# Places of letters

A letter that counts stands in the text at its offset.  Where carriage returns only stand
in front of line feeds, letters that follow each other on a line do so in the text too.
-/

namespace TrickLedger

theorem ReturnsEndLines.of_append {before after : List Char}
    (returns : ReturnsEndLines (before ++ after)) : ReturnsEndLines after := by
  rintro front rest rfl
  exact returns (before ++ front) rest (by simp)

theorem ReturnsEndLines.of_cons {letter : Char} {letters : List Char}
    (returns : ReturnsEndLines (letter :: letters)) : ReturnsEndLines letters :=
  (returnsEndLines_cons_iff.mp returns).2

namespace Scanner

open Lines

variable {offset : Nat} {text : List Char} {front run post letters : List Placed}
  {placed : Placed} {header line : Line} {lines : List Line}

/-- A letter that counts stands at its offset, behind the letters that count before it. -/
theorem exists_placed (stands : placedFrom offset text = front ++ placed :: post) :
    ∃ before after, text = before ++ placed.letter :: after ∧
      placed.offset = offset + before.length ∧ placedFrom offset before = front ∧
        placedFrom (placed.offset + 1) after = post := by
  induction text generalizing offset front with
  | nil => simp [placedFrom] at stands
  | cons letter text ih =>
      rw [placedFrom_cons] at stands
      split at stands
      case isTrue ignored =>
        obtain ⟨before, after, rfl, place, inFront, behind⟩ := ih stands
        refine ⟨letter :: before, after, rfl, ?_, ?_, behind⟩
        · rw [place, List.length_cons]
          omega
        · rw [placedFrom_cons, if_pos ignored, inFront]
      case isFalse counts =>
        cases front with
        | nil =>
            obtain ⟨rfl, behind⟩ := List.cons.inj stands
            exact ⟨[], text, rfl, rfl, rfl, behind⟩
        | cons first front =>
            obtain ⟨rfl, others⟩ := List.cons.inj stands
            obtain ⟨before, after, rfl, place, inFront, behind⟩ := ih others
            refine ⟨letter :: before, after, rfl, ?_, ?_, behind⟩
            · rw [place, List.length_cons]
              omega
            · rw [placedFrom_cons, if_neg counts, inFront]

theorem exists_run_of_placedFrom (returns : ReturnsEndLines text) (behind : 0 < offset)
    (unbroken : Unbroken run) (stands : placedFrom offset text = run ++ post) :
    ∃ after, text = run.map Placed.letter ++ after ∧
      ∀ first ∈ run.head?, first.offset = offset := by
  induction run generalizing offset text with
  | nil => exact ⟨text, rfl, by simp⟩
  | cons placed run ih =>
      cases text with
      | nil => simp [placedFrom] at stands
      | cons letter text =>
          rw [placedFrom_cons] at stands
          split at stands
          case isTrue ignored =>
            -- Behind the first letter only carriage returns are ignored, and a line feed
            -- follows each of them, which the run does not have.
            have returned : letter = '\r' := by
              simpa [isIgnored, behind.ne'] using ignored
            obtain ⟨rest, rfl⟩ : ∃ rest, text = '\n' :: rest :=
              List.head?_eq_some_iff.mp (returns [] text (by rw [returned]; rfl))
            rw [placedFrom_cons, if_neg (by simp [isIgnored])] at stands
            obtain ⟨rfl, -⟩ := List.cons.inj stands
            exact absurd rfl (unbroken_cons_iff.mp unbroken).1
          case isFalse counts =>
            obtain ⟨rfl, others⟩ := List.cons.inj stands
            obtain ⟨after, rfl, -⟩ :=
              ih returns.of_cons (Nat.succ_pos offset) (unbroken_cons_iff.mp unbroken).2 others
            exact ⟨after, rfl, by simp⟩

theorem exists_word_of_infix (returns : ReturnsEndLines text) (unbroken : Unbroken (placed :: run))
    (stands : placed :: run <:+: placedLetters text) :
    ∃ before after, text = before ++ (placed :: run).map Placed.letter ++ after ∧
      placed.offset = before.length := by
  obtain ⟨front, post, whole⟩ := stands
  rw [List.append_assoc] at whole
  obtain ⟨before, rest, rfl, place, -, behind⟩ := exists_placed whole.symm
  obtain ⟨after, rfl, -⟩ := exists_run_of_placedFrom returns.of_append.of_cons
    (Nat.succ_pos placed.offset) (unbroken_cons_iff.mp unbroken).2 behind
  exact ⟨before, after, by simp, by rw [place, Nat.zero_add]⟩

/-! ### Lines -/

theorem LineCut.unbroken (cut : LineCut letters lines) (member : line ∈ lines) :
    Unbroken line.letters := by
  induction cut with
  | last letters unbroken =>
      rw [List.mem_singleton.mp member]
      exact unbroken
  | line letters others offset lines unbroken cut ih =>
      rcases List.mem_cons.mp member with rfl | later
      · exact unbroken
      · exact ih later

theorem LineCut.ne_nil (cut : LineCut letters lines) : lines ≠ [] := by
  cases cut <;> exact List.cons_ne_nil _ _

theorem LineCut.eq_header_append (cut : LineCut letters (header :: lines)) :
    ∃ others, letters = header.letters ++ others := by
  cases cut with
  | last letters unbroken => exact ⟨[], by simp⟩
  | line letters others offset lines unbroken cut => exact ⟨_, rfl⟩

/-- A line other than the first one stands behind a line feed. -/
theorem LineCut.exists_lineFeed (cut : LineCut letters (header :: lines)) (member : line ∈ lines) :
    ∃ front offset post, letters = front ++ ⟨'\n', offset⟩ :: (line.letters ++ post) := by
  induction lines generalizing letters header with
  | nil => cases member
  | cons next lines ih =>
      cases cut with
      | line letters others offset lines unbroken cut =>
          rcases List.mem_cons.mp member with rfl | later
          · obtain ⟨post, rfl⟩ := cut.eq_header_append
            exact ⟨letters, offset, post, rfl⟩
          · obtain ⟨front, feed, post, rfl⟩ := ih cut later
            exact ⟨letters ++ ⟨'\n', offset⟩ :: front, feed, post, by simp⟩

theorem exists_lineStart (returns : ReturnsEndLines text)
    (cut : LineCut (placedLetters text) (header :: lines)) (member : line ∈ lines)
    (starts : line.letters = placed :: run) :
    ∃ before after, text = before ++ '\n' :: line.letters.map Placed.letter ++ after ∧
      placed.offset = before.length + 1 := by
  have unbroken := cut.unbroken (.tail header member)
  obtain ⟨front, feed, post, whole⟩ := cut.exists_lineFeed member
  obtain ⟨before, rest, rfl, place, -, behind⟩ := exists_placed whole
  obtain ⟨after, rfl, first⟩ := exists_run_of_placedFrom returns.of_append.of_cons
    (Nat.succ_pos feed) unbroken behind
  refine ⟨before, after, by simp, ?_⟩
  rw [first placed (by rw [starts]; rfl), show feed = _ from place, Nat.zero_add]

/-! ### The order of offsets -/

theorem le_offset_of_mem_placedFrom (member : placed ∈ placedFrom offset text) :
    offset ≤ placed.offset := by
  obtain ⟨front, post, whole⟩ := List.append_of_mem member
  obtain ⟨before, after, -, place, -, -⟩ := exists_placed whole
  omega

theorem pairwise_placedFrom (offset : Nat) (text : List Char) :
    (placedFrom offset text).Pairwise fun first second => first.offset < second.offset := by
  induction text generalizing offset with
  | nil => exact .nil
  | cons letter text ih =>
      rw [placedFrom_cons]
      split
      · exact ih (offset + 1)
      · exact .cons (fun placed member => le_offset_of_mem_placedFrom member) (ih (offset + 1))

/-- The first line has smaller offsets than the second one. -/
def StandsBefore (first second : Line) : Prop :=
  ∀ placed ∈ first.letters, ∀ other ∈ second.letters, placed.offset < other.offset

theorem LineCut.pairwise (cut : LineCut letters lines)
    (ordered : letters.Pairwise fun first second => first.offset < second.offset) :
    lines.Pairwise StandsBefore := by
  induction cut with
  | last letters unbroken => exact List.pairwise_singleton _ _
  | line letters others offset lines unbroken cut ih =>
      obtain ⟨-, behind, across⟩ := List.pairwise_append.mp ordered
      refine .cons (fun line member placed inFirst other inLine => ?_) (ih behind.of_cons)
      exact across placed inFirst other (.tail _ (cut.mem_letters member inLine))

end Scanner

end TrickLedger
