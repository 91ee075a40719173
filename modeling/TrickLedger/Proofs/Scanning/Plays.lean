import TrickLedger.Proofs.Scanning.Runs

/-!
# Scanning plays

Between two plays of a line the scanner takes the plays that stand on the rest of it.
A play goes on to the separator outside its comment, and the letter after a comment has
to be one.
-/

namespace TrickLedger.Scanner

open Lines

variable {textEnd stale : Nat} {lineFeed : Option Nat} {phase : Phase} {placed : Placed}
  {pending letters ending others : List Placed} {more : Except SheetFault (List Token)}

theorem skips_gap (separator : placed.isSeparator = true) :
    (holding .gap [] stale).Skips placed := by
  simp [Skips, advance, separator]

theorem pushes_play (plain : placed.isPlain = true) (unbroken : placed.letter ≠ '\n') :
    Pushes .play .play placed := by
  intro scanner standing
  obtain ⟨word, noBrace⟩ : placed.isSeparator = false ∧ placed.letter ≠ '{' := by
    simpa [Placed.isPlain] using plain
  simp [advance, standing, word, noBrace, unbroken]

theorem pushes_opening (opening : placed.letter = '{') : Pushes .play .comment placed := by
  intro scanner standing
  simp [advance, standing, opening, isSeparator]

theorem pushes_comment (inside : placed.letter ≠ '}') (unbroken : placed.letter ≠ '\n') :
    Pushes .comment .comment placed := by
  intro scanner standing
  simp [advance, standing, inside, unbroken]

theorem pushes_closing (closing : placed.letter = '}') :
    Pushes .comment .afterComment placed := by
  intro scanner standing
  simp [advance, standing, closing]

/-- The next letter of a word between two plays is the first letter of a play. -/
theorem tokensOf_gap_word (word : placed.isSeparator = false) (unbroken : placed.letter ≠ '\n')
    (others : List Placed) :
    (holding .gap [] stale).tokensOf textEnd (placed :: others) =
      (holding .play [] stale).tokensOf textEnd (placed :: others) := by
  simp only [tokensOf, advance, holding_phase, isSeparator_letter, word, unbroken, if_false,
    Bool.false_eq_true, holding_push]

theorem tokensOf_gap_ending (ends : Ending textEnd lineFeed ending more) :
    (holding .gap [] stale).tokensOf textEnd ending = more := by
  cases ends with
  | text => rfl
  | lineFeed offset others more next =>
      have step : (holding .gap [] stale).advance '\n' offset =
          .ok (holding .name [] stale, none) := rfl
      rw [tokensOf_step step, next]
      exact nil_followedBy more

/-- The end of a line ends a play, whether or not it has a comment and whether or not
that is closed. -/
theorem tokensOf_play_ending (ends : Ending textEnd lineFeed ending more)
    (standing : phase = .play ∨ phase = .comment ∨ phase = .afterComment) :
    (holding phase pending stale).tokensOf textEnd ending =
      followedBy (.ok [.play (textOf pending) (startOf pending stale)]) more := by
  cases ends with
  | text => rcases standing with rfl | rfl | rfl <;> rfl
  | lineFeed offset others more next =>
      have step : (holding phase pending stale).advance '\n' offset =
          .ok (holding .name [] (startOf pending stale),
            some (.play (textOf pending) (startOf pending stale))) := by
        rcases standing with rfl | rfl | rfl <;> rfl
      rw [tokensOf_step step, next]
      rfl

theorem tokensOf_play_separator (separator : placed.isSeparator = true)
    (standing : phase = .play ∨ phase = .afterComment) (others : List Placed) :
    (holding phase pending stale).tokensOf textEnd (placed :: others) =
      followedBy (.ok [.play (textOf pending) (startOf pending stale)])
        ((holding .gap [] (startOf pending stale)).tokensOf textEnd others) := by
  have step : (holding phase pending stale).advance placed.letter placed.offset =
      .ok (holding .gap [] (startOf pending stale),
        some (.play (textOf pending) (startOf pending stale))) := by
    rcases standing with rfl | rfl <;> simp [advance, separator, holding_enter, playToken]
  rw [tokensOf_step step]
  rfl

theorem tokensOf_afterComment_word (word : placed.isSeparator = false)
    (unbroken : placed.letter ≠ '\n') (others : List Placed) :
    (holding .afterComment pending stale).tokensOf textEnd (placed :: others) =
      .error (.unexpectedAfterComment placed.letter placed.offset) := by
  simp [tokensOf, advance, word, unbroken]

/-- What follows the play at the start of some letters: a separator and further plays,
or the end of the line. -/
def afterPlay (textEnd stale : Nat) (ending : List Placed)
    (more : Except SheetFault (List Token)) (token : Token) :
    List Placed → Except SheetFault (List Token)
  | [] => followedBy (.ok [token]) more
  | next :: after =>
      if next.isSeparator then
        followedBy (.ok [token]) ((holding .gap [] stale).tokensOf textEnd (after ++ ending))
      else .error (.unexpectedAfterComment next.letter next.offset)

theorem tokensOf_afterComment (ends : Ending textEnd lineFeed ending more)
    (unbroken : Unbroken letters) :
    (holding .afterComment pending stale).tokensOf textEnd (letters ++ ending) =
      afterPlay textEnd (startOf pending stale) ending more
        (.play (textOf pending) (startOf pending stale)) letters := by
  cases letters with
  | nil => exact tokensOf_play_ending ends (.inr (.inr rfl))
  | cons next after =>
      rw [unbroken_cons_iff] at unbroken
      rw [List.cons_append, afterPlay]
      split
      case isTrue separator => exact tokensOf_play_separator separator (.inr rfl) _
      case isFalse word =>
        exact tokensOf_afterComment_word (Bool.eq_false_iff.mpr word) unbroken.1 _

theorem tokensOf_body {body : List Placed} (plain : ∀ placed ∈ body, placed.isPlain = true)
    (unbroken : Unbroken body) (others : List Placed) :
    (holding .play [] stale).tokensOf textEnd (body ++ others) =
      (holding .play body stale).tokensOf textEnd others :=
  tokensOf_collect_run
    (fun placed member => pushes_play (plain placed member) (unbroken placed member))
    [] stale others

theorem tokensOf_comment {comment : List Placed}
    (inside : ∀ placed ∈ comment, placed.letter ≠ '}') (unbroken : Unbroken comment)
    (pending others : List Placed) :
    (holding .comment pending stale).tokensOf textEnd (comment ++ others) =
      (holding .comment (pending ++ comment) stale).tokensOf textEnd others :=
  tokensOf_collect_run
    (fun placed member => pushes_comment (inside placed member) (unbroken placed member))
    pending stale others

/-- The scanner takes the play that stands at the start of the letters. -/
theorem tokensOf_play (ends : Ending textEnd lineFeed ending more) (unbroken : Unbroken letters) :
    (holding .play [] stale).tokensOf textEnd (letters ++ ending) =
      afterPlay textEnd (startOf (cutPlay letters).1 stale) ending more
        (.play (textOf (cutPlay letters).1) (startOf (cutPlay letters).1 stale))
        (cutPlay letters).2 := by
  have shape := playCut_cutPlay letters
  generalize cutPlay letters = parts at shape
  cases shape with
  | ends body plain =>
      rw [tokensOf_body plain unbroken]
      exact tokensOf_play_ending ends (.inl rfl)
  | separated body after next plain separator =>
      rw [unbroken_append_iff] at unbroken
      rw [List.append_assoc, tokensOf_body plain unbroken.1, List.cons_append,
        tokensOf_play_separator separator (.inl rfl), afterPlay, if_pos separator]
  | closed body comment after mark closing plain opening inside closes =>
      simp only [unbroken_append_iff, unbroken_cons_iff] at unbroken
      obtain ⟨bodyUnbroken, -, commentUnbroken, -, afterUnbroken⟩ := unbroken
      simp only [List.append_assoc, List.cons_append]
      rw [tokensOf_body plain bodyUnbroken, tokensOf_push (pushes_opening opening),
        tokensOf_comment inside commentUnbroken, tokensOf_push (pushes_closing closes),
        tokensOf_afterComment ends afterUnbroken]
      simp
  | unclosed body comment mark plain opening inside =>
      simp only [unbroken_append_iff, unbroken_cons_iff] at unbroken
      obtain ⟨bodyUnbroken, -, commentUnbroken⟩ := unbroken
      simp only [List.append_assoc, List.cons_append]
      rw [tokensOf_body plain bodyUnbroken, tokensOf_push (pushes_opening opening),
        tokensOf_comment inside commentUnbroken, tokensOf_play_ending ends (.inr (.inl rfl))]
      simp [afterPlay]

theorem startOf_cutPlay {first : Placed} (word : first.isSeparator = false) :
    startOf (cutPlay (first :: others)).1 stale = first.offset := by
  have starts := (playCut_cutPlay (first :: others)).head? rfl word
  obtain ⟨rest, play⟩ := List.head?_eq_some_iff.mp starts
  rw [play, startOf]

/-- Between plays the scanner takes the next play of the line. -/
theorem tokensOf_gap_play (ends : Ending textEnd lineFeed ending more)
    (unbroken : Unbroken letters) {first : Placed}
    (start : letters.dropWhile Placed.isSeparator = first :: others) :
    (holding .gap [] stale).tokensOf textEnd (letters ++ ending) =
      afterPlay textEnd first.offset ending more (Lines.playToken (first :: others))
        (cutPlay (first :: others)).2 := by
  have word : first.isSeparator = false := by
    simpa [start] using List.head?_dropWhile_not Placed.isSeparator letters
  have unbrokenWord := unbroken.dropWhile Placed.isSeparator
  rw [start] at unbrokenWord
  rw [tokensOf_skip fun _ => skips_gap, start, List.cons_append,
    tokensOf_gap_word word (unbroken_cons_iff.mp unbrokenWord).1, ← List.cons_append,
    tokensOf_play ends unbrokenWord, startOf_cutPlay word]
  rfl

/-- Between plays the scanner finds the plays that stand on the rest of the line. -/
theorem tokensOf_gap (ends : Ending textEnd lineFeed ending more) (unbroken : Unbroken letters)
    (stale : Nat) :
    (holding .gap [] stale).tokensOf textEnd (letters ++ ending) =
      followedBy (playTokens letters) more := by
  fun_induction playTokens letters generalizing stale with
  | case1 letters none =>
      rw [tokensOf_skip fun _ => skips_gap, none, List.nil_append, tokensOf_gap_ending ends,
        nil_followedBy]
  | case2 letters first others start rest =>
      rw [tokensOf_gap_play ends unbroken start, rest, afterPlay]
  | case3 letters first others start next after rest separator ih =>
      have unbrokenAfter : Unbroken after := by
        intro placed member
        have parts := cutPlay_append (first :: others)
        rw [rest, ← start] at parts
        apply unbroken.dropWhile Placed.isSeparator
        rw [← parts]
        exact List.mem_append_right _ (.tail _ member)
      rw [tokensOf_gap_play ends unbroken start, rest, afterPlay, if_pos separator,
        ih unbrokenAfter, followedBy_assoc]
  | case4 letters first others start next after rest word =>
      rw [tokensOf_gap_play ends unbroken start, rest, afterPlay, if_neg word, error_followedBy]

end TrickLedger.Scanner
