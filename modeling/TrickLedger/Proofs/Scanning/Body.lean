import TrickLedger.Proofs.Scanning.Plays

/-!
# Scanning the lines of players

At the start of a line the scanner finds a group break, a name with plays, or plays
without a name.
-/

namespace TrickLedger.Scanner

open Lines

variable {textEnd stale : Nat} {lineFeed : Option Nat} {phase : Phase} {placed : Placed}
  {pending letters ending others : List Placed} {more : Except SheetFault (List Token)}

theorem skips_indent (separator : placed.isSeparator = true) :
    (holding .indent [] stale).Skips placed := by
  simp [Skips, advance, separator]

theorem pushes_name (word : placed.isSeparator = false) (unbroken : placed.letter ≠ '\n') :
    Pushes .name .name placed := by
  intro scanner standing
  simp [advance, standing, word, unbroken]

/-- A blank line is a group break if it ends. -/
theorem tokensOf_blank_ending (ends : Ending textEnd lineFeed ending more)
    (standing : phase = .name ∨ phase = .indent) :
    (holding phase [] stale).tokensOf textEnd ending =
      followedBy (.ok (if lineFeed.isSome then [.groupBreak] else [])) more := by
  cases ends with
  | text => rcases standing with rfl | rfl <;> rfl
  | lineFeed offset others more next =>
      have step : (holding phase [] stale).advance '\n' offset =
          .ok (holding .name [] stale, some .groupBreak) := by
        rcases standing with rfl | rfl <;> rfl
      rw [tokensOf_step step, next]
      rfl

theorem tokensOf_name_ending (ends : Ending textEnd lineFeed ending more) (first : Placed)
    (name : List Placed) :
    (holding .name (first :: name) stale).tokensOf textEnd ending =
      followedBy (.ok [.player (textOf (first :: name)) first.offset]) more := by
  have nonempty := textOf_isEmpty (first :: name)
  cases ends with
  | text => simp [tokensOf, close, playerToken, nonempty, startOf, Except.map]
  | lineFeed offset others more next =>
      have step : (holding .name (first :: name) stale).advance '\n' offset =
          .ok (holding .name [] first.offset,
            some (.player (textOf (first :: name)) first.offset)) := by
        simp [advance, isSeparator, nonempty, playerToken, startOf, holding_enter]
      rw [tokensOf_step step, next]
      rfl

theorem tokensOf_name_separator (separator : placed.isSeparator = true) (first : Placed)
    (name others : List Placed) :
    (holding .name (first :: name) stale).tokensOf textEnd (placed :: others) =
      followedBy (.ok [.player (textOf (first :: name)) first.offset])
        ((holding .gap [] first.offset).tokensOf textEnd others) := by
  have nonempty := textOf_isEmpty (first :: name)
  have step : (holding .name (first :: name) stale).advance placed.letter placed.offset =
      .ok (holding .gap [] first.offset,
        some (.player (textOf (first :: name)) first.offset)) := by
    simp [advance, separator, nonempty, playerToken, startOf, holding_enter]
  rw [tokensOf_step step]
  rfl

/-- An indented line with a play begins with a player without a name. -/
theorem tokensOf_indent_word (word : placed.isSeparator = false)
    (unbroken : placed.letter ≠ '\n') (others : List Placed) :
    (holding .indent [] stale).tokensOf textEnd (placed :: others) =
      followedBy (.ok [.player "" stale])
        ((holding .gap [] stale).tokensOf textEnd (placed :: others)) := by
  simp only [tokensOf, advance, holding_phase, isSeparator_letter, word, unbroken, if_false,
    Bool.false_eq_true, holding_enter, holding_push]
  rw [Option.toList_none, nil_followedBy]
  rfl

theorem tokensOf_name_indent (separator : placed.isSeparator = true) (others : List Placed) :
    (holding .name [] stale).tokensOf textEnd (placed :: others) =
      (holding .indent [] placed.offset).tokensOf textEnd others := by
  have step : (holding .name [] stale).advance placed.letter placed.offset =
      .ok (holding .indent [] placed.offset, none) := by
    simp [advance, separator, holding, startOf]
  rw [tokensOf_step step]
  exact nil_followedBy _

/-- A line that starts with a separator is blank or has a player without a name. -/
theorem tokensOf_indent (ends : Ending textEnd lineFeed ending more) (unbroken : Unbroken letters)
    (unbrokenFirst : placed.letter ≠ '\n') (separator : placed.isSeparator = true) :
    (holding .indent [] placed.offset).tokensOf textEnd (letters ++ ending) =
      followedBy (bodyTokens ⟨placed :: letters, lineFeed⟩) more := by
  rw [tokensOf_skip fun _ => skips_indent]
  cases rest : letters.dropWhile Placed.isSeparator with
  | nil =>
      have blank : (placed :: letters).all Placed.isSeparator = true := by
        simpa [separator] using List.dropWhile_eq_nil_iff.mp rest
      rw [List.nil_append, tokensOf_blank_ending ends (.inr rfl), bodyTokens, if_pos blank]
  | cons first others =>
      have word : first.isSeparator = false := by
        simpa [rest] using List.head?_dropWhile_not Placed.isSeparator letters
      have unbrokenRest := unbroken.dropWhile Placed.isSeparator
      rw [rest, unbroken_cons_iff] at unbrokenRest
      have notBlank : ¬(placed :: letters).all Placed.isSeparator = true := by
        intro blank
        have none : letters.dropWhile Placed.isSeparator = [] := by
          rw [List.dropWhile_eq_nil_iff]
          simpa [separator] using blank
        simp [none] at rest
      -- The separators before the plays are the end of the empty name.
      have whole : (placed :: letters).dropWhile Placed.isSeparator = first :: others := by
        rw [List.dropWhile_cons_of_pos separator, rest]
      have plays := tokensOf_gap ends (unbroken_cons_iff.mpr ⟨unbrokenFirst, unbroken⟩)
        placed.offset
      rw [tokensOf_skip fun _ => skips_gap, whole, List.cons_append] at plays
      rw [List.cons_append, tokensOf_indent_word word unbrokenRest.1, plays, bodyTokens,
        if_neg notBlank, followedBy_assoc]
      simp [separator, startOf]

/-- A line that does not start with a separator has a player with a name. -/
theorem tokensOf_named (ends : Ending textEnd lineFeed ending more) (unbroken : Unbroken letters)
    {first : Placed} (word : first.isSeparator = false) (unbrokenFirst : first.letter ≠ '\n') :
    (holding .name [] stale).tokensOf textEnd (first :: (letters ++ ending)) =
      followedBy (bodyTokens ⟨first :: letters, lineFeed⟩) more := by
  have pushes : ∀ placed ∈ letters, (!placed.isSeparator) = true → Pushes .name .name placed :=
    fun placed member inside => pushes_name (by simpa using inside) (unbroken placed member)
  have notBlank : ¬(first :: letters).all Placed.isSeparator = true := by
    simp [word]
  rw [tokensOf_push (pushes_name word unbrokenFirst), tokensOf_collect _ pushes, List.nil_append,
    List.singleton_append, bodyTokens, if_neg notBlank, followedBy_assoc]
  simp only [List.takeWhile_cons, List.dropWhile_cons, word, Bool.not_false, if_true, startOf]
  cases rest : letters.dropWhile (!·.isSeparator) with
  | nil =>
      rw [List.nil_append, tokensOf_name_ending ends, playTokens_nil, nil_followedBy]
  | cons placed others =>
      have separator : placed.isSeparator = true := by
        simpa [rest] using List.head?_dropWhile_not (!·.isSeparator) letters
      have unbrokenRest := unbroken.dropWhile (!·.isSeparator)
      rw [rest] at unbrokenRest
      have plays := tokensOf_gap ends unbrokenRest first.offset
      rw [List.cons_append, tokensOf_name_separator separator, ← plays, List.cons_append,
        tokensOf_step (skips_gap separator)]
      rw [Option.toList_none, nil_followedBy]

/-- At the start of a line the scanner finds the tokens of the line. -/
theorem tokensOf_line (ends : Ending textEnd lineFeed ending more) (unbroken : Unbroken letters) :
    (holding .name [] stale).tokensOf textEnd (letters ++ ending) =
      followedBy (bodyTokens ⟨letters, lineFeed⟩) more := by
  cases letters with
  | nil => exact tokensOf_blank_ending ends (.inl rfl)
  | cons first letters =>
      rw [unbroken_cons_iff] at unbroken
      cases word : first.isSeparator with
      | false => exact tokensOf_named ends unbroken.2 word unbroken.1
      | true =>
          rw [List.cons_append, tokensOf_name_indent word]
          exact tokensOf_indent ends unbroken.2 unbroken.1 word

end TrickLedger.Scanner
