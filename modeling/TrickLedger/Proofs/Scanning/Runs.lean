import Mathlib.Data.List.TakeWhile
import TrickLedger.Proofs.Outcome
import TrickLedger.Sheet.Lines

/-!
# Scanning runs of letters

A scanner that takes placed letters passes over some runs of them and collects
others.  What it holds between two letters is a run of the text, so that the pending
text and the offset of its start always belong to each other.
-/

namespace TrickLedger

namespace Lines

@[simp]
theorem error_followedBy (fault : SheetFault) (others : Except SheetFault (List Token)) :
    followedBy (.error fault) others = .error fault :=
  rfl

@[simp]
theorem ok_followedBy_error (tokens : List Token) (fault : SheetFault) :
    followedBy (.ok tokens) (.error fault) = .error fault :=
  rfl

@[simp]
theorem nil_followedBy (others : Except SheetFault (List Token)) :
    followedBy (.ok []) others = others := by
  cases others <;> rfl

@[simp]
theorem followedBy_nil (first : Except SheetFault (List Token)) :
    followedBy first (.ok []) = first := by
  cases first with
  | error fault => rfl
  | ok tokens => simp [followedBy]

theorem followedBy_assoc (first second third : Except SheetFault (List Token)) :
    followedBy (followedBy first second) third = followedBy first (followedBy second third) := by
  cases first with
  | error fault => rfl
  | ok tokens =>
      cases second with
      | error fault => rfl
      | ok others =>
          cases third with
          | error fault => rfl
          | ok more => simp [followedBy]

@[simp]
theorem ok_followedBy_ok (tokens others : List Token) :
    followedBy (.ok tokens) (.ok others) = .ok (tokens ++ others) :=
  rfl

theorem followedBy_eq_ok_iff {first others : Except SheetFault (List Token)}
    {tokens : List Token} :
    followedBy first others = .ok tokens ↔
      ∃ found more, first = .ok found ∧ others = .ok more ∧ tokens = found ++ more := by
  constructor
  · intro result
    obtain ⟨found, firstFound, rest⟩ := bind_eq_ok_iff.mp result
    obtain ⟨more, othersFound, whole⟩ := bind_eq_ok_iff.mp rest
    cases whole
    exact ⟨found, more, firstFound, othersFound, rfl⟩
  · rintro ⟨found, more, rfl, rfl, rfl⟩
    rfl

@[simp]
theorem textOf_nil : textOf [] = "" :=
  rfl

theorem textOf_concat (letters : List Placed) (placed : Placed) :
    textOf (letters ++ [placed]) = (textOf letters).push placed.letter := by
  apply String.toList_inj.mp
  simp [textOf]

theorem textOf_isEmpty (letters : List Placed) : (textOf letters).isEmpty = letters.isEmpty := by
  cases letters <;> simp [textOf, String.isEmpty_iff]

@[simp]
theorem isSeparator_letter (placed : Placed) :
    Scanner.isSeparator placed.letter = placed.isSeparator :=
  rfl

end Lines

namespace Scanner

open Lines

variable {textEnd : Nat} {scanner : Scanner} {phase : Phase} {pending run others : List Placed}
  {stale : Nat} {placed : Placed}

/-- The tokens that a scanner finds in placed letters and at the end of the text. -/
def tokensOf (scanner : Scanner) (textEnd : Nat) : List Placed → Except SheetFault (List Token)
  | [] => (scanner.close textEnd).map Option.toList
  | placed :: others =>
      match scanner.advance placed.letter placed.offset with
      | .ok (next, token) => followedBy (.ok token.toList) (next.tokensOf textEnd others)
      | .error fault => .error fault

/-- The letters of a text that count when its first letter has the given offset. -/
def placedFrom (offset : Nat) (text : List Char) : List Placed :=
  ((text.zipIdx offset).map fun (letter, offset) => Placed.mk letter offset).filter fun placed =>
    !isIgnored placed.letter placed.offset

theorem placedFrom_cons (offset : Nat) (letter : Char) (letters : List Char) :
    placedFrom offset (letter :: letters) =
      if isIgnored letter offset then placedFrom (offset + 1) letters
      else ⟨letter, offset⟩ :: placedFrom (offset + 1) letters := by
  simp only [placedFrom, List.zipIdx_cons, List.map_cons, List.filter_cons]
  cases isIgnored letter offset <;> rfl

/-- A run through a text is a run through the letters that count, after the tokens
found before. -/
theorem run_eq_tokensOf (scanner : Scanner) (offset : Nat) (found : List Token)
    (text : List Char) :
    scanner.run offset found text =
      followedBy (.ok found.reverse)
        (scanner.tokensOf (offset + text.length) (placedFrom offset text)) := by
  induction text generalizing scanner offset found with
  | nil =>
      simp only [run, placedFrom, List.zipIdx_nil, List.map_nil, List.filter_nil, tokensOf,
        List.length_nil, Nat.add_zero]
      cases scanner.close offset with
      | error fault => rfl
      | ok token => cases token <;> simp [Except.map]
  | cons letter letters ih =>
      have textEnd : offset + 1 + letters.length = offset + (letter :: letters).length := by
        simp only [List.length_cons]
        omega
      simp only [run, take, placedFrom_cons]
      by_cases ignored : isIgnored letter offset
      · simp only [ignored, if_true, ih, textEnd]
        rfl
      · simp only [ignored, Bool.false_eq_true, if_false, tokensOf]
        cases scanner.advance letter offset with
        | error fault => rfl
        | ok result =>
            obtain ⟨next, token⟩ := result
            simp only [ih, textEnd, ← followedBy_assoc, ok_followedBy_ok]
            cases token <;> simp

/-- A scanner in a part of the sheet that holds a run of letters. Without letters its
start is left over from an earlier token. -/
def holding (phase : Phase) (pending : List Placed) (stale : Nat) : Scanner where
  phase
  pending := textOf pending
  start := startOf pending stale

@[simp]
theorem holding_phase : (holding phase pending stale).phase = phase :=
  rfl

@[simp]
theorem holding_pending : (holding phase pending stale).pending = textOf pending :=
  rfl

@[simp]
theorem holding_start : (holding phase pending stale).start = startOf pending stale :=
  rfl

theorem holding_enter (next : Phase) :
    (holding phase pending stale).enter next = holding next [] (startOf pending stale) :=
  rfl

theorem holding_push (next : Phase) (placed : Placed) :
    (holding phase pending stale).push next placed.letter placed.offset =
      holding next (pending ++ [placed]) stale := by
  simp only [push, holding, textOf_concat, textOf_isEmpty]
  cases pending <;> rfl

/-- The scanner passes over the letter. -/
def Skips (scanner : Scanner) (placed : Placed) : Prop :=
  scanner.advance placed.letter placed.offset = .ok (scanner, none)

/-- In the first part a scanner adds the letter to what it holds and goes to the
second part. -/
def Pushes (phase next : Phase) (placed : Placed) : Prop :=
  ∀ scanner : Scanner, scanner.phase = phase →
    scanner.advance placed.letter placed.offset =
      .ok (scanner.push next placed.letter placed.offset, none)

theorem tokensOf_step {next : Scanner} {token : Option Token}
    (step : scanner.advance placed.letter placed.offset = .ok (next, token)) :
    scanner.tokensOf textEnd (placed :: others) =
      followedBy (.ok token.toList) (next.tokensOf textEnd others) := by
  rw [tokensOf, step]

theorem tokensOf_push {next : Phase} (pushes : Pushes phase next placed) :
    (holding phase pending stale).tokensOf textEnd (placed :: others) =
      (holding next (pending ++ [placed]) stale).tokensOf textEnd others := by
  rw [tokensOf_step (pushes _ rfl), holding_push]
  exact nil_followedBy _

theorem tokensOf_skip {property : Placed → Bool}
    (skips : ∀ placed, property placed = true → scanner.Skips placed)
    (letters others : List Placed) :
    scanner.tokensOf textEnd (letters ++ others) =
      scanner.tokensOf textEnd (letters.dropWhile property ++ others) := by
  induction letters with
  | nil => rfl
  | cons placed letters ih =>
      rw [List.dropWhile_cons]
      split
      case isFalse => rfl
      case isTrue skipped =>
        rw [List.cons_append, tokensOf_step (skips placed skipped), ← ih]
        exact nil_followedBy _

theorem tokensOf_collect (property : Placed → Bool) {letters : List Placed}
    (pushes : ∀ placed ∈ letters, property placed = true → Pushes phase phase placed)
    (pending : List Placed) (stale : Nat) (others : List Placed) :
    (holding phase pending stale).tokensOf textEnd (letters ++ others) =
      (holding phase (pending ++ letters.takeWhile property) stale).tokensOf textEnd
        (letters.dropWhile property ++ others) := by
  induction letters generalizing pending with
  | nil => simp
  | cons placed letters ih =>
      rw [List.forall_mem_cons] at pushes
      rw [List.takeWhile_cons, List.dropWhile_cons]
      split
      case isFalse => simp
      case isTrue inside =>
        rw [List.cons_append, tokensOf_push (pushes.1 inside), ih pushes.2]
        simp

/-- A run of letters that are all collected is collected whole. -/
theorem tokensOf_collect_run (pushes : ∀ placed ∈ run, Pushes phase phase placed)
    (pending : List Placed) (stale : Nat) (others : List Placed) :
    (holding phase pending stale).tokensOf textEnd (run ++ others) =
      (holding phase (pending ++ run) stale).tokensOf textEnd others := by
  rw [tokensOf_collect (fun _ => true) fun placed member _ => pushes placed member,
    List.takeWhile_eq_self_iff.mpr fun _ _ => rfl, List.dropWhile_eq_nil_iff.mpr fun _ _ => rfl,
    List.nil_append]

/-! ### Ends of lines -/

variable {letters : List Placed}

/-- What stands after the letters of a line: the end of the text, or a line feed and a
text with the tokens `more`. -/
inductive Ending (textEnd : Nat) :
    Option Nat → List Placed → Except SheetFault (List Token) → Prop
  | text : Ending textEnd none [] (.ok [])
  | lineFeed (offset : Nat) (others : List Placed) (more : Except SheetFault (List Token))
      (next : ∀ stale, (holding .name [] stale).tokensOf textEnd others = more) :
      Ending textEnd (some offset) (⟨'\n', offset⟩ :: others) more

/-- No letter is a line feed. -/
def Unbroken (letters : List Placed) : Prop :=
  ∀ placed ∈ letters, placed.letter ≠ '\n'

theorem unbroken_append_iff :
    Unbroken (letters ++ others) ↔ Unbroken letters ∧ Unbroken others :=
  List.forall_mem_append

theorem unbroken_cons_iff :
    Unbroken (placed :: letters) ↔ placed.letter ≠ '\n' ∧ Unbroken letters :=
  List.forall_mem_cons

theorem Unbroken.dropWhile (unbroken : Unbroken letters) (property : Placed → Bool) :
    Unbroken (letters.dropWhile property) :=
  fun placed member => unbroken placed ((List.dropWhile_sublist property).subset member)

end Scanner

end TrickLedger
