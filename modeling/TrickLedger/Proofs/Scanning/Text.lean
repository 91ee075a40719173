import TrickLedger.Proofs.Scanning.Body
import TrickLedger.Proofs.Scanning.Header

/-!
# Scanning texts

A scanner finds in a text exactly the tokens that its lines and words have, and it
stops at the first fault of them.
-/

namespace TrickLedger.Scanner

open Lines

variable {textEnd stale : Nat} {letters : List Placed}

/-- How a text falls into lines. -/
inductive LineCut : List Placed → List Line → Prop
  | last (letters : List Placed) (unbroken : Unbroken letters) : LineCut letters [⟨letters, none⟩]
  | line (letters others : List Placed) (offset : Nat) (lines : List Line)
      (unbroken : Unbroken letters) (cut : LineCut others lines) :
      LineCut (letters ++ ⟨'\n', offset⟩ :: others) (⟨letters, some offset⟩ :: lines)

theorem lineCut_cut (letters : List Placed) : LineCut letters (cut letters) := by
  induction letters with
  | nil => exact .last [] (by simp [Unbroken])
  | cons placed others ih =>
      rw [cut]
      split
      case isTrue lineFeed =>
        obtain ⟨letter, offset⟩ := placed
        obtain rfl : letter = '\n' := lineFeed
        exact .line [] others offset _ (by simp [Unbroken]) ih
      case isFalse unbrokenFirst =>
        generalize cut others = lines at ih
        cases ih with
        | last letters unbroken =>
            exact .last _ (unbroken_cons_iff.mpr ⟨unbrokenFirst, unbroken⟩)
        | line letters others offset lines unbroken cut =>
            exact .line _ _ _ _ (unbroken_cons_iff.mpr ⟨unbrokenFirst, unbroken⟩) cut

theorem tokensOf_bodyLines {lines : List Line} (cut : LineCut letters lines) :
    (holding .name [] stale).tokensOf textEnd letters = bodyLines lines := by
  induction cut generalizing stale with
  | last letters unbroken =>
      have ends : Ending textEnd none [] (.ok []) := .text
      rw [bodyLines, bodyLines, ← tokensOf_line ends unbroken, List.append_nil]
  | line letters others offset lines unbroken cut ih =>
      rw [tokensOf_line (.lineFeed offset others _ fun _ => ih) unbroken, bodyLines]

theorem tokensOf_lines (letters : List Placed) :
    (holding .date [] stale).tokensOf textEnd letters =
      match cut letters with
      | [] => .ok []
      | header :: lines => followedBy (headerTokens header textEnd) (bodyLines lines) := by
  have lines := lineCut_cut letters
  generalize cut letters = lines at *
  cases lines with
  | last letters unbroken =>
      have ends : Ending textEnd none [] (.ok []) := .text
      have header : (holding .date [] stale).tokensOf textEnd (letters ++ []) = _ :=
        tokensOf_header ends unbroken
      rwa [List.append_nil] at header
  | line letters others offset lines unbroken cut =>
      rw [tokensOf_header (.lineFeed offset others _ fun _ => tokensOf_bodyLines cut) unbroken]

/-- A new scanner runs over a whole text. -/
theorem run_text (text : String) :
    ({} : Scanner).run 0 [] text.toList = Lines.tokens text := by
  rw [run_eq_tokensOf, List.reverse_nil, nil_followedBy, Nat.zero_add, String.length_toList]
  exact tokensOf_lines (placedLetters text.toList)

end TrickLedger.Scanner

namespace TrickLedger

/-- A scanner finds in a text exactly the tokens of its lines and words, each with its
offset, or the first fault of them. -/
theorem Token.ofText_eq_tokens (text : String) : Token.ofText text = Lines.tokens text := by
  rw [Token.ofText, Scanner.run_text]

end TrickLedger
