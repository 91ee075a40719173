import TrickLedger.Play.Writer
import TrickLedger.Proofs.Play.Code
import TrickLedger.Proofs.Play.Comment
import TrickLedger.Proofs.Play.Letters
import TrickLedger.Scoring.Table

/-!
# Codes with a comment put behind them

A comment changes neither what a code is read as nor why it is refused, and it changes no
value.  Behind a comment there is no place for another one.
-/

namespace TrickLedger.Play

/-- A code with a comment in its braces put behind it. -/
def withComment (code comment : String) : String :=
  code ++ String.ofList (commentLetters (some comment))

variable {code comment : String}

theorem ofCode_withComment (noClosing : '}' ∉ comment.toList) (noneOpen : NoneOpen code.toList) :
    ofCode (withComment code comment) =
      (ofBody (Text.trimStart code.toList)).map
        fun play => { play with comment := some comment } := by
  have cut := cutComment_trim noneOpen noClosing
  have letters : (withComment code comment).toList =
      code.toList ++ '{' :: comment.toList ++ ['}'] := by
    simp [withComment, commentLetters]
  rw [← letters] at cut
  simpa using ofCode_of_cut cut

/-- A code that ends neither in a blank nor in a closing brace is its own body. -/
theorem ofCode_uncommented
    (ends : ∀ letter ∈ code.toList.getLast?, letter ≠ '}' ∧ Text.isBlank letter = false) :
    ofCode code =
      (ofBody (Text.trimStart code.toList)).map fun play => { play with comment := none } := by
  have last : ∀ letter ∈ (Text.trimStart code.toList).getLast?,
      letter ≠ '}' ∧ Text.isBlank letter = false :=
    fun letter member => ends letter (Text.mem_getLast?_of_trimStart member)
  have untrimmed : Text.trim code.toList = Text.trimStart code.toList :=
    Text.trimEnd_eq_self fun letter member => (last letter member).2
  have cut := cutComment_of_getLast? fun letter member => (last letter member).1
  rw [← untrimmed] at cut
  rw [← untrimmed]
  exact ofCode_of_cut cut

/-- A comment changes neither what a code is read as nor why it is refused, and what the play
is worth at a table is the same with the comment and without it.  A code that ends in a
comment takes no other. -/
theorem ofCode_commented (code comment : String) (noClosing : '}' ∉ comment.toList) :
    ((∀ letter ∈ code.toList.getLast?, letter ≠ '}' ∧ Text.isBlank letter = false) →
      NoneOpen code.toList →
        ofCode (withComment code comment) =
            (ofCode code).map (fun play => { play with comment := some comment }) ∧
          ∀ table : Table, table.worthOfCode (withComment code comment) =
            (table.worthOfCode code).map fun worth => { worth with comment := some comment }) ∧
    (code.toList.getLast? = some '}' →
      ∃ fault, ofCode (withComment code comment) = .error fault) := by
  constructor
  · intro ends noneOpen
    have same : ofCode (withComment code comment) =
        (ofCode code).map fun play => { play with comment := some comment } := by
      rw [ofCode_withComment noClosing noneOpen, ofCode_uncommented ends]
      cases ofBody (Text.trimStart code.toList) <;> rfl
    refine ⟨same, fun table => ?_⟩
    rw [Table.worthOfCode, Table.worthOfCode, same]
    cases ofCode code <;> rfl
  · intro closed
    obtain ⟨body, parts⟩ := List.getLast?_eq_some_iff.mp closed
    have noneOpen : NoneOpen code.toList := by simp [NoneOpen, parts]
    have closing : '}' ∈ Text.trimStart code.toList := by
      rw [parts, Text.trimStart_append_cons (by decide)]
      simp
    rw [ofCode_withComment noClosing noneOpen]
    cases read : ofBody (Text.trimStart code.toList) with
    | error fault => exact ⟨fault, rfl⟩
    | ok play =>
        -- No body of the grammar has a brace in it.
        have plain := (ofBody_eq_ok_iff.mp read).plain_letters
        exact absurd rfl (plain '}' closing).2.2

/-- The first code takes a comment with a brace in it, the second is refused as it is without
a comment, and the third has a comment already. -/
theorem ofCode_commented_strayBraces :
    ofCode (withComment " +k100-s" "late \x7bagain") =
        .ok {
          base := { won := true, contract := some .hundred }
          link := { contract := some .seven }
          comment := some "late \x7bagain" } ∧
      ofCode (withComment "e\x7dx" "late") = .error .missingSign ∧
      ∃ fault, ofCode (withComment "e\x7ba\x7d" "late") = .error fault := by
  refine ⟨?_, ?_, ?_⟩
  · exact (((ofCode_commented " +k100-s" "late \x7bagain" (by decide)).1
      (by rintro _ ⟨⟩; decide) (by decide)).1).trans (by rfl)
  · exact (((ofCode_commented "e\x7dx" "late" (by decide)).1
      (by rintro _ ⟨⟩; decide) (by decide)).1).trans (by rfl)
  · exact (ofCode_commented "e\x7ba\x7d" "late" (by decide)).2 (by decide)

end TrickLedger.Play
