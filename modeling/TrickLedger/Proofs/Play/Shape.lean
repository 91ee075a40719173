import TrickLedger.Play.Writer
import TrickLedger.Proofs.Play.Code
import TrickLedger.Proofs.Play.Comment
import TrickLedger.Proofs.Play.Letters

/-!
# The shape of play codes

A code that is read as a play is a body without blanks and braces and a comment in
braces, between blanks.  The comment is cut off once, and what is left of the code has no
other one.
-/

namespace TrickLedger.Play

theorem shape_of_ofCode {code : String} {play : Play} (read : ofCode code = .ok play) :
    ∃ lead body trail, code.toList = lead ++ (body ++ commentLetters play.comment) ++ trail ∧
      (∀ letter ∈ lead, Text.isBlank letter = true) ∧
      (∀ letter ∈ trail, Text.isBlank letter = true) ∧ Plain body ∧ body ≠ [] ∧
      ∀ comment ∈ play.comment, '}' ∉ comment.toList := by
  obtain ⟨lead, trail, whole, leadBlank, trailBlank⟩ := Text.exists_eq_trim code.toList
  cases cut : cutComment (Text.trim code.toList) with
  | mk body comment =>
      obtain ⟨commentEq, rule⟩ := (ofCode_eq_ok_iff_of_cut cut).mp read
      refine ⟨lead, body, trail, ?_, leadBlank, trailBlank, rule.plain_letters, rule.ne_nil, ?_⟩
      all_goals rw [commentEq]
      · rwa [← eq_append_commentLetters_of_cut cut]
      · cases comment with
        | none => simp
        | some comment => simpa using (eq_append_of_cutComment cut).2.1

/-- A comment is cut off a code at the first opening brace of the span before its last letter,
a closing brace, and nothing is lost.  A code is cut in one way or not at all.  Bodies of
codes that are read as plays have no braces, so they are not cut again. -/
theorem cutComment_lastSpan (code : String) :
    (∀ body comment, cutComment code.toList = (body, some comment) ↔
        CommentCut code.toList body comment) ∧
      (∀ body comment other remark, CommentCut code.toList body comment →
        CommentCut code.toList other remark → body = other ∧ comment = remark) ∧
      (cutComment code.toList = (code.toList, none) ↔
        ∀ body comment, ¬CommentCut code.toList body comment) ∧
      ∀ play, ofCode code = .ok play →
        ∀ body comment, cutComment (Text.trim code.toList) = (body, comment) →
          '{' ∉ body ∧ '}' ∉ body ∧ cutComment body = (body, none) := by
  refine ⟨fun body comment => cutComment_eq_some_iff,
    fun body comment other remark => CommentCut.unique, cutComment_eq_none_iff, ?_⟩
  intro play read body comment cut
  have plain := ((ofCode_eq_ok_iff_of_cut cut).mp read).2.plain_letters
  have noOpening : '{' ∉ body := fun member => (plain '{' member).2.1 rfl
  have noClosing : '}' ∉ body := fun member => (plain '}' member).2.2 rfl
  exact ⟨noOpening, noClosing, cutComment_of_not_mem noClosing⟩

/-- The first code ends in two comments, of which the last one is cut off.  The second is read
as a play. -/
theorem cutComment_lastSpan_twoComments :
    cutComment "e\x7ba\x7d\x7bb\x7bc\x7d".toList = ("e\x7ba\x7d".toList, some "b\x7bc".toList) ∧
      cutComment "+k100-s".toList = ("+k100-s".toList, none) := by
  obtain ⟨cutAt, -⟩ := cutComment_lastSpan "e\x7ba\x7d\x7bb\x7bc\x7d"
  obtain ⟨-, -, -, bodies⟩ := cutComment_lastSpan " +k100-s\x7blate \x7bagain\x7d "
  constructor
  · have noneOpen : NoneOpen "e\x7ba\x7d".toList := by decide
    obtain ⟨behindLast, withoutAny⟩ := noneOpen_iff.mp noneOpen
    exact (cutAt _ _).mpr ⟨by decide, by decide, behindLast, withoutAny⟩
  · exact (bodies {
      base := { won := true, contract := some .hundred }
      link := { contract := some .seven }
      comment := some "late \x7bagain" } rfl _ (some "late \x7bagain".toList) rfl).2.2

-- A code that is not read can lose one comment after the other.
example : cutComment "e\x7ba\x7d".toList = ("e".toList, some "a".toList) := by
  decide

end TrickLedger.Play
