import TrickLedger.Proofs.Play.Body

/-!
# Whole play codes

A code is read as a play exactly when its body derives the play in the grammar and
its comment is the comment of the play.
-/

namespace TrickLedger.Play

open Grammar

theorem Grammar.Body.comment_eq_none {body : List Char} {play : Play} (rule : Body body play) :
    play.comment = none := by
  cases rule <;> rfl

theorem Grammar.Body.withoutComment_eq {body : List Char} {play : Play} (rule : Body body play) :
    play.withoutComment = play := by
  rw [withoutComment, ← rule.comment_eq_none]

section Cut

variable {code : String} {body : List Char} {comment : Option (List Char)}

theorem ofCode_of_cut (cut : cutComment (Text.trim code.toList) = (body, comment)) :
    ofCode code =
      (ofBody body).map fun play => { play with comment := comment.map String.ofList } := by
  simp only [ofCode, cut]
  cases ofBody body <;> rfl

theorem ofCode_eq_ok_iff_of_cut {play : Play}
    (cut : cutComment (Text.trim code.toList) = (body, comment)) :
    ofCode code = .ok play ↔
      play.comment = comment.map String.ofList ∧ Body body play.withoutComment := by
  rw [ofCode_of_cut cut]
  constructor
  · intro read
    cases bodyRead : ofBody body with
    | error fault => simp [bodyRead, Except.map] at read
    | ok played =>
        have rule := ofBody_eq_ok_iff.mp bodyRead
        rw [bodyRead] at read
        cases read
        refine ⟨rfl, ?_⟩
        rw [← rule.withoutComment_eq] at rule
        exact rule
  · rintro ⟨commentEq, rule⟩
    rw [ofBody_eq_ok_iff.mpr rule, ← commentEq]
    rfl

theorem ofCode_eq_error_iff_of_cut {fault : PlayFault}
    (cut : cutComment (Text.trim code.toList) = (body, comment)) :
    ofCode code = .error fault ↔ ofBody body = .error fault := by
  rw [ofCode_of_cut cut]
  cases ofBody body <;> simp [Except.map]

end Cut

/-- Reading accepts exactly the grammar: a code is read as a play if and only if
the body that is left of the trimmed code without its comment derives the play, and
the comment that was cut off is the comment of the play. -/
theorem ofCode_eq_ok_iff_derives (code : String) (play : Play) :
    ofCode code = .ok play ↔
      play.comment = (cutComment (Text.trim code.toList)).2.map String.ofList ∧
        Body (cutComment (Text.trim code.toList)).1 play.withoutComment :=
  ofCode_eq_ok_iff_of_cut rfl

end TrickLedger.Play
