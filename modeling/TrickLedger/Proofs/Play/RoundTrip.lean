import TrickLedger.Proofs.Play.Letters
import TrickLedger.Proofs.Play.WellFormed
import TrickLedger.Proofs.Play.Writing

/-!
# Writing and reading back

The canonical code of a play is read as that play exactly when the play is well
formed.  Its body has no blank and no brace, so the code is not trimmed and the
comment is cut off where it was put.
-/

namespace TrickLedger.Play

open Grammar

theorem commentLetters_getLast {comment : Option String} {letter : Char}
    (last : letter ∈ (commentLetters comment).getLast?) : letter = '}' := by
  cases comment with
  | none => simp [commentLetters] at last
  | some comment =>
      rw [commentLetters, List.getLast?_concat] at last
      exact (Option.mem_some.mp last).symm

/-- A canonical code starts with a letter of its body and ends with one or with
the brace that closes the comment. -/
theorem trim_canonical {body : List Char} (plain : Plain body) (nonempty : body ≠ [])
    (comment : Option String) :
    Text.trim (body ++ commentLetters comment) = body ++ commentLetters comment := by
  apply Text.trim_eq_self
  · intro letter first
    obtain ⟨start, rest, rfl⟩ := List.exists_cons_of_ne_nil nonempty
    cases first
    exact (plain letter (.head rest)).1
  · intro letter last
    rw [List.getLast?_append] at last
    cases ending : (commentLetters comment).getLast? with
    | none =>
        rw [ending, Option.none_or] at last
        exact (plain letter (List.mem_of_getLast? last)).1
    | some closing =>
        rw [ending, Option.some_or, Option.mem_some] at last
        subst letter
        rw [commentLetters_getLast ending]
        decide

theorem cutComment_canonical {body : List Char} (plain : Plain body) {comment : Option String}
    (noClosing : ∀ text ∈ comment, '}' ∉ text.toList) :
    cutComment (body ++ commentLetters comment) = (body, comment.map String.toList) := by
  have noOpening : '{' ∉ body := fun member => (plain _ member).2.1 rfl
  cases comment with
  | none =>
      rw [commentLetters, List.append_nil]
      exact cutComment_of_not_mem fun member => (plain _ member).2.2 rfl
  | some comment =>
      have cut := cutComment_append (noClosing comment rfl) (noneOpen_of_not_mem noOpening)
      rwa [List.append_assoc] at cut

/-- A well-formed play is read back from its canonical code. -/
theorem ofCode_toCode {play : Play} (wellFormed : play.WellFormed) :
    ofCode play.toCode = .ok play := by
  have rule := body_bodyLetters wellFormed
  have trimmed := trim_canonical rule.plain_letters rule.ne_nil play.comment
  have cut := cutComment_canonical rule.plain_letters wellFormed.2.2.2
  rw [← trimmed, ← String.toList_ofList (l := play.bodyLetters ++ _)] at cut
  refine (ofCode_eq_ok_iff_of_cut cut).mpr ⟨?_, rule⟩
  cases play.comment <;> simp

/-- The canonical code of a play is read as that play if and only if the play is
well formed, and every play that is read, from whatever code, is well formed and is
read back from its canonical code. -/
theorem ofCode_toCode_iff_wellFormed :
    (∀ play : Play, ofCode play.toCode = .ok play ↔ play.WellFormed) ∧
      ∀ (code : String) (play : Play), ofCode code = .ok play →
        play.WellFormed ∧ ofCode play.toCode = .ok play := by
  constructor
  · intro play
    exact ⟨wellFormed_of_ofCode, ofCode_toCode⟩
  · intro code play read
    have wellFormed := wellFormed_of_ofCode read
    exact ⟨wellFormed, ofCode_toCode wellFormed⟩

/-- A lost hundred of seventy points, boosted three times, with a seven linked to
it, in the better suit and with an opening brace in its comment. -/
def boostedHundred : Play where
  base :=
    { soloParity := true, basePayment := true, boost := 3, contract := some .hundred, score := 70 }
  link := { won := true, contract := some .seven }
  betterSuit := true
  comment := some "late \x7bagain"

theorem ofCode_toCode_iff_wellFormed_boostedHundred :
    ofCode " $:-3k070+s*\x7blate \x7bagain\x7d" = .ok boostedHundred ∧
      boostedHundred.WellFormed ∧ ofCode boostedHundred.toCode = .ok boostedHundred := by
  have read : ofCode " $:-3k070+s*\x7blate \x7bagain\x7d" = .ok boostedHundred := by
    rfl
  exact ⟨read, ofCode_toCode_iff_wellFormed.2 _ _ read⟩

end TrickLedger.Play
