import TrickLedger.Play.Comment
import TrickLedger.Play.Writer
import TrickLedger.Proofs.Text.Runs

/-!
# Cutting comments

A code carries a comment exactly when it is a body, an opening brace, a comment
without closing braces and a closing brace, where the body has no opening brace
after its last closing one.  Body and comment are then determined by the code.
-/

namespace TrickLedger.Play

/-- No opening brace stands after the last closing brace. -/
def NoneOpen (body : List Char) : Prop :=
  '{' ∉ body.reverse.takeWhile (· ≠ '}')

instance : DecidablePred NoneOpen := fun body =>
  inferInstanceAs (Decidable ('{' ∉ body.reverse.takeWhile (· ≠ '}')))

theorem noneOpen_of_not_mem {body : List Char} (absent : '{' ∉ body) : NoneOpen body := by
  intro member
  exact absent (List.mem_reverse.mp ((List.takeWhile_sublist _).subset member))

theorem noneOpen_closed_iff {before after : List Char} (noClosing : '}' ∉ after) :
    NoneOpen (before ++ '}' :: after) ↔ '{' ∉ after := by
  have reversed : (before ++ '}' :: after).reverse = after.reverse ++ '}' :: before.reverse := by
    simp
  have absent : '}' ∉ after.reverse := by simpa using noClosing
  rw [NoneOpen, reversed, Text.takeWhile_ne_append absent, List.mem_reverse]

theorem noneOpen_iff_not_mem {body : List Char} (noClosing : '}' ∉ body) :
    NoneOpen body ↔ '{' ∉ body := by
  have absent : '}' ∉ body.reverse := by simpa using noClosing
  have inside := Text.differs_of_not_mem absent
  rw [NoneOpen, ← List.append_nil body.reverse, Text.takeWhile_run inside (by simp),
    List.mem_reverse]

theorem noneOpen_iff {body : List Char} :
    NoneOpen body ↔
      (∀ before after, body = before ++ '}' :: after → '}' ∉ after → '{' ∉ after) ∧
        ('}' ∉ body → '{' ∉ body) := by
  constructor
  · intro noneOpen
    refine ⟨?_, fun noClosing => (noneOpen_iff_not_mem noClosing).mp noneOpen⟩
    rintro before after rfl noClosing
    exact (noneOpen_closed_iff noClosing).mp noneOpen
  · rintro ⟨behindLast, withoutAny⟩
    by_cases noClosing : '}' ∉ body
    · exact (noneOpen_iff_not_mem noClosing).mpr (withoutAny noClosing)
    · -- The last closing brace is the first one of the body read backwards.
      obtain ⟨after, before, reversed, absent⟩ :=
        List.eq_append_cons_of_mem (List.mem_reverse.mpr (Decidable.not_not.mp noClosing))
      have whole : body = before.reverse ++ '}' :: after.reverse := by
        rw [← List.reverse_reverse body, reversed]
        simp
      have last : '}' ∉ after.reverse := by simpa using absent
      rw [whole, noneOpen_closed_iff last]
      exact behindLast _ _ whole last

/-- A code is a body with a comment behind it in its braces.  The comment has no closing brace,
and the body has no opening one after its last closing brace, or none at all if it has no
closing brace. -/
structure CommentCut (code body comment : List Char) : Prop where
  whole : code = body ++ '{' :: comment ++ ['}']
  noClosing : '}' ∉ comment
  behindLast : ∀ before after, body = before ++ '}' :: after → '}' ∉ after → '{' ∉ after
  withoutAny : '}' ∉ body → '{' ∉ body

/-- A comment in its braces is cut off the body it was put behind. -/
theorem cutComment_append {body comment : List Char} (noClosing : '}' ∉ comment)
    (noneOpen : NoneOpen body) :
    cutComment (body ++ '{' :: comment ++ ['}']) = (body, some comment) := by
  have outside : '}' ∉ comment.reverse ++ ['{'] := by simpa using noClosing
  have inside := Text.differs_of_not_mem outside
  have inner : (body ++ '{' :: comment ++ ['}']).reverse =
      '}' :: (comment.reverse ++ ['{'] ++ body.reverse) := by simp
  have absent : '{' ∉ (body.reverse.takeWhile (· ≠ '}')).reverse := by
    simpa [NoneOpen] using noneOpen
  unfold cutComment
  rw [inner]
  simp only [List.takeWhile_append_of_pos inside, List.dropWhile_append_of_pos inside,
    List.reverse_append, List.reverse_reverse, List.reverse_singleton, List.singleton_append,
    Text.dropWhile_ne_append absent, Text.takeWhile_ne_append absent]
  rw [← List.reverse_append, List.takeWhile_append_dropWhile, List.reverse_reverse]

/-- Whatever is cut off was put behind its body in braces. -/
theorem eq_append_of_cutComment {code body comment : List Char}
    (cut : cutComment code = (body, some comment)) :
    code = body ++ '{' :: comment ++ ['}'] ∧ '}' ∉ comment ∧ NoneOpen body := by
  unfold cutComment at cut
  split at cut
  case h_2 => cases cut
  case h_1 inner reversed =>
    have whole : inner = inner.takeWhile (· ≠ '}') ++ inner.dropWhile (· ≠ '}') :=
      List.takeWhile_append_dropWhile.symm
    -- The last span lies behind the last closing brace before its own, read backwards.
    have noClosing := Text.not_mem_takeWhile_ne '}' inner
    have stops := Text.not_head?_dropWhile (· ≠ '}') inner
    simp only at cut
    generalize inner.takeWhile (· ≠ '}') = tail at *
    generalize inner.dropWhile (· ≠ '}') = head at *
    cases opened : tail.reverse.dropWhile (· ≠ '{') with
    | nil =>
        simp only [opened] at cut
        cases cut
    | cons letter rest =>
        have opening := Text.eq_of_dropWhile_ne opened
        subst letter
        simp only [opened] at cut
        cases cut
        have unopened := Text.not_mem_takeWhile_ne '{' tail.reverse
        have parts : tail.reverse = tail.reverse.takeWhile (· ≠ '{') ++ '{' :: comment := by
          rw [← opened, List.takeWhile_append_dropWhile]
        generalize tail.reverse.takeWhile (· ≠ '{') = before at *
        have tail_eq : tail = comment.reverse ++ '{' :: before.reverse := by
          rw [← List.reverse_reverse tail, parts]
          simp
        subst tail_eq whole
        refine ⟨?_, ?_, ?_⟩
        · rw [← List.reverse_reverse code, reversed]
          simp
        · intro member
          exact noClosing (by simp [member])
        · have outside : '}' ∉ before.reverse :=
            fun member => noClosing (List.mem_append_right _ (.tail _ member))
          have inside := Text.differs_of_not_mem outside
          rw [NoneOpen, List.reverse_append, List.reverse_reverse, Text.takeWhile_run inside stops]
          simpa using unopened

theorem cutComment_eq_some_iff {code body comment : List Char} :
    cutComment code = (body, some comment) ↔ CommentCut code body comment := by
  constructor
  · intro cut
    obtain ⟨whole, noClosing, noneOpen⟩ := eq_append_of_cutComment cut
    obtain ⟨behindLast, withoutAny⟩ := noneOpen_iff.mp noneOpen
    exact ⟨whole, noClosing, behindLast, withoutAny⟩
  · rintro ⟨rfl, noClosing, behindLast, withoutAny⟩
    exact cutComment_append noClosing (noneOpen_iff.mpr ⟨behindLast, withoutAny⟩)

theorem CommentCut.unique {code body comment other remark : List Char}
    (first : CommentCut code body comment) (second : CommentCut code other remark) :
    body = other ∧ comment = remark := by
  have same := (cutComment_eq_some_iff.mpr first).symm.trans (cutComment_eq_some_iff.mpr second)
  simpa using same

/-- Without a comment the whole code is the body. -/
theorem cutComment_of_none {code body : List Char} (cut : cutComment code = (body, none)) :
    body = code := by
  unfold cutComment at cut
  split at cut
  case h_1 =>
    simp only at cut
    split at cut <;> cases cut
    rfl
  case h_2 =>
    cases cut
    rfl

theorem cutComment_eq_none_iff {code : List Char} :
    cutComment code = (code, none) ↔ ∀ body comment, ¬CommentCut code body comment := by
  constructor
  · intro uncut body comment cut
    rw [cutComment_eq_some_iff.mpr cut] at uncut
    cases uncut
  · intro noCut
    cases cut : cutComment code with
    | mk body comment =>
        cases comment with
        | none => rw [cutComment_of_none cut]
        | some comment => exact absurd (cutComment_eq_some_iff.mp cut) (noCut body comment)

theorem eq_append_commentLetters_of_cut {code body : List Char} {comment : Option (List Char)}
    (cut : cutComment code = (body, comment)) :
    code = body ++ commentLetters (comment.map String.ofList) := by
  cases comment with
  | none => simpa [commentLetters] using (cutComment_of_none cut).symm
  | some comment => simpa [commentLetters] using (eq_append_of_cutComment cut).1

/-- A code that does not end in a closing brace carries no comment. -/
theorem cutComment_of_getLast? {code : List Char} (ends : ∀ letter ∈ code.getLast?, letter ≠ '}') :
    cutComment code = (code, none) := by
  cases cut : cutComment code with
  | mk body comment =>
      cases comment with
      | none => rw [cutComment_of_none cut]
      | some comment =>
          obtain ⟨rfl, -, -⟩ := eq_append_of_cutComment cut
          rw [List.getLast?_concat] at ends
          exact absurd rfl (ends '}' rfl)

theorem cutComment_of_not_mem {code : List Char} (noClosing : '}' ∉ code) :
    cutComment code = (code, none) :=
  cutComment_of_getLast? fun _ last same => noClosing (same ▸ List.mem_of_getLast? last)

/-! ### Comments behind untrimmed bodies -/

theorem NoneOpen.of_append {lead body : List Char} (noneOpen : NoneOpen (lead ++ body)) :
    NoneOpen body := by
  intro member
  apply noneOpen
  rw [List.reverse_append, List.takeWhile_append]
  split
  case isTrue => exact List.mem_append_left _ ((List.takeWhile_sublist _).subset member)
  case isFalse => exact member

theorem NoneOpen.trimStart {body : List Char} (noneOpen : NoneOpen body) :
    NoneOpen (Text.trimStart body) := by
  rw [← List.takeWhile_append_dropWhile (p := Text.isBlank) (l := body)] at noneOpen
  exact noneOpen.of_append

/-- Braces are not blank, so trimming a code with a comment trims its body at the start. -/
theorem cutComment_trim {body comment : List Char} (noneOpen : NoneOpen body)
    (noClosing : '}' ∉ comment) :
    cutComment (Text.trim (body ++ '{' :: comment ++ ['}'])) =
      (Text.trimStart body, some comment) := by
  have start : Text.trimStart (body ++ '{' :: (comment ++ ['}'])) =
      Text.trimStart body ++ '{' :: comment ++ ['}'] := by
    rw [Text.trimStart_append_cons (by decide), List.append_assoc, List.cons_append]
  rw [Text.trim, List.append_assoc, List.cons_append, start, Text.trimEnd_concat (by decide)]
  exact cutComment_append noClosing noneOpen.trimStart

end TrickLedger.Play
