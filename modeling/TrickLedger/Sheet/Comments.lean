import TrickLedger.Play.Reader
import TrickLedger.Sheet.Basic

/-!
# Comments of plays on a sheet

The scanner of a sheet and the reader of its plays each look for the braces of a comment.
This says when the two agree on a code, and what a comment is in the text of a sheet.
-/

namespace TrickLedger

/-- The code has no braces and no comment, or its comment goes from the first opening brace
to the end, or the comment is not closed and the code is refused. -/
inductive CommentAgrees (code : String) : Prop
  | absent (noOpening : '{' ∉ code.toList)
      (none : ∀ play, Play.ofCode code = .ok play → play.comment = none) : CommentAgrees code
  | closed (front comment : List Char) (parts : code.toList = front ++ '{' :: comment ++ ['}'])
      (first : '{' ∉ front) (noClosing : '}' ∉ comment)
      (cut : Play.cutComment (Text.trim code.toList) = (Text.trimStart front, some comment)) :
      CommentAgrees code
  | unclosed (front rest : List Char) (parts : code.toList = front ++ '{' :: rest)
      (first : '{' ∉ front) (noClosing : '}' ∉ rest)
      (refused : ∃ fault, Play.ofCode code = .error fault) : CommentAgrees code

/-- The letters of a text without its carriage returns. -/
def withoutReturns (letters : List Char) : List Char :=
  letters.filter (· ≠ '\r')

/-- The play was read from its place in the text without carriage returns, and its comment
is what stands there between the first opening brace and the next closing one. -/
inductive CommentStands (text : List Char) (written : WrittenPlay) (play : Play) : Prop
  | absent (noOpening : '{' ∉ written.code.toList) (none : play.comment = none) :
      CommentStands text written play
  | braces (before front between after : List Char)
      (parts : text = before ++ (front ++ '{' :: between ++ ['}']) ++ after)
      (place : before.length = written.start)
      (code : written.code.toList = withoutReturns (front ++ '{' :: between ++ ['}']))
      (first : '{' ∉ front) (noClosing : '}' ∉ between)
      (comment : play.comment = some (String.ofList (withoutReturns between))) :
      CommentStands text written play

end TrickLedger
