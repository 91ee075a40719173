/-!
# Comments of plays

A comment stands in braces at the end of a play code. It starts at the first
opening brace after the last closing brace before its own, so `e{{x}` carries
the comment `{x`, and a text that ends in a closing brace without such an
opening brace carries no comment.
-/

namespace TrickLedger.Play

/-- Splits a play code into its body and the comment at its end. -/
def cutComment (code : List Char) : List Char × Option (List Char) :=
  match code.reverse with
  | '}' :: inner =>
      let head := (inner.dropWhile (· ≠ '}')).reverse
      let tail := (inner.takeWhile (· ≠ '}')).reverse
      match tail.dropWhile (· ≠ '{') with
      | _ :: comment => (head ++ tail.takeWhile (· ≠ '{'), some comment)
      | [] => (code, none)
  | _ => (code, none)

end TrickLedger.Play
