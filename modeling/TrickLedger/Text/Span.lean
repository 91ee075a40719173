/-!
# Spans of text

A span counts characters from the start of a text. Its place in the UTF-8
encoding of the text counts bytes.
-/

namespace TrickLedger.Text

/-- The number of bytes that characters take in UTF-8. -/
def byteLength (letters : List Char) : Nat :=
  (letters.flatMap String.utf8EncodeChar).length

/-- A range of characters: from `start` up to, and not including, `stop`. -/
structure Span where
  start : Nat
  stop : Nat
  deriving DecidableEq, Repr

namespace Span

/-- The span that starts at a character and covers a number of them. -/
def ofLength (start length : Nat) : Span :=
  ⟨start, start + length⟩

/-- The number of characters; a span that ends before it starts has none. -/
def length (span : Span) : Nat :=
  span.stop - span.start

/-- The span covers no character. -/
def isEmpty (span : Span) : Bool :=
  span.length == 0

/-- The byte offset and the byte length of a span, held within the text. An
empty span is widened to one character. -/
def bytes (span : Span) (text : List Char) : Nat × Nat :=
  let start := byteLength (text.take span.start)
  let stop := byteLength (text.take (max span.stop (span.start + 1)))
  (start, stop - start)

end Span
end TrickLedger.Text
