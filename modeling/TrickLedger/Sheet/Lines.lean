import TrickLedger.Sheet.Scanner

/-!
# Score sheets line by line

The format of score sheets in terms of lines and words, apart from the scanner
that reads it one character at a time. Ignored characters are dropped and the
text is cut at its line feeds; every character keeps its offset.
-/

namespace TrickLedger.Lines

/-- A character of a text with its offset. -/
structure Placed where
  letter : Char
  offset : Nat
  deriving DecidableEq, Repr

/-- A line with the offset of the line feed that ends it, if one does. -/
structure Line where
  letters : List Placed
  lineFeed : Option Nat
  deriving DecidableEq, Repr

/-- The characters of a text that count, each with its offset. -/
def placedLetters (text : List Char) : List Placed :=
  (text.zipIdx.map fun (letter, offset) => Placed.mk letter offset).filter fun placed =>
    !Scanner.isIgnored placed.letter placed.offset

/-- The lines of a text. The last one has no line feed. -/
def cut : List Placed → List Line
  | [] => [⟨[], none⟩]
  | placed :: others =>
      if placed.letter = '\n' then ⟨[], some placed.offset⟩ :: cut others
      else match cut others with
        | line :: lines => { line with letters := placed :: line.letters } :: lines
        | [] => []

/-- The character separates words. -/
def Placed.isSeparator (placed : Placed) : Bool :=
  Scanner.isSeparator placed.letter

/-- The text of characters. -/
def textOf (letters : List Placed) : String :=
  String.ofList (letters.map Placed.letter)

/-- The offset of the first character, or another one without characters. -/
def startOf (letters : List Placed) (otherwise : Nat) : Nat :=
  match letters with
  | placed :: _ => placed.offset
  | [] => otherwise

/-- The tokens of a part of a text and then those of what follows. The first fault
counts. -/
def followedBy (first others : Except SheetFault (List Token)) :
    Except SheetFault (List Token) := do
  let tokens ← first
  let more ← others
  .ok (tokens ++ more)

/-- A word of the options as a token, unless it is empty. -/
def settingToken (word : List Placed) : List Token :=
  if word.isEmpty then [] else [.setting (textOf word) (startOf word 0)]

/-- The options between separators, in the order of the text, the first of them
after the characters of a word read so far. -/
def settings (word : List Placed) : List Placed → List Token
  | [] => settingToken word
  | placed :: others =>
      if placed.isSeparator then settingToken word ++ settings [] others
      else settings (word ++ [placed]) others

/-- The tokens after the brace that opens the options: the options up to a closing
brace, after which only separators may stand before the end of the line. -/
def optionTokens (letters : List Placed) (lineEnd : Nat) : Except SheetFault (List Token) :=
  match letters.dropWhile (·.letter ≠ '}') with
  | [] => .error (.unterminatedOptions lineEnd)
  | _ :: tail =>
      match tail.dropWhile Placed.isSeparator with
      | [] => .ok (settings [] (letters.takeWhile (·.letter ≠ '}')))
      | found :: _ => .error (.unexpectedHeaderTail found.letter found.offset)

/-- The tokens after the separator that ends the date: the place up to an opening
brace, and the options. -/
def placeTokens (letters : List Placed) (lineEnd : Nat) : Except SheetFault (List Token) :=
  let place := (letters.takeWhile (·.letter ≠ '{')).map Placed.letter
  let placeToken := Token.place (String.ofList (Text.trim place))
  match letters.dropWhile (·.letter ≠ '{') with
  | [] => .ok [placeToken]
  | _ :: options => followedBy (.ok [placeToken]) (optionTokens options lineEnd)

/-- The tokens of the first line: the date up to a separator, and the place and the
options after it. -/
def headerTokens (line : Line) (textEnd : Nat) : Except SheetFault (List Token) :=
  let letters := line.letters.dropWhile Placed.isSeparator
  let date := letters.takeWhile (!·.isSeparator)
  match letters.dropWhile (!·.isSeparator) with
  | [] => .ok (if date.isEmpty ∧ line.lineFeed.isNone then [] else [.date (textOf date)])
  | _ :: rest =>
      followedBy (.ok [.date (textOf date)]) (placeTokens rest (line.lineFeed.getD textEnd))

/-- The character can stand in a play outside its comment. -/
def Placed.isPlain (placed : Placed) : Bool :=
  !placed.isSeparator && placed.letter != '{'

/-- The play at the start of a line, and what stands after it. A comment goes on up to
the closing brace, or up to the end of the line if it is not closed. -/
def cutPlay (letters : List Placed) : List Placed × List Placed :=
  let body := letters.takeWhile Placed.isPlain
  match letters.dropWhile Placed.isPlain with
  | [] => (letters, [])
  | mark :: inner =>
      if mark.letter = '{' then
        match inner.dropWhile (·.letter ≠ '}') with
        | [] => (letters, [])
        | closing :: after =>
            (body ++ mark :: inner.takeWhile (·.letter ≠ '}') ++ [closing], after)
      else (body, mark :: inner)

theorem letter_ne_of_mem_takeWhile {mark : Char} {letters : List Placed} {placed : Placed}
    (member : placed ∈ letters.takeWhile (·.letter ≠ mark)) : placed.letter ≠ mark := by
  simpa using List.all_eq_true.mp List.all_takeWhile placed member

theorem letter_eq_of_dropWhile {mark : Char} {letters rest : List Placed} {placed : Placed}
    (dropped : letters.dropWhile (·.letter ≠ mark) = placed :: rest) : placed.letter = mark := by
  have stops := List.head?_dropWhile_not (·.letter ≠ mark) letters
  rw [dropped] at stops
  simpa using stops

/-- The ways in which a play and what stands after it can make up letters. -/
inductive PlayCut : List Placed → List Placed × List Placed → Prop
  | ends (body : List Placed) (plain : ∀ placed ∈ body, placed.isPlain = true) :
      PlayCut body (body, [])
  | separated (body after : List Placed) (next : Placed)
      (plain : ∀ placed ∈ body, placed.isPlain = true) (separator : next.isSeparator = true) :
      PlayCut (body ++ next :: after) (body, next :: after)
  | closed (body comment after : List Placed) (mark closing : Placed)
      (plain : ∀ placed ∈ body, placed.isPlain = true) (opening : mark.letter = '{')
      (inside : ∀ placed ∈ comment, placed.letter ≠ '}') (closes : closing.letter = '}') :
      PlayCut (body ++ mark :: (comment ++ closing :: after))
        (body ++ mark :: comment ++ [closing], after)
  | unclosed (body comment : List Placed) (mark : Placed)
      (plain : ∀ placed ∈ body, placed.isPlain = true) (opening : mark.letter = '{')
      (inside : ∀ placed ∈ comment, placed.letter ≠ '}') :
      PlayCut (body ++ mark :: comment) (body ++ mark :: comment, [])

theorem playCut_cutPlay (letters : List Placed) : PlayCut letters (cutPlay letters) := by
  have plain : ∀ placed ∈ letters.takeWhile Placed.isPlain, placed.isPlain = true :=
    List.all_eq_true.mp List.all_takeWhile
  have parts := List.takeWhile_append_dropWhile (p := Placed.isPlain) (l := letters)
  unfold cutPlay
  generalize letters.takeWhile Placed.isPlain = body at *
  split
  case h_1 none =>
    rw [none, List.append_nil] at parts
    exact .ends letters (parts ▸ plain)
  case h_2 mark inner rest =>
    have stops := List.head?_dropWhile_not Placed.isPlain letters
    rw [rest] at parts stops
    split
    case isFalse noComment =>
      have separator : mark.isSeparator = true := by
        simpa [Placed.isPlain, noComment] using stops
      exact parts ▸ .separated body inner mark plain separator
    case isTrue opening =>
      have inside : ∀ placed ∈ inner.takeWhile (·.letter ≠ '}'), placed.letter ≠ '}' :=
        fun placed => letter_ne_of_mem_takeWhile
      have innerParts := List.takeWhile_append_dropWhile (p := (·.letter ≠ '}')) (l := inner)
      generalize inner.takeWhile (·.letter ≠ '}') = comment at *
      split
      case h_1 unclosed =>
        rw [unclosed, List.append_nil] at innerParts
        subst innerParts
        exact parts ▸ .unclosed body comment mark plain opening inside
      case h_2 closing after closed =>
        have closes := letter_eq_of_dropWhile closed
        rw [closed] at innerParts
        rw [← parts, ← innerParts]
        exact .closed body comment after mark closing plain opening inside closes

/-- A play starts with the first letter unless that is a separator. -/
theorem PlayCut.head? {letters : List Placed} {parts : List Placed × List Placed}
    (shape : PlayCut letters parts) {first : Placed} (starts : letters.head? = some first)
    (word : first.isSeparator = false) : parts.1.head? = some first := by
  cases shape with
  | ends body plain => exact starts
  | separated body after next plain separator =>
      cases body with
      | nil =>
          cases starts
          rw [separator] at word
          contradiction
      | cons letter body => exact starts
  | closed body comment after mark closing plain opening inside closes =>
      cases body <;> exact starts
  | unclosed body comment mark plain opening inside => exact starts

theorem cutPlay_append (letters : List Placed) :
    (cutPlay letters).1 ++ (cutPlay letters).2 = letters := by
  have shape := playCut_cutPlay letters
  generalize cutPlay letters = parts at shape
  cases shape <;> simp

/-- The play at the start of some letters as a token. -/
def playToken (letters : List Placed) : Token :=
  .play (textOf (cutPlay letters).1) (startOf letters 0)

/-- The plays of a line after the name. A play is followed by a separator or by the
end of the line. -/
def playTokens (letters : List Placed) : Except SheetFault (List Token) :=
  match _start : letters.dropWhile Placed.isSeparator with
  | [] => .ok []
  | first :: others =>
      match _rest : (cutPlay (first :: others)).2 with
      | [] => .ok [playToken (first :: others)]
      | next :: after =>
          if next.isSeparator then followedBy (.ok [playToken (first :: others)]) (playTokens after)
          else .error (.unexpectedAfterComment next.letter next.offset)
termination_by letters.length
decreasing_by
  have shorter := (List.dropWhile_suffix Placed.isSeparator (l := letters)).length_le
  have whole := congrArg List.length (cutPlay_append (first :: others))
  simp only [_start, _rest, List.length_append, List.length_cons] at shorter whole
  omega

theorem playTokens_nil : playTokens [] = .ok [] := by
  rw [playTokens]
  rfl

/-- The tokens of a line after the first: a name with plays, a group break for a
blank line that ends, and nothing for a blank end of the text. -/
def bodyTokens (line : Line) : Except SheetFault (List Token) :=
  if line.letters.all Placed.isSeparator then
    .ok (if line.lineFeed.isSome then [.groupBreak] else [])
  else
    let name := line.letters.takeWhile (!·.isSeparator)
    followedBy (.ok [.player (textOf name) (startOf line.letters 0)])
      (playTokens (line.letters.dropWhile (!·.isSeparator)))

/-- The tokens of the lines after the first. -/
def bodyLines : List Line → Except SheetFault (List Token)
  | [] => .ok []
  | line :: lines => followedBy (bodyTokens line) (bodyLines lines)

/-- The tokens of a text, line by line. -/
def tokens (text : String) : Except SheetFault (List Token) :=
  match cut (placedLetters text.toList) with
  | [] => .ok []
  | header :: lines => followedBy (headerTokens header text.length) (bodyLines lines)

end TrickLedger.Lines
