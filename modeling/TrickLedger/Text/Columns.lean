import TrickLedger.Text.Emoji
import TrickLedger.Text.Fusion
import TrickLedger.Text.LetterColumns

/-!
# Columns of text

The number of terminal columns that a text takes. It is the sum of the columns of
the characters, but for fused letters and for characters that make up one emoji
together: those with a selector, a skin tone, flag letters, tags and joined emoji.
What a character adds depends on what follows it, so a text is read from its end.
-/

namespace TrickLedger.Text

/-- A selector chooses the form of the character before it. -/
inductive Selector
  | text
  | emoji
  /-- The fullwidth form of a curved quotation mark. -/
  | fullwidth
  deriving DecidableEq, Repr

/-- The selector that a character is. -/
def Selector.ofLetter? (letter : Char) : Option Selector :=
  if letter = '\uFE0E' then some .text
  else if letter = '\uFE0F' then some .emoji
  else if letter = '\uFE01' then some .fullwidth
  else none

/-- What follows a character, as far as the columns of the character depend on
it. -/
inductive Following
  | nothing
  | fusion (fusion : Fusion)
  /-- The Kirat Rai vowel sign E. -/
  | vowelE
  /-- The Kirat Rai vowel sign AI, which is a doubled E. -/
  | vowelAI
  | skinTone
  /-- A number of flag letters, which a joined emoji may follow. -/
  | flag (letters : Nat) (joined : Bool)
  | emoji
  /-- A joiner and an emoji, with a keycap before them or not. -/
  | joined (framed : Bool)
  /-- Tags up to their end and a joined emoji: tag letters, or tag digits that
  stand before tag letters. -/
  | tags (letters digits : Nat)
  deriving DecidableEq, Repr

namespace Following

/-- What a character is to the one before it. -/
def ofLetter (letter : Char) : Following :=
  match Fusion.ofLetter? letter with
  | some opened => fusion opened
  | none =>
      if letter = Char.ofNat 0x16D67 then vowelE
      else if letter = Char.ofNat 0x16D68 then vowelAI
      else if isFlagLetter letter then flag 1 false
      else if isSkinTone letter then skinTone
      else if isEmoji letter then emoji
      else nothing

/-- A joiner may stand before it and join it to an emoji. -/
def canBeJoined : Following → Bool
  | skinTone | emoji => true
  | flag letters _ => 2 ≤ letters
  | _ => false

/-- What stays of it behind a selector. -/
def behind (selector : Selector) : Following → Following
  | fusion opened => fusion opened
  | joined framed => if selector = .emoji then joined framed else nothing
  | _ => nothing

/-- What stays of it when the selector before it has no effect. -/
def release : Following → Following
  | fusion opened => fusion opened
  | _ => nothing

/-- What a character before a joined emoji adds, and what it is then, if it takes
part in the emoji. -/
def extendJoined (letter : Char) : Option (Int × Following) :=
  if letter = keycap then some (0, joined true)
  else if isFlagLetter letter then some (1, flag 1 true)
  else if isSkinTone letter then some (0, skinTone)
  else if letter = tagEnd then some (0, tags 0 0)
  else if isEmoji letter then some (0, emoji)
  else none

/-- What a character before tags adds, and what it is then, if it takes part. A
black flag takes from three to six letters, or three digits and up to four
letters. -/
def extendTags (letters digits : Nat) (letter : Char) : Option (Int × Following) :=
  if isTagLetter letter ∧ digits = 0 ∧ letters < 6 then some (0, tags (letters + 1) 0)
  else if isTagDigit letter ∧ digits < 3 ∧ letters ≤ 4 then some (0, tags letters (digits + 1))
  else if letter = blackFlag ∧ (digits = 3 ∨ digits = 0 ∧ 3 ≤ letters) then some (0, emoji)
  else none

/-- What a character adds to the columns when it makes one form with what follows
it, and what it is then to the character before it. -/
def extend (following : Following) (letter : Char) : Option (Int × Following) :=
  if letter = joiner ∧ following.canBeJoined then some (0, joined false)
  else match following with
    | fusion opened =>
        (opened.before letter).map fun (columns, opened?) =>
          (columns, (opened?.map fusion).getD nothing)
    | vowelE =>
        if letter = Char.ofNat 0x16D67 then some (0, vowelAI)
        else if letter = Char.ofNat 0x16D68 then some (1, vowelE)
        else if letter = Char.ofNat 0x16D63 ∨ letter = Char.ofNat 0x16D69 then some (0, nothing)
        else none
    | vowelAI => if letter = Char.ofNat 0x16D63 then some (0, nothing) else none
    | skinTone => if takesSkinTone letter then some (0, emoji) else none
    | flag letters false =>
        if isFlagLetter letter then some (1, flag (letters + 1) false) else none
    | flag letters true =>
        if isFlagLetter letter then
          some (if letters % 2 = 1 then -1 else 3, flag (letters + 1) true)
        else none
    | joined false => extendJoined letter
    | tags letters digits => extendTags letters digits letter
    | nothing | emoji | joined true => none

end Following

/-- What follows a character: a selector, if there is one, and what is behind it. -/
structure Context where
  selector : Option Selector := none
  following : Following := .nothing
  deriving DecidableEq, Repr

namespace Context

/-- The columns of a character whose form a selector chooses, and what the
character is then to the one before it. -/
def selected (selector : Selector) (following : Following) (letter : Char) :
    Option (Int × Following) :=
  match selector with
  | .emoji =>
      if !hasTwoForms letter then none
      else match following with
        | .joined _ => some (0, .emoji)
        | _ => some (2, .emoji)
  | .text => if narrowsAsText letter then some (1, .nothing) else none
  | .fullwidth =>
      if letter ∈ ['\u2018', '\u2019', '\u201C', '\u201D'] then some (2, .nothing) else none

/-- The columns that a character adds before what follows it, without a selector
between them, and what is then before the next character. -/
def unselected (following : Following) (letter : Char) : Int × Context :=
  match Selector.ofLetter? letter with
  | some selector => (0, ⟨selector, following.behind selector⟩)
  | none =>
      match following.extend letter with
      | some (columns, following) => (columns, ⟨none, following⟩)
      | none => (columnsOf letter, ⟨none, .ofLetter letter⟩)

/-- The columns that a character adds, and what is then before the next one. -/
def add (context : Context) (letter : Char) : Int × Context :=
  match context.selector with
  | none => unselected context.following letter
  | some selector =>
      match selected selector context.following letter with
      | some (columns, following) => (columns, ⟨none, following⟩)
      | none => unselected context.following.release letter

end Context

/-- The columns of a text, read from its end, and what its first letters are to a
character before them. -/
def scanColumns (text : List Char) : Int × Context :=
  text.foldr (fun letter (columns, context) =>
    let (added, context) := context.add letter
    (columns + added, context)) (0, {})

/-- The number of columns that a text takes. -/
def columns (text : String) : Nat :=
  (scanColumns text.toList).1.toNat

/-- The text with spaces added at its end, up to a number of columns. -/
def padColumns (width : Nat) (text : String) : String :=
  text ++ String.ofList (List.replicate (width - columns text) ' ')

/-- The text with spaces added at its start, up to a number of characters. -/
def padStart (width : Nat) (text : String) : String :=
  String.ofList (List.replicate (width - text.length) ' ') ++ text

end TrickLedger.Text
