import TrickLedger.Text.Numeral

/-!
# Structured output

Values of objects and lists with their text. Each member stands on a line of
its own, indented by two spaces for each level; an empty object or list is
written by its brackets alone.
-/

namespace TrickLedger.Output

/-- A value of structured output. The members of an object keep their order. -/
inductive Json
  | null
  | bool (value : Bool)
  | number (value : Int)
  | string (value : String)
  | list (items : List Json)
  | object (members : List (String × Json))

namespace Json

/-- A text, or null without one. -/
def optional : Option String → Json
  | some value => string value
  | none => null

/-- The characters that stand for a character inside a quoted text. -/
def escape (letter : Char) : List Char :=
  if letter = '\x22' ∨ letter = '\\' then ['\\', letter]
  else if letter = '\x08' then ['\\', 'b']
  else if letter = '\x0c' then ['\\', 'f']
  else if letter = '\n' then ['\\', 'n']
  else if letter = '\r' then ['\\', 'r']
  else if letter = '\t' then ['\\', 't']
  else if letter.toNat < 0x20 then
    ['\\', 'u', '0', '0', Nat.digitChar (letter.toNat / 16), Nat.digitChar (letter.toNat % 16)]
  else [letter]

/-- A text in double quotes. -/
def quote (value : String) : String :=
  String.ofList ('\x22' :: value.toList.flatMap escape ++ ['\x22'])

/-- A line break and the indentation of a level. -/
def lineBreak (level : Nat) : String :=
  String.ofList ('\n' :: List.replicate (2 * level) ' ')

mutual

/-- The text of a value whose line is indented to a level. -/
def write (level : Nat) : Json → String
  | null => "null"
  | bool value => if value then "true" else "false"
  | number value => String.ofList (Text.signedNumeral value)
  | string value => quote value
  | list [] => "[]"
  | list (item :: items) =>
      "[" ++ lineBreak (level + 1) ++ write (level + 1) item ++ writeItems (level + 1) items ++
        lineBreak level ++ "]"
  | object [] => "\x7b\x7d"
  | object ((name, value) :: members) =>
      "\x7b" ++ lineBreak (level + 1) ++ quote name ++ ": " ++ write (level + 1) value ++
        writeMembers (level + 1) members ++ lineBreak level ++ "\x7d"

/-- The items of a list after the first one. -/
def writeItems (level : Nat) : List Json → String
  | [] => ""
  | item :: items => "," ++ lineBreak level ++ write level item ++ writeItems level items

/-- The members of an object after the first one. -/
def writeMembers (level : Nat) : List (String × Json) → String
  | [] => ""
  | (name, value) :: members =>
      "," ++ lineBreak level ++ quote name ++ ": " ++ write level value ++
        writeMembers level members

end

/-- The text of a whole value. -/
def render (value : Json) : String :=
  value.write 0

end Json
end TrickLedger.Output
