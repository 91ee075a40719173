import Mathlib.Data.List.Forall2
import Mathlib.Data.Nat.Digits.Defs
import TrickLedger.Output.Json
import TrickLedger.Proofs.Text.Numeral

/-!
# The grammar of structured text

Structured values are written as JSON texts.  The grammar leaves the blanks between the
marks free and lets a character stand in several ways; the texts that are written follow it.
-/

namespace TrickLedger.Output.Json

open Text

/-- The letters behind a backslash, each with the character that it stands for. -/
def marks : List (Char × Char) :=
  [('\x22', '\x22'), ('\\', '\\'), ('/', '/'), ('b', '\x08'), ('f', '\x0c'), ('n', '\n'),
    ('r', '\r'), ('t', '\t')]

/-- How a character can stand in a quoted text: as itself, as a letter behind a backslash, or
by the four hexadecimal digits of its number. -/
inductive LetterAs (letter : Char) : List Char → Prop
  | plain (visible : 0x20 ≤ letter.toNat) (unmarked : letter ≠ '\x22' ∧ letter ≠ '\\') :
      LetterAs letter [letter]
  | marked (mark : Char) (stands : (mark, letter) ∈ marks) : LetterAs letter ['\\', mark]
  | numbered (digits : List Nat) (four : digits.length = 4) (small : ∀ digit ∈ digits, digit < 16)
      (number : Nat.ofDigits 16 digits.reverse = letter.toNat) :
      LetterAs letter ('\\' :: 'u' :: digits.map Nat.digitChar)

/-- The text is made of blanks only. -/
def Blank (text : String) : Prop :=
  ∀ letter ∈ text.toList, letter ∈ [' ', '\n', '\r', '\t']

mutual

/-- The text stands for the value.  Blanks may surround any value and any name. -/
inductive Spells : Json → String → Prop
  | null : Spells .null "null"
  | true : Spells (.bool true) "true"
  | false : Spells (.bool false) "false"
  | number (negative : Bool) (digits : List Char) (nonempty : digits ≠ [])
      (allDigits : ∀ letter ∈ digits, letter.isDigit = true) (canonical : NoLeadingZero digits) :
      Spells (.number (if negative then -numeralValue digits else numeralValue digits))
        (String.ofList ((if negative then ['-'] else []) ++ digits))
  | string (value : String) (parts : List (List Char))
      (each : List.Forall₂ LetterAs value.toList parts) :
      Spells (.string value) ("\x22" ++ String.ofList parts.flatten ++ "\x22")
  | noItems : Spells (.list []) "[]"
  | items (items : List Json) (text : String) (each : SpellsItems items text) :
      Spells (.list items) ("[" ++ text ++ "]")
  | noMembers : Spells (.object []) "\x7b\x7d"
  | members (members : List (String × Json)) (text : String) (each : SpellsMembers members text) :
      Spells (.object members) ("\x7b" ++ text ++ "\x7d")
  | spaced (value : Json) (before text after : String) (blankBefore : Blank before)
      (spells : Spells value text) (blankAfter : Blank after) :
      Spells value (before ++ text ++ after)

/-- The text has the items of a list, of which there is one at least. -/
inductive SpellsItems : List Json → String → Prop
  | last (item : Json) (text : String) (spells : Spells item text) : SpellsItems [item] text
  | more (item : Json) (items : List Json) (text others : String) (spells : Spells item text)
      (spellsOthers : SpellsItems items others) : SpellsItems (item :: items) (text ++ "," ++ others)

/-- The text has the members of an object, of which there is one at least. -/
inductive SpellsMembers : List (String × Json) → String → Prop
  | last (name : String) (value : Json) (key text : String) (spellsKey : Spells (.string name) key)
      (spells : Spells value text) : SpellsMembers [(name, value)] (key ++ ":" ++ text)
  | more (name : String) (value : Json) (members : List (String × Json)) (key text others : String)
      (spellsKey : Spells (.string name) key) (spells : Spells value text)
      (spellsOthers : SpellsMembers members others) :
      SpellsMembers ((name, value) :: members) (key ++ ":" ++ text ++ "," ++ others)

end

/-! ### Single values -/

theorem letterAs_escape (letter : Char) : LetterAs letter (escape letter) := by
  unfold escape
  split_ifs with unplain backspace feed newline carriage tab low
  · rcases unplain with rfl | rfl <;> exact .marked _ (by decide)
  · exact .marked 'b' (by simp [marks, backspace])
  · exact .marked 'f' (by simp [marks, feed])
  · exact .marked 'n' (by simp [marks, newline])
  · exact .marked 'r' (by simp [marks, carriage])
  · exact .marked 't' (by simp [marks, tab])
  · refine .numbered [0, 0, letter.toNat / 16, letter.toNat % 16] rfl ?_ ?_
    · simp only [List.mem_cons, List.not_mem_nil, or_false]
      omega
    · simp only [List.reverse_cons, List.reverse_nil, List.nil_append, List.cons_append,
        Nat.ofDigits_cons, Nat.ofDigits_nil]
      omega
  · exact .plain (Nat.not_lt.mp low) (not_or.mp unplain)

theorem spells_quote (value : String) : Spells (.string value) (quote value) := by
  have each : List.Forall₂ LetterAs value.toList (value.toList.map escape) := by
    rw [List.forall₂_map_right_iff, List.forall₂_same]
    exact fun letter _ => letterAs_escape letter
  have quoted : quote value =
      "\x22" ++ String.ofList (value.toList.map escape).flatten ++ "\x22" := by
    rw [quote, List.flatMap_def]
    simp [← String.toList_inj]
  rw [quoted]
  exact .string value _ each

theorem spells_signedNumeral (number : Int) :
    Spells (.number number) (String.ofList (signedNumeral number)) := by
  have spells := Spells.number (decide (number < 0)) (numeral number.natAbs) (numeral_ne_nil _)
    (fun _ => isDigit_of_mem_numeral) (noLeadingZero_numeral _)
  have value : (if number < 0 then -(number.natAbs : Int) else number.natAbs) = number := by
    split_ifs <;> omega
  simp only [numeralValue_numeral, decide_eq_true_eq, value] at spells
  unfold signedNumeral
  by_cases below : number < 0 <;> simpa [below] using spells

/-! ### Nested values -/

theorem blank_empty : Blank "" := by
  simp [Blank]

theorem blank_lineBreak (level : Nat) : Blank (lineBreak level) := by
  intro letter member
  simp only [lineBreak, String.toList_ofList, List.mem_cons, List.mem_replicate] at member
  rcases member with rfl | ⟨-, rfl⟩ <;> decide

theorem blank_space : Blank " " := by
  simp [Blank]

theorem colon_space : ": " = ":" ++ " " :=
  rfl

variable {value : Json} {text before after : String}

theorem Spells.behind (blank : Blank before) (spells : Spells value text) :
    Spells value (before ++ text) := by
  simpa using spells.spaced _ _ _ "" blank blank_empty

theorem Spells.ahead (spells : Spells value text) (blank : Blank after) :
    Spells value (text ++ after) := by
  simpa using spells.spaced _ "" _ _ blank_empty blank

mutual

theorem spells_write (level : Nat) : ∀ value : Json, Spells value (value.write level)
  | .null => .null
  | .bool true => .true
  | .bool false => .false
  | .number integer => spells_signedNumeral integer
  | .string value => spells_quote value
  | .list [] => .noItems
  | .list (item :: items) => by
      have first := (spells_write (level + 1) item).behind (blank_lineBreak (level + 1))
      have all := spellsItems_write (level + 1) items first (blank_lineBreak level)
      simpa only [write, String.append_assoc] using Spells.items _ _ all
  | .object [] => .noMembers
  | .object ((name, value) :: members) => by
      have key := (spells_quote name).behind (blank_lineBreak (level + 1))
      have first := (spells_write (level + 1) value).behind blank_space
      have all := spellsMembers_write (level + 1) members key first (blank_lineBreak level)
      simpa only [write, colon_space, String.append_assoc] using Spells.members _ _ all

/-- The first item is given with its text, and what follows the last one is blank. -/
theorem spellsItems_write (level : Nat) {item : Json} {text after : String} :
    ∀ items : List Json, Spells item text → Blank after →
      SpellsItems (item :: items) (text ++ writeItems level items ++ after)
  | [], spells, blank => by
      simpa only [writeItems, String.append_empty] using
        SpellsItems.last item _ (spells.ahead blank)
  | next :: items, spells, blank => by
      have following := (spells_write level next).behind (blank_lineBreak level)
      have others := spellsItems_write level items following blank
      simpa only [writeItems, String.append_assoc] using
        SpellsItems.more item _ _ _ spells others

/-- The first member is given with its text, and what follows the last one is blank. -/
theorem spellsMembers_write (level : Nat) {name key : String} {value : Json}
    {text after : String} :
    ∀ members : List (String × Json), Spells (.string name) key → Spells value text →
      Blank after →
      SpellsMembers ((name, value) :: members)
        (key ++ ":" ++ text ++ writeMembers level members ++ after)
  | [], spellsKey, spells, blank => by
      simpa only [writeMembers, String.append_empty, String.append_assoc] using
        SpellsMembers.last name value key _ spellsKey (spells.ahead blank)
  | (nextName, nextValue) :: members, spellsKey, spells, blank => by
      have nextKey := (spells_quote nextName).behind (blank_lineBreak level)
      have following := (spells_write level nextValue).behind blank_space
      have others := spellsMembers_write level members nextKey following blank
      simpa only [writeMembers, colon_space, String.append_assoc] using
        SpellsMembers.more name value _ key text _ spellsKey spells others

end

/-- A value is written as a text that stands for it. -/
theorem spells_render (value : Json) : Spells value value.render :=
  spells_write 0 value

end TrickLedger.Output.Json
