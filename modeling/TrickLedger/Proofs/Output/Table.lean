import Mathlib.Data.List.Forall2
import TrickLedger.Output.Text
import TrickLedger.Proofs.Money

/-!
# Tables of names and amounts

A table has a line for each player, with the name and the amount.  Spaces fill the names up to
the columns of the widest one, and they align the amounts at the right.
-/

namespace TrickLedger.Output

/-- A text whose lines all end with a line break. -/
def onLines (lines : List String) : String :=
  String.join (lines.map (· ++ "\n"))

def spaces (number : Nat) : String :=
  String.ofList (List.replicate number ' ')

/-- The parts of the row of a player in a table whose names take `width` columns.  An amount
of less than fourteen characters has spaces before it. -/
structure Row (width : Nat) (name : String) (amount : Int) where
  /-- The number of spaces behind the name. -/
  gap : Nat
  /-- The number of spaces before the amount. -/
  lead : Nat
  spelling : Money.Spelling
  name_filled : Text.columns name + gap = width
  amount_aligned : lead + spelling.text.length = max 14 spelling.text.length
  amount_spelled : spelling.amount = amount
  amount_signed : spelling.negative = true ↔ amount < 0

/-- The line that the parts of a row make up. -/
def Row.line {width : Nat} {name : String} {amount : Int} (row : Row width name amount) : String :=
  "  " ++ name ++ spaces row.gap ++ "  " ++ spaces row.lead ++ row.spelling.text

/-- The lines are the rows of the entries in their order.  Names take the columns of the widest
one. -/
inductive IsTable : List (String × Int) → List String → Prop
  | empty : IsTable [] []
  | rows (width : Nat) (entries : List (String × Int)) (lines : List String)
      (widest : ∃ entry ∈ entries, Text.columns entry.1 = width)
      (each : List.Forall₂ (fun entry line => ∃ row : Row width entry.1 entry.2, row.line = line)
        entries lines) : IsTable entries lines

/-! ### Lines -/

@[simp]
theorem onLines_nil : onLines [] = "" :=
  String.join_nil

@[simp]
theorem onLines_cons (text : String) (lines : List String) :
    onLines (text :: lines) = line text ++ onLines lines :=
  String.join_cons

@[simp]
theorem onLines_append (lines others : List String) :
    onLines (lines ++ others) = onLines lines ++ onLines others := by
  rw [onLines, List.map_append, String.join_append]
  rfl

/-- The texts of items, each on lines, are joined to a text on lines. -/
theorem exists_forall₂_onLines {α : Type} {text : α → String} {shows : α → List String → Prop}
    (each : ∀ item, ∃ lines, shows item lines ∧ text item = onLines lines) (items : List α) :
    ∃ parts, List.Forall₂ shows items parts ∧
      String.join (items.map text) = onLines parts.flatten := by
  induction items with
  | nil => exact ⟨[], .nil, rfl⟩
  | cons item items ih =>
      obtain ⟨lines, shown, printed⟩ := each item
      obtain ⟨parts, shownParts, printedParts⟩ := ih
      refine ⟨lines :: parts, .cons shown shownParts, ?_⟩
      rw [List.map_cons, String.join_cons, printed, printedParts, List.flatten_cons, onLines_append]

/-! ### Rows -/

variable {width : Nat} {name : String}

/-- The row of a player whose name takes no more than the columns of the table. -/
def Row.ofEntry (fits : Text.columns name ≤ width) (amount : Int) : Row width name amount where
  gap := width - Text.columns name
  lead := amountWidth - (Money.text amount).length
  spelling := .ofAmount amount
  name_filled := Nat.add_sub_of_le fits
  amount_aligned := by
    rw [Money.Spelling.text_ofAmount, amountWidth]
    omega
  amount_spelled := Money.Spelling.amount_ofAmount amount
  amount_signed := Money.Spelling.negative_ofAmount amount

theorem Row.line_ofEntry (fits : Text.columns name ≤ width) (amount : Int) :
    (Row.ofEntry fits amount).line = "  " ++ Text.padColumns width name ++ "  " ++
      Text.padStart amountWidth (Money.text amount) := by
  simp only [line, ofEntry, spaces, Money.Spelling.text_ofAmount, Text.padColumns, Text.padStart,
    String.append_assoc]

/-- The greatest of some numbers is one of them and is no less than the others. -/
theorem foldl_max_zero_spec {numbers : List Nat} (nonempty : numbers ≠ []) :
    numbers.foldl max 0 ∈ numbers ∧ ∀ number ∈ numbers, number ≤ numbers.foldl max 0 := by
  rw [← List.max?_eq_some_iff, List.foldl_max, Nat.zero_max]
  obtain ⟨greatest, found⟩ := Option.isSome_iff_exists.mp (List.isSome_max?_of_ne_nil nonempty)
  rw [found, Option.getD_some]

theorem exists_isTable_balancesText (entries : List (String × Int)) :
    ∃ lines, IsTable entries lines ∧ balancesText entries = onLines lines := by
  by_cases none : entries = []
  · subst none
    exact ⟨[], .empty, rfl⟩
  have nonempty : entries.map (fun entry => Text.columns entry.1) ≠ [] := by simpa using none
  obtain ⟨widest, fits⟩ := foldl_max_zero_spec nonempty
  rw [List.mem_map] at widest
  rw [List.forall_mem_map] at fits
  unfold balancesText
  generalize (entries.map fun entry => Text.columns entry.1).foldl max 0 = width at widest fits ⊢
  refine ⟨entries.map fun entry =>
    "  " ++ Text.padColumns width entry.1 ++ "  " ++ Text.padStart amountWidth (Money.text entry.2),
    .rows width entries _ widest ?_, ?_⟩
  · rw [List.forall₂_map_right_iff, List.forall₂_same]
    exact fun entry listed => ⟨.ofEntry (fits entry listed) entry.2, Row.line_ofEntry _ _⟩
  · rw [onLines, List.map_map]
    rfl

end TrickLedger.Output
