import TrickLedger.Text.Blank

/-!
# Runs of letters

A run of letters with a property is cut off a text whole when the text does not go
on with such a letter.  In particular a text is cut at the first occurrence of a
letter, and a text with no blank at its ends is not trimmed.
-/

namespace TrickLedger.Text

variable {property : Char → Bool} {run rest : List Char}

theorem dropWhile_eq_self (stops : ∀ letter ∈ rest.head?, property letter = false) :
    rest.dropWhile property = rest := by
  cases rest with
  | nil => rfl
  | cons letter rest => exact List.dropWhile_cons_of_neg (by simp [stops letter rfl])

theorem takeWhile_eq_nil (stops : ∀ letter ∈ rest.head?, property letter = false) :
    rest.takeWhile property = [] := by
  cases rest with
  | nil => rfl
  | cons letter rest => exact List.takeWhile_cons_of_neg (by simp [stops letter rfl])

theorem takeWhile_run (inside : ∀ letter ∈ run, property letter = true)
    (stops : ∀ letter ∈ rest.head?, property letter = false) :
    (run ++ rest).takeWhile property = run := by
  rw [List.takeWhile_append_of_pos inside, takeWhile_eq_nil stops, List.append_nil]

theorem dropWhile_run (inside : ∀ letter ∈ run, property letter = true)
    (stops : ∀ letter ∈ rest.head?, property letter = false) :
    (run ++ rest).dropWhile property = rest := by
  rw [List.dropWhile_append_of_pos inside, dropWhile_eq_self stops]

theorem not_head?_dropWhile (property : Char → Bool) (text : List Char) :
    ∀ letter ∈ (text.dropWhile property).head?, property letter = false := by
  intro letter ahead
  have stopped := List.head?_dropWhile_not property text
  rw [Option.mem_def] at ahead
  simpa [ahead] using stopped

section Cut

variable {mark : Char} {before after : List Char}

theorem differs_of_not_mem {text : List Char} (absent : mark ∉ text) :
    ∀ letter ∈ text, (letter ≠ mark : Bool) = true := by
  intro letter member
  simpa using fun equal : letter = mark => absent (equal ▸ member)

theorem takeWhile_ne_append (absent : mark ∉ before) :
    (before ++ mark :: after).takeWhile (· ≠ mark) = before :=
  takeWhile_run (differs_of_not_mem absent) (by simp)

theorem dropWhile_ne_append (absent : mark ∉ before) :
    (before ++ mark :: after).dropWhile (· ≠ mark) = mark :: after :=
  dropWhile_run (differs_of_not_mem absent) (by simp)

theorem eq_of_dropWhile_ne {text : List Char} {letter : Char}
    (dropped : text.dropWhile (· ≠ mark) = letter :: after) : letter = mark := by
  have stopped := not_head?_dropWhile (· ≠ mark) text
  rw [dropped] at stopped
  simpa using stopped letter rfl

theorem not_mem_takeWhile_ne (mark : Char) (text : List Char) :
    mark ∉ text.takeWhile (· ≠ mark) := by
  intro member
  simpa using List.all_eq_true.mp List.all_takeWhile mark member

end Cut

theorem trimEnd_eq_self {text : List Char}
    (ends : ∀ letter ∈ text.getLast?, isBlank letter = false) : trimEnd text = text := by
  rw [trimEnd, dropWhile_eq_self (by simpa using ends), List.reverse_reverse]

/-- A text with no blank at its ends is not trimmed. -/
theorem trim_eq_self {text : List Char}
    (starts : ∀ letter ∈ text.head?, isBlank letter = false)
    (ends : ∀ letter ∈ text.getLast?, isBlank letter = false) :
    trim text = text := by
  have start : trimStart text = text := dropWhile_eq_self starts
  rw [trim, start, trimEnd_eq_self ends]

section Trim

variable {text lead trail : List Char}

/-- A text is what is left of it without the blanks at its ends, between blanks. -/
theorem exists_eq_trim (text : List Char) :
    ∃ lead trail, text = lead ++ trim text ++ trail ∧
      (∀ letter ∈ lead, isBlank letter = true) ∧ ∀ letter ∈ trail, isBlank letter = true := by
  have start := List.takeWhile_append_dropWhile (p := isBlank) (l := text)
  have stop := List.takeWhile_append_dropWhile (p := isBlank) (l := (trimStart text).reverse)
  refine ⟨text.takeWhile isBlank, ((trimStart text).reverse.takeWhile isBlank).reverse, ?_, ?_, ?_⟩
  · rw [trim, trimEnd, List.append_assoc, ← List.reverse_append, stop, List.reverse_reverse]
    exact start.symm
  · exact List.all_eq_true.mp List.all_takeWhile
  · intro letter member
    exact List.all_eq_true.mp List.all_takeWhile letter (List.mem_reverse.mp member)

theorem trimStart_padded (leadBlank : ∀ letter ∈ lead, isBlank letter = true) :
    trimStart (lead ++ text) = trimStart text :=
  List.dropWhile_append_of_pos leadBlank

theorem mem_getLast?_of_trimStart {letter : Char} (last : letter ∈ (trimStart text).getLast?) :
    letter ∈ text.getLast? := by
  rw [← List.takeWhile_append_dropWhile (p := isBlank) (l := text), List.getLast?_append,
    ← trimStart, Option.mem_def.mp last]
  rfl

theorem trimEnd_padded (trailBlank : ∀ letter ∈ trail, isBlank letter = true) :
    trimEnd (text ++ trail) = trimEnd text := by
  have reversed : ∀ letter ∈ trail.reverse, isBlank letter = true :=
    fun letter member => trailBlank letter (List.mem_reverse.mp member)
  rw [trimEnd, List.reverse_append, List.dropWhile_append_of_pos reversed, ← trimEnd]

/-- Blanks around a text do not change what is left of it without them. -/
theorem trim_padded (leadBlank : ∀ letter ∈ lead, isBlank letter = true)
    (trailBlank : ∀ letter ∈ trail, isBlank letter = true) :
    trim (lead ++ text ++ trail) = trim text := by
  rw [trim, List.append_assoc, trimStart_padded leadBlank, trimStart, List.dropWhile_append]
  split
  case isTrue allBlank =>
    have none : trimStart text = [] := List.isEmpty_iff.mp allBlank
    have trailNone : trimStart trail = [] := by
      rw [← List.append_nil trail, trimStart_padded trailBlank]
      rfl
    rw [← trimStart, trailNone, trim, none]
  case isFalse =>
    rw [trimEnd_padded trailBlank]
    rfl

/-- A letter that is not blank keeps what follows it from being trimmed. -/
theorem trimStart_append_cons {letter : Char} {rest : List Char} (stops : isBlank letter = false) :
    trimStart (text ++ letter :: rest) = trimStart text ++ letter :: rest := by
  have whole : (letter :: rest).dropWhile isBlank = letter :: rest :=
    List.dropWhile_cons_of_neg (by simp [stops])
  rw [trimStart, List.dropWhile_append, whole]
  split
  case isTrue allBlank => rw [trimStart, List.isEmpty_iff.mp allBlank, List.nil_append]
  case isFalse => rfl

theorem trimEnd_concat {letter : Char} (stops : isBlank letter = false) :
    trimEnd (text ++ [letter]) = text ++ [letter] :=
  trimEnd_eq_self (by simpa using stops)

theorem trim_trim (text : List Char) : trim (trim text) = trim text := by
  obtain ⟨lead, trail, whole, leadBlank, trailBlank⟩ := exists_eq_trim text
  rw [← trim_padded leadBlank trailBlank, ← whole]

end Trim

end TrickLedger.Text
