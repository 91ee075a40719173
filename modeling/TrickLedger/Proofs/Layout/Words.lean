import Mathlib.Data.List.TakeWhile
import TrickLedger.Proofs.Outcome
import TrickLedger.Sheet.Layout

/-!
# Words between separators

Words that are laid out with separators around and between them are found again one by
one, and whatever letters there are, the options found in them are laid out so.
-/

namespace TrickLedger

open Lines

variable {letters others gap word after : List Placed} {placed : Placed} {text : String}
  {start : Nat} {words : List (String × Nat)}

/-- A text is a run of letters with a property and a rest that does not start with one. -/
theorem exists_run (property : Placed → Bool) (letters : List Placed) :
    ∃ run rest, letters = run ++ rest ∧ letters.takeWhile property = run ∧
      letters.dropWhile property = rest ∧ (∀ placed ∈ run, property placed = true) ∧
      ∀ placed ∈ rest.head?, property placed = false := by
  refine ⟨_, _, List.takeWhile_append_dropWhile.symm, rfl, rfl,
    List.all_eq_true.mp List.all_takeWhile, fun placed starts => ?_⟩
  have stops := List.head?_dropWhile_not property letters
  rw [Option.mem_def] at starts
  rwa [starts] at stops

theorem isGap_cons_iff :
    IsGap (placed :: letters) ↔ placed.isSeparator = true ∧ IsGap letters :=
  List.forall_mem_cons

theorem Spells.ne_nil (spelled : Spells word text start) : word ≠ [] := by
  rintro rfl
  cases spelled.start

theorem Spells.startOf_eq (spelled : Spells word text start) (otherwise : Nat) :
    startOf word otherwise = start := by
  cases word with
  | nil => exact absurd rfl spelled.ne_nil
  | cons first rest => exact Option.some.inj spelled.start

theorem spells_cons (first : Placed) (rest : List Placed) :
    Spells (first :: rest) (textOf (first :: rest)) first.offset :=
  ⟨rfl, rfl⟩

theorem spells_of_ne_nil (nonempty : word ≠ []) : Spells word (textOf word) (startOf word 0) := by
  obtain ⟨first, rest, rfl⟩ := List.exists_cons_of_ne_nil nonempty
  exact spells_cons first rest

theorem toList_textOf (letters : List Placed) :
    (textOf letters).toList = letters.map Placed.letter := by
  simp [textOf]

/-- The letters of the text and of its spelling are the same. -/
theorem Spells.toList_eq (spelled : Spells word text start) :
    text.toList = word.map Placed.letter := by
  rw [← spelled.text, toList_textOf]

theorem Spells.forall_iff (spelled : Spells word text start) {property : Char → Prop} :
    (∀ letter ∈ text.toList, property letter) ↔ ∀ placed ∈ word, property placed.letter := by
  rw [spelled.toList_eq, List.forall_mem_map]

namespace WordsLaidOut

theorem cons_separator (laidOut : WordsLaidOut words letters)
    (separator : placed.isSeparator = true) : WordsLaidOut words (placed :: letters) := by
  cases laidOut with
  | none gap separators => exact .none _ (isGap_cons_iff.mpr ⟨separator, separators⟩)
  | word gap letters after text start words separators spelled ends more =>
      have widened : IsGap (placed :: gap) := isGap_cons_iff.mpr ⟨separator, separators⟩
      exact .word (placed :: gap) letters after text start words widened spelled ends more

theorem cons_word (laidOut : WordsLaidOut words after) (nonempty : word ≠ [])
    (ends : EndsWord after) :
    WordsLaidOut ((textOf word, startOf word 0) :: words) (word ++ after) :=
  .word [] word after _ _ words (by simp [IsGap]) (spells_of_ne_nil nonempty) ends laidOut

/-- The letters of laid-out words are letters of the layout. -/
theorem mem_letters (laidOut : WordsLaidOut words letters) {entry : String × Nat}
    (member : entry ∈ words) {letter : Char} (inside : letter ∈ entry.1.toList) :
    ∃ placed ∈ letters, placed.letter = letter := by
  induction laidOut with
  | none => simp at member
  | word gap spelling after text start words separators spelled ends more ih =>
      rcases List.mem_cons.mp member with rfl | member
      · rw [spelled.toList_eq] at inside
        obtain ⟨placed, spells, rfl⟩ := List.mem_map.mp inside
        exact ⟨placed, by simp [spells], rfl⟩
      · obtain ⟨placed, inAfter, rfl⟩ := ih member
        exact ⟨placed, by simp [inAfter], rfl⟩

end WordsLaidOut

/-- The token of an option. -/
def Setting.token (setting : Setting) : Token :=
  .setting setting.text setting.start

section Settings

variable {found : List Setting}

theorem settings_gap (separators : IsGap gap) (others : List Placed) :
    settings [] (gap ++ others) = settings [] others := by
  induction gap with
  | nil => rfl
  | cons placed gap ih =>
      rw [isGap_cons_iff] at separators
      rw [List.cons_append, settings, if_pos separators.1, ih separators.2]
      rfl

theorem settings_word (inside : ∀ placed ∈ word, placed.isSeparator = false)
    (pending others : List Placed) :
    settings pending (word ++ others) = settings (pending ++ word) others := by
  induction word generalizing pending with
  | nil => simp
  | cons placed word ih =>
      rw [List.forall_mem_cons] at inside
      rw [List.cons_append, settings, inside.1, if_neg Bool.false_ne_true, ih inside.2]
      simp

theorem settings_endsWord (ends : EndsWord after) (word : List Placed) :
    settings word after = settingToken word ++ settings [] after := by
  cases after with
  | nil => simp [settings, settingToken]
  | cons next after =>
      have separator : next.isSeparator = true := ends next rfl
      simp [settings, separator, settingToken]

theorem settingToken_of_spells (spelled : Spells word text start) :
    settingToken word = [.setting text start] := by
  have notEmpty : word.isEmpty = false := by simpa using spelled.ne_nil
  rw [settingToken, notEmpty, if_neg Bool.false_ne_true, spelled.text, spelled.startOf_eq]

/-- Options that are laid out as words are found again. -/
theorem settings_of_laidOut
    (laidOut : WordsLaidOut (found.map Setting.word) letters)
    (words : ∀ setting ∈ found, ∀ letter ∈ setting.text.toList,
      Scanner.isSeparator letter = false) :
    settings [] letters = found.map Setting.token := by
  generalize entries : (found.map Setting.word) = list at laidOut
  induction laidOut generalizing found with
  | none gap separators =>
      rw [List.map_eq_nil_iff] at entries
      rw [← List.append_nil gap, settings_gap separators, entries]
      rfl
  | word gap word after text start list separators spelled ends more ih =>
      obtain ⟨setting, found, rfl, entry, rfl⟩ := List.map_eq_cons_iff.mp entries
      cases entry
      rw [List.forall_mem_cons] at words
      have inside : ∀ placed ∈ word, placed.isSeparator = false :=
        spelled.forall_iff.mp words.1
      rw [List.append_assoc, settings_gap separators, settings_word inside, List.nil_append,
        settings_endsWord ends, settingToken_of_spells spelled, ih words.2 rfl]
      rfl

/-- The option has a text without separators. -/
def Setting.IsScanned (setting : Setting) : Prop :=
  setting.text ≠ "" ∧ ∀ letter ∈ setting.text.toList, Scanner.isSeparator letter = false

/-- A word in front of laid-out options is laid out as one more of them. -/
theorem laidOut_settingToken
    (laidOut : WordsLaidOut (found.map Setting.word) after)
    (ends : EndsWord after) (scanned : ∀ setting ∈ found, setting.IsScanned)
    (inside : ∀ placed ∈ word, placed.isSeparator = false) :
    ∃ all : List Setting, settingToken word ++ found.map Setting.token = all.map Setting.token ∧
      WordsLaidOut (all.map Setting.word) (word ++ after) ∧
      ∀ setting ∈ all, setting.IsScanned := by
  cases word with
  | nil => exact ⟨found, rfl, laidOut, scanned⟩
  | cons first rest =>
      have spelled := spells_cons first rest
      have token := settingToken_of_spells spelled
      refine ⟨⟨textOf (first :: rest), first.offset⟩ :: found, ?_, ?_, ?_⟩
      · rw [token]
        rfl
      · exact laidOut.cons_word (List.cons_ne_nil first rest) ends
      · rw [List.forall_mem_cons]
        refine ⟨⟨?_, spelled.forall_iff.mpr inside⟩, scanned⟩
        simp [textOf]

theorem laidOut_settings_pending (word letters : List Placed)
    (inside : ∀ placed ∈ word, placed.isSeparator = false) :
    ∃ found : List Setting, settings word letters = found.map Setting.token ∧
      WordsLaidOut (found.map Setting.word) (word ++ letters) ∧
      ∀ setting ∈ found, setting.IsScanned := by
  induction letters generalizing word with
  | nil =>
      have nothing : WordsLaidOut (([] : List Setting).map Setting.word) [] :=
        .none [] (by simp [IsGap])
      have all := laidOut_settingToken nothing (by simp [EndsWord]) (by simp) inside
      simpa [settings] using all
  | cons placed letters ih =>
      rw [settings]
      cases separator : placed.isSeparator with
      | true =>
          obtain ⟨found, tokens, laidOut, scanned⟩ := ih [] (by simp)
          rw [if_pos rfl, tokens]
          apply laidOut_settingToken (laidOut.cons_separator separator) _ scanned inside
          simpa [EndsWord] using separator
      | false =>
          have insideNext : ∀ next ∈ word ++ [placed], next.isSeparator = false := by
            simpa [separator, or_imp, forall_and] using inside
          simpa using ih (word ++ [placed]) insideNext

/-- Whatever the letters are, the options found in them are laid out as words. -/
theorem laidOut_settings (letters : List Placed) :
    ∃ found : List Setting, settings [] letters = found.map Setting.token ∧
      WordsLaidOut (found.map Setting.word) letters ∧
      ∀ setting ∈ found, setting.IsScanned :=
  laidOut_settings_pending [] letters (by simp)

end Settings

end TrickLedger
