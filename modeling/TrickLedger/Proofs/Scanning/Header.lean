import TrickLedger.Proofs.Scanning.Runs

/-!
# Scanning the first line

At the start of a text the scanner follows the first line from part to part: the date,
the place, the options and what stands after them.  In each part it takes a run of
letters whole and then the letter that ends the part.
-/

namespace TrickLedger.Scanner

open Lines

variable {textEnd stale : Nat} {lineFeed : Option Nat} {phase : Phase} {placed : Placed}
  {pending letters ending others : List Placed} {more : Except SheetFault (List Token)}

theorem skips_date (separator : placed.isSeparator = true) :
    (holding .date [] stale).Skips placed := by
  simp [Skips, advance, separator]

theorem skips_headerTail (separator : placed.isSeparator = true) :
    (holding .headerTail [] stale).Skips placed := by
  simp [Skips, advance, separator]

theorem pushes_date (word : placed.isSeparator = false) (unbroken : placed.letter ≠ '\n') :
    Pushes .date .date placed := by
  intro scanner standing
  simp [advance, standing, word, unbroken]

theorem pushes_place (outside : placed.letter ≠ '{') (unbroken : placed.letter ≠ '\n') :
    Pushes .place .place placed := by
  intro scanner standing
  simp [advance, standing, outside, unbroken]

theorem pushes_options (inside : placed.letter ≠ '}') (word : placed.isSeparator = false)
    (unbroken : placed.letter ≠ '\n') : Pushes .options .options placed := by
  intro scanner standing
  simp [advance, standing, inside, word, unbroken]

theorem settingToken?_holding (word : List Placed) :
    (holding phase word stale).settingToken?.toList = settingToken word := by
  cases word with
  | nil => rfl
  | cons first rest => simp [settingToken?, textOf_isEmpty, settingToken, startOf]

theorem tokensOf_headerTail (ends : Ending textEnd lineFeed ending more)
    (unbroken : Unbroken letters) :
    (holding .headerTail [] stale).tokensOf textEnd (letters ++ ending) =
      match letters.dropWhile Placed.isSeparator with
      | [] => more
      | found :: _ => .error (.unexpectedHeaderTail found.letter found.offset) := by
  rw [tokensOf_skip fun _ => skips_headerTail]
  cases rest : letters.dropWhile Placed.isSeparator with
  | nil =>
      cases ends with
      | text => rfl
      | lineFeed offset others more next =>
          have step : (holding .headerTail [] stale).advance '\n' offset =
              .ok (holding .name [] stale, none) := rfl
          rw [List.nil_append, tokensOf_step step, next]
          exact nil_followedBy more
  | cons found others =>
      have word : found.isSeparator = false := by
        simpa [rest] using List.head?_dropWhile_not Placed.isSeparator letters
      have unbrokenRest := unbroken.dropWhile Placed.isSeparator
      rw [rest, unbroken_cons_iff] at unbrokenRest
      simp [tokensOf, advance, word, unbrokenRest.1]

theorem tokensOf_options_separator (separator : placed.isSeparator = true)
    (inside : placed.letter ≠ '}') (word others : List Placed) :
    (holding .options word stale).tokensOf textEnd (placed :: others) =
      followedBy (.ok (settingToken word))
        ((holding .options [] (startOf word stale)).tokensOf textEnd others) := by
  have step : (holding .options word stale).advance placed.letter placed.offset =
      .ok (holding .options [] (startOf word stale),
        (holding .options word stale).settingToken?) := by
    simp [advance, separator, inside, holding_enter]
  rw [tokensOf_step step, settingToken?_holding]

/-- Without a closing brace the options go on to the end of the line. -/
theorem tokensOf_options_unclosed (ends : Ending textEnd lineFeed ending more)
    (unbroken : Unbroken letters) (unclosed : ∀ placed ∈ letters, placed.letter ≠ '}')
    (word : List Placed) :
    (holding .options word stale).tokensOf textEnd (letters ++ ending) =
      .error (.unterminatedOptions (lineFeed.getD textEnd)) := by
  induction letters generalizing word stale with
  | nil => cases ends <;> rfl
  | cons placed letters ih =>
      rw [unbroken_cons_iff] at unbroken
      rw [List.forall_mem_cons] at unclosed
      cases separator : placed.isSeparator with
      | true =>
          rw [List.cons_append, tokensOf_options_separator separator unclosed.1,
            ih unbroken.2 unclosed.2, ok_followedBy_error]
      | false =>
          rw [List.cons_append, tokensOf_push (pushes_options unclosed.1 separator unbroken.1),
            ih unbroken.2 unclosed.2]

/-- The scanner finds the options that stand before the closing brace. -/
theorem tokensOf_options_closed (unbroken : Unbroken letters)
    (inside : ∀ placed ∈ letters, placed.letter ≠ '}') (closing : placed.letter = '}')
    {result : Except SheetFault (List Token)}
    (tail : ∀ stale, (holding .headerTail [] stale).tokensOf textEnd others = result)
    (word : List Placed) :
    (holding .options word stale).tokensOf textEnd (letters ++ placed :: others) =
      followedBy (.ok (settings word letters)) result := by
  induction letters generalizing word stale with
  | nil =>
      have step : (holding .options word stale).advance placed.letter placed.offset =
          .ok (holding .headerTail [] (startOf word stale),
            (holding .options word stale).settingToken?) := by
        simp [advance, closing, holding_enter]
      rw [List.nil_append, tokensOf_step step, settingToken?_holding, tail, settings]
  | cons first letters ih =>
      rw [unbroken_cons_iff] at unbroken
      rw [List.forall_mem_cons] at inside
      rw [List.cons_append, settings]
      cases separator : first.isSeparator with
      | true =>
          rw [tokensOf_options_separator separator inside.1, ih unbroken.2 inside.2,
            ← followedBy_assoc, ok_followedBy_ok, if_pos rfl]
      | false =>
          rw [tokensOf_push (pushes_options inside.1 separator unbroken.1),
            ih unbroken.2 inside.2]
          rfl

/-- After the brace that opens the options the scanner finds them and the end of the
line. -/
theorem tokensOf_options (ends : Ending textEnd lineFeed ending more)
    (unbroken : Unbroken letters) :
    (holding .options [] stale).tokensOf textEnd (letters ++ ending) =
      followedBy (optionTokens letters (lineFeed.getD textEnd)) more := by
  have inside : ∀ placed ∈ letters.takeWhile (·.letter ≠ '}'), placed.letter ≠ '}' :=
    fun placed => letter_ne_of_mem_takeWhile
  have parts := List.takeWhile_append_dropWhile (p := (·.letter ≠ '}')) (l := letters)
  unfold optionTokens
  generalize letters.takeWhile (·.letter ≠ '}') = options at *
  split
  case h_1 unclosed =>
    rw [unclosed, List.append_nil] at parts
    subst parts
    exact tokensOf_options_unclosed ends unbroken inside []
  case h_2 closing tail closed =>
    rw [closed] at parts
    subst parts
    simp only [unbroken_append_iff, unbroken_cons_iff] at unbroken
    rw [List.append_assoc, List.cons_append, tokensOf_options_closed unbroken.1 inside
      (letter_eq_of_dropWhile closed) fun stale => tokensOf_headerTail ends unbroken.2.2]
    cases tail.dropWhile Placed.isSeparator <;> rfl

theorem placeToken_holding (place : List Placed) :
    (holding phase place stale).placeToken =
      .place (String.ofList (Text.trim (place.map Placed.letter))) := by
  simp [placeToken, textOf]

theorem tokensOf_place_ending (ends : Ending textEnd lineFeed ending more)
    (place : List Placed) :
    (holding .place place stale).tokensOf textEnd ending =
      followedBy (.ok [(holding .place place stale).placeToken]) more := by
  cases ends with
  | text => rfl
  | lineFeed offset others more next =>
      have step : (holding .place place stale).advance '\n' offset =
          .ok (holding .name [] (startOf place stale),
            some (holding .place place stale).placeToken) := rfl
      rw [tokensOf_step step, next]
      rfl

theorem tokensOf_place_opening (opening : placed.letter = '{') (place others : List Placed) :
    (holding .place place stale).tokensOf textEnd (placed :: others) =
      followedBy (.ok [(holding .place place stale).placeToken])
        ((holding .options [] (startOf place stale)).tokensOf textEnd others) := by
  have step : (holding .place place stale).advance placed.letter placed.offset =
      .ok (holding .options [] (startOf place stale),
        some (holding .place place stale).placeToken) := by
    simp [advance, opening, holding_enter]
  rw [tokensOf_step step]
  rfl

/-- After the separator behind the date the scanner finds the place and the options. -/
theorem tokensOf_place (ends : Ending textEnd lineFeed ending more) (unbroken : Unbroken letters) :
    (holding .place [] stale).tokensOf textEnd (letters ++ ending) =
      followedBy (placeTokens letters (lineFeed.getD textEnd)) more := by
  have pushes : ∀ placed ∈ letters, decide (placed.letter ≠ '{') = true →
      Pushes .place .place placed :=
    fun placed member outside => pushes_place (by simpa using outside) (unbroken placed member)
  rw [tokensOf_collect _ pushes, List.nil_append, placeTokens]
  cases rest : letters.dropWhile (·.letter ≠ '{') with
  | nil => rw [List.nil_append, tokensOf_place_ending ends, placeToken_holding]
  | cons mark options =>
      have unbrokenRest := unbroken.dropWhile (·.letter ≠ '{')
      rw [rest, unbroken_cons_iff] at unbrokenRest
      rw [List.cons_append, tokensOf_place_opening (letter_eq_of_dropWhile rest),
        tokensOf_options ends unbrokenRest.2, placeToken_holding, followedBy_assoc]

theorem tokensOf_date_ending (ends : Ending textEnd lineFeed ending more) (date : List Placed) :
    (holding .date date stale).tokensOf textEnd ending =
      followedBy (.ok (if date.isEmpty ∧ lineFeed.isNone then [] else [.date (textOf date)]))
        more := by
  cases ends with
  | text => cases date <;> simp [tokensOf, close, textOf_isEmpty, Except.map]
  | lineFeed offset others more next =>
      have step : (holding .date date stale).advance '\n' offset =
          .ok (holding .name [] (startOf date stale), some (.date (textOf date))) := rfl
      rw [tokensOf_step step, next]
      simp

theorem tokensOf_date_separator (separator : placed.isSeparator = true) {date : List Placed}
    (nonempty : date ≠ []) (others : List Placed) :
    (holding .date date stale).tokensOf textEnd (placed :: others) =
      followedBy (.ok [.date (textOf date)])
        ((holding .place [] (startOf date stale)).tokensOf textEnd others) := by
  have step : (holding .date date stale).advance placed.letter placed.offset =
      .ok (holding .place [] (startOf date stale), some (.date (textOf date))) := by
    simp [advance, separator, textOf_isEmpty, nonempty, holding_enter]
  rw [tokensOf_step step]
  rfl

/-- The scanner finds the tokens of the first line. -/
theorem tokensOf_header (ends : Ending textEnd lineFeed ending more)
    (unbroken : Unbroken letters) :
    (holding .date [] stale).tokensOf textEnd (letters ++ ending) =
      followedBy (headerTokens ⟨letters, lineFeed⟩ textEnd) more := by
  have unbrokenWords := unbroken.dropWhile Placed.isSeparator
  have stops := List.head?_dropWhile_not Placed.isSeparator letters
  rw [tokensOf_skip fun _ => skips_date, headerTokens]
  simp only
  generalize letters.dropWhile Placed.isSeparator = words at *
  have pushes : ∀ placed ∈ words, (!placed.isSeparator) = true → Pushes .date .date placed :=
    fun placed member inside => pushes_date (by simpa using inside) (unbrokenWords placed member)
  rw [tokensOf_collect _ pushes, List.nil_append]
  cases rest : words.dropWhile (!·.isSeparator) with
  | nil => rw [List.nil_append, tokensOf_date_ending ends]
  | cons separator others =>
      have unbrokenRest := unbrokenWords.dropWhile (!·.isSeparator)
      have isSeparator := List.head?_dropWhile_not (!·.isSeparator) words
      rw [rest] at unbrokenRest isSeparator
      have nonempty : words.takeWhile (!·.isSeparator) ≠ [] := by
        cases words with
        | nil => cases rest
        | cons first words =>
            have word : first.isSeparator = false := stops
            simp [word]
      rw [List.cons_append, tokensOf_date_separator (by simpa using isSeparator) nonempty,
        tokensOf_place ends (unbroken_cons_iff.mp unbrokenRest).2, followedBy_assoc]

end TrickLedger.Scanner
