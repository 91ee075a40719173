import TrickLedger.Sheet.Streaming

/-!
# Feeding scanners

A scanner that is fed in place does the same to each character as a scanner that gives the
next one, as long as it holds nothing between words.  It keeps what it holds where a
character is refused.
-/

namespace TrickLedger

/-- The parts of a sheet between the words of its lines. -/
def Phase.isQuiet : Phase → Bool
  | .headerTail | .indent | .gap => true
  | _ => false

namespace Scanner

open Lines

/-! ### Single actions -/

namespace Streaming

variable {α β : Type} {scanner : Scanner}

@[simp]
theorem runOn_pure (value : α) : (pure value : Streaming α).runOn scanner = (.ok value, scanner) :=
  rfl

@[simp]
theorem runOn_throw (fault : SheetFault) :
    (throw fault : Streaming α).runOn scanner = (.error fault, scanner) :=
  rfl

@[simp]
theorem runOn_get : (get : Streaming Scanner).runOn scanner = (.ok scanner, scanner) :=
  rfl

@[simp]
theorem runOn_modify (change : Scanner → Scanner) :
    (modify change : Streaming PUnit).runOn scanner = (.ok ⟨⟩, change scanner) :=
  rfl

theorem runOn_bind (action : Streaming α) (next : α → Streaming β) :
    (action >>= next).runOn scanner = match action.runOn scanner with
      | (.ok value, after) => (next value).runOn after
      | (.error fault, after) => (.error fault, after) := by
  simp only [runOn, ExceptT.run_bind, StateT.run_bind]
  generalize StateT.run (ExceptT.run action) scanner = outcome
  obtain ⟨_ | _, after⟩ := outcome <;> rfl

@[simp]
theorem runOn_map (change : α → β) (action : Streaming α) :
    (change <$> action).runOn scanner =
      ((action.runOn scanner).1.map change, (action.runOn scanner).2) := by
  simp only [map_eq_pure_bind, runOn_bind]
  obtain ⟨_ | _, after⟩ := action.runOn scanner <;> rfl

@[simp]
theorem runOn_takePending :
    takePending.runOn scanner = (.ok scanner.pending, { scanner with pending := "" }) :=
  rfl

@[simp]
theorem runOn_push (phase : Phase) (letter : Char) (offset : Nat) :
    (Streaming.push phase letter offset).runOn scanner =
      (.ok (phase, none), { scanner.push phase letter offset with phase := scanner.phase }) := by
  rw [Streaming.push, runOn_bind, runOn_get]
  cases empty : scanner.pending.isEmpty <;> simp [runOn_bind, Scanner.push, empty, Except.map]

@[simp]
theorem runOn_player (offset : Nat) :
    (player offset).runOn scanner =
      (.ok (scanner.playerToken offset), { scanner with pending := "" }) := by
  simp [player, runOn_bind, playerToken, Except.map]

@[simp]
theorem runOn_play :
    play.runOn scanner = (.ok scanner.playToken, { scanner with pending := "" }) := by
  simp [play, runOn_bind, playToken, Except.map]

@[simp]
theorem runOn_place :
    place.runOn scanner = (.ok scanner.placeToken, { scanner with pending := "" }) := by
  simp [place, placeToken, Except.map]

@[simp]
theorem runOn_setting? :
    setting?.runOn scanner = (.ok scanner.settingToken?, { scanner with pending := "" }) := by
  obtain ⟨phase, pending, start⟩ := scanner
  rw [setting?, runOn_bind, runOn_get]
  cases empty : pending.isEmpty with
  | true =>
      cases String.isEmpty_iff.mp empty
      rfl
  | false => simp [runOn_bind, settingToken?, empty, Except.map]

end Streaming

/-! ### Steps -/

@[simp]
theorem isSeparator_lineFeed : isSeparator '\n' = false :=
  rfl

/-- What becomes of a character, and the scanner after it, if nothing changes with a fault. -/
def kept (scanner : Scanner) : Except SheetFault (Scanner × Option Token) →
    Except SheetFault (Option Token) × Scanner
  | .ok (next, token) => (.ok token, next)
  | .error fault => (.error fault, scanner)

theorem runOn_advance (scanner : Scanner) (letter : Char) (offset : Nat)
    (quiet : scanner.phase.isQuiet = true → scanner.pending = "") :
    (Streaming.advance letter offset).runOn scanner =
      scanner.kept (scanner.advance letter offset) := by
  obtain ⟨phase, pending, start⟩ := scanner
  rw [Streaming.advance, Streaming.runOn_bind, Streaming.transition, Streaming.runOn_bind,
    Streaming.runOn_get]
  cases phase with
  | date =>
      by_cases separator : isSeparator letter
      · by_cases empty : pending = "" <;>
          simp [separator, empty, advance, kept, Streaming.runOn_bind, enter, Except.map]
      · by_cases lineFeed : letter = '\n' <;>
          simp [separator, lineFeed, advance, kept, enter, push, Except.map]
  | place =>
      by_cases opening : letter = '{'
      · simp [opening, advance, kept, enter, Except.map]
      · by_cases lineFeed : letter = '\n' <;>
          simp [opening, lineFeed, advance, kept, enter, push, Except.map]
  | options =>
      by_cases closing : letter = '}'
      · simp [closing, advance, kept, enter, Except.map]
      · by_cases separator : isSeparator letter
        · simp [closing, separator, advance, kept, enter, Except.map]
        · by_cases lineFeed : letter = '\n' <;>
            simp [closing, separator, lineFeed, advance, kept, push, Except.map]
  | headerTail =>
      cases quiet rfl
      by_cases separator : isSeparator letter
      · simp [separator, advance, kept, Except.map]
      · by_cases lineFeed : letter = '\n' <;>
          simp [separator, lineFeed, advance, kept, enter, Except.map]
  | name =>
      by_cases separator : isSeparator letter
      · by_cases empty : pending = "" <;>
          simp [separator, empty, advance, kept, Streaming.runOn_bind, enter, Except.map]
      · by_cases lineFeed : letter = '\n'
        · by_cases empty : pending = "" <;>
            simp [lineFeed, empty, advance, kept, Streaming.runOn_bind, enter, Except.map]
        · simp [separator, lineFeed, advance, kept, push, Except.map]
  | indent =>
      cases quiet rfl
      by_cases separator : isSeparator letter
      · simp [separator, advance, kept, Except.map]
      · by_cases lineFeed : letter = '\n' <;>
          simp [separator, lineFeed, advance, kept, Streaming.runOn_bind, enter, push, Except.map]
  | gap =>
      cases quiet rfl
      by_cases separator : isSeparator letter
      · simp [separator, advance, kept, Except.map]
      · by_cases lineFeed : letter = '\n' <;>
          simp [separator, lineFeed, advance, kept, enter, push, Except.map]
  | play =>
      by_cases separator : isSeparator letter
      · simp [separator, advance, kept, enter, Except.map]
      · by_cases lineFeed : letter = '\n' <;>
          simp [separator, lineFeed, advance, kept, enter, push, Except.map]
  | comment =>
      by_cases closing : letter = '}'
      · simp [closing, advance, kept, push, Except.map]
      · by_cases lineFeed : letter = '\n' <;>
          simp [closing, lineFeed, advance, kept, enter, push, Except.map]
  | afterComment =>
      by_cases separator : isSeparator letter
      · simp [separator, advance, kept, enter, Except.map]
      · by_cases lineFeed : letter = '\n' <;>
          simp [separator, lineFeed, advance, kept, enter, Except.map]

/-- Where nothing is pending between words, a fed scanner does what a scanner does to a
character, and keeps what it holds where that refuses it. -/
theorem feed_eq_kept (scanner : Scanner) (placed : Placed)
    (quiet : scanner.phase.isQuiet = true → scanner.pending = "") :
    scanner.feed placed = scanner.kept (scanner.take placed.letter placed.offset) := by
  rw [feed, Streaming.step, take]
  split
  case isTrue => rfl
  case isFalse => exact runOn_advance scanner placed.letter placed.offset quiet

end Scanner

end TrickLedger
