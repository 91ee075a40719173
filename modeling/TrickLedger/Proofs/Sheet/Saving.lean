import TrickLedger.Proofs.Layout.Gathering
import TrickLedger.Sheet.Saving

/-!
# Reading saved texts

A scanner and everything behind it only hand offsets on.  So a text whose letters stand at
other places is read in the same way, with the offsets moved to those places.
-/

namespace TrickLedger

open Lines

variable {position : Nat → Nat}

/-! ### Outcomes -/

section Outcomes

variable {α β : Type} {move : α → α}

@[simp]
theorem movedOutcome_ok (value : α) :
    movedOutcome position move (.ok value) = .ok (move value) :=
  rfl

@[simp]
theorem movedOutcome_error (fault : SheetFault) :
    movedOutcome position move (.error fault) = .error (fault.moved position) :=
  rfl

theorem movedOutcome_bind {moveResult : β → β} {first : Except SheetFault α}
    {next movedNext : α → Except SheetFault β}
    (each : ∀ value, movedNext (move value) = movedOutcome position moveResult (next value)) :
    (movedOutcome position move first >>= movedNext) =
      movedOutcome position moveResult (first >>= next) := by
  cases first with
  | error fault => rfl
  | ok value => exact each value

end Outcomes

/-! ### Scanning -/

def Token.moved (position : Nat → Nat) : Token → Token
  | .date raw => .date raw
  | .place name => .place name
  | .setting text start => .setting text (position start)
  | .player name start => .player name (position start)
  | .play code start => .play code (position start)
  | .groupBreak => .groupBreak

def Lines.Placed.moved (position : Nat → Nat) (placed : Placed) : Placed :=
  { placed with offset := position placed.offset }

namespace Scanner

def moved (position : Nat → Nat) (scanner : Scanner) : Scanner :=
  { scanner with start := position scanner.start }

variable (scanner : Scanner) (phase : Phase) (letter : Char) (offset : Nat)

theorem push_moved :
    (scanner.moved position).push phase letter (position offset) =
      (scanner.push phase letter offset).moved position := by
  simp only [push, moved, apply_ite position]
  rfl

theorem settingToken?_moved :
    (scanner.moved position).settingToken? = scanner.settingToken?.map (Token.moved position) := by
  by_cases empty : scanner.pending.isEmpty <;> simp [settingToken?, moved, empty, Token.moved]

theorem playerToken_moved :
    (scanner.moved position).playerToken (position offset) =
      (scanner.playerToken offset).moved position := by
  simp only [playerToken, moved, Token.moved, apply_ite position]
  rfl

/-- What a scanner does next does not depend on offsets. -/
theorem advance_moved :
    (scanner.moved position).advance letter (position offset) =
      match scanner.advance letter offset with
      | .ok (next, token) => .ok (next.moved position, token.map (Token.moved position))
      | .error fault => .error (fault.moved position) := by
  have pending : (scanner.moved position).pending = scanner.pending := rfl
  have standing : (scanner.moved position).phase = scanner.phase := rfl
  simp only [advance, standing, pending]
  cases scanner.phase with
  | date =>
    simp only [push_moved]
    split_ifs <;> rfl
  | place =>
    simp only [push_moved]
    split_ifs <;> rfl
  | options =>
    simp only [push_moved, settingToken?_moved]
    split_ifs <;> rfl
  | headerTail => split_ifs <;> rfl
  | name =>
    simp only [push_moved, playerToken_moved]
    split_ifs <;> rfl
  | indent =>
    have player : (scanner.moved position).playerToken (position scanner.start) = _ :=
      scanner.playerToken_moved scanner.start
    have enter (next : Phase) :
        (scanner.moved position).enter next = (scanner.enter next).moved position := rfl
    have start : (scanner.moved position).start = position scanner.start := rfl
    simp only [start, player, enter, push_moved]
    split_ifs <;> rfl
  | gap =>
    simp only [push_moved]
    split_ifs <;> rfl
  | play =>
    simp only [push_moved]
    split_ifs <;> rfl
  | comment =>
    simp only [push_moved]
    split_ifs <;> rfl
  | afterComment => split_ifs <;> rfl

theorem close_moved :
    (scanner.moved position).close (position offset) =
      movedOutcome position (Option.map (Token.moved position)) (scanner.close offset) := by
  have pending : (scanner.moved position).pending = scanner.pending := rfl
  have standing : (scanner.moved position).phase = scanner.phase := rfl
  simp only [close, standing, pending, playerToken_moved]
  cases scanner.phase with
  | date | name =>
    rw [movedOutcome_ok, apply_ite (Option.map _)]
    rfl
  | place | options | headerTail | indent | gap | play | comment | afterComment => rfl

end Scanner

theorem followedBy_moved (first others : Except SheetFault (List Token)) :
    followedBy (movedOutcome position (List.map (Token.moved position)) first)
        (movedOutcome position (List.map (Token.moved position)) others) =
      movedOutcome position (List.map (Token.moved position)) (followedBy first others) := by
  cases first with
  | error fault => rfl
  | ok tokens =>
    cases others with
    | error fault => rfl
    | ok more => simp

/-- A run over moved letters finds the same tokens, moved likewise. -/
theorem Scanner.tokensOf_moved (scanner : Scanner) (textEnd : Nat) (letters : List Placed) :
    (scanner.moved position).tokensOf (position textEnd) (letters.map (Placed.moved position)) =
      movedOutcome position (List.map (Token.moved position))
        (scanner.tokensOf textEnd letters) := by
  induction letters generalizing scanner with
  | nil =>
    simp only [List.map_nil, tokensOf, close_moved]
    cases scanner.close textEnd with
    | error fault => rfl
    | ok token => cases token <;> rfl
  | cons placed letters ih =>
    simp only [List.map_cons, tokensOf, Placed.moved, advance_moved]
    cases scanner.advance placed.letter placed.offset with
    | error fault => rfl
    | ok result =>
      obtain ⟨next, token⟩ := result
      have first : (.ok (token.map (Token.moved position)).toList : Except SheetFault _) =
          movedOutcome position (List.map (Token.moved position)) (.ok token.toList) := by
        cases token <;> rfl
      simp only [ih, first, followedBy_moved]

/-- The tokens of a text whose letters stand at other places. -/
theorem Lines.tokens_moved {first second : String}
    (letters : placedLetters second.toList =
      (placedLetters first.toList).map (Placed.moved position))
    (textEnd : position first.length = second.length) :
    tokens second =
      movedOutcome position (List.map (Token.moved position)) (tokens first) := by
  -- What a new scanner has as its start does not matter, so it can be moved as well.
  have start : (Scanner.holding .date [] 0).moved position = .holding .date [] (position 0) := rfl
  have run : ((Scanner.holding .date [] 0).moved position).tokensOf (position first.length) _ = _ :=
    Scanner.tokensOf_moved _ first.length (placedLetters first.toList)
  rw [start, Scanner.tokensOf_lines, Scanner.tokensOf_lines, ← letters, textEnd] at run
  exact run

/-! ### Assembling -/

def Assembly.moved (position : Nat → Nat) (assembly : Assembly) : Assembly where
  sheet := assembly.sheet.moved position
  members := assembly.members.map (Member.moved position)
  plays := assembly.plays.map (WrittenPlay.moved position)

theorem Assembly.closeGroup_moved (assembly : Assembly) :
    (assembly.moved position).closeGroup = assembly.closeGroup.moved position := by
  obtain ⟨sheet, members, plays⟩ := assembly
  cases members <;> rfl

theorem Assembly.add_moved (token : Token) (assembly : Assembly) :
    (assembly.moved position).add (token.moved position) =
      (assembly.add token).moved position := by
  cases token with
  | date | place | setting | player | play => rfl
  | groupBreak => exact assembly.closeGroup_moved

theorem Sheet.ofTokens_moved (tokens : List Token) :
    ofTokens (tokens.map (Token.moved position)) = (ofTokens tokens).moved position := by
  have folded : (tokens.map (Token.moved position)).foldr Assembly.add {} =
      (tokens.foldr Assembly.add {}).moved position := by
    induction tokens with
    | nil => rfl
    | cons token tokens ih => rw [List.map_cons, List.foldr_cons, ih, Assembly.add_moved]; rfl
  rw [ofTokens, folded, Assembly.closeGroup_moved]
  rfl

/-! ### Options and checks -/

theorem ScoringRules.applySettings_moved (rules : ScoringRules) (settings : List Setting) :
    rules.applySettings (settings.map (Setting.moved position)) =
      movedOutcome position id (rules.applySettings settings) := by
  induction settings generalizing rules with
  | nil => rfl
  | cons setting settings ih =>
    simp only [List.map_cons, applySettings, Setting.moved]
    cases Setting.rulesAfter? rules setting.text with
    | none => rfl
    | some next => exact ih next

theorem nameFault?_moved (number : Nat) (earlier : List String) (members : List Member) :
    nameFault? number earlier (members.map (Member.moved position)) =
      (nameFault? number earlier members).map (SheetFault.moved position) := by
  induction members generalizing earlier with
  | nil => rfl
  | cons member members ih =>
    simp only [List.map_cons, nameFault?, Member.moved, ih]
    split_ifs <;> rfl

theorem WrittenPlay.span_moved (play : WrittenPlay) :
    (play.moved position).span = play.span.moved position := by
  simp [span, moved, Text.Span.moved, Text.Span.ofLength, Text.Span.length]

theorem Member.playFault?_moved (member : Member) (number : Nat) :
    (member.moved position).playFault? number =
      (member.playFault? number).map (SheetFault.moved position) := by
  simp only [playFault?, moved, List.zipIdx_map, List.findSome?_map, List.map_findSome?]
  congr 1
  funext numbered
  obtain ⟨play, index⟩ := numbered
  simp only [Function.comp_apply, Prod.map_apply, WrittenPlay.span_moved]
  simp only [WrittenPlay.moved]
  cases Play.ofCode play.code <;> rfl

theorem Group.fault?_moved {group : Group} (inhabited : group.members ≠ [])
    (rules : ScoringRules) (number : Nat) :
    (group.moved position).fault? rules number =
      (group.fault? rules number).map (SheetFault.moved position) := by
  obtain ⟨members⟩ := group
  have size : (Group.moved position ⟨members⟩).size = Group.size ⟨members⟩ := by
    simp [Group.size, moved]
  have start : (Group.moved position ⟨members⟩).start = position (Group.start ⟨members⟩) := by
    cases members with
    | nil => exact absurd rfl inhabited
    | cons member members => rfl
  have players : (Group.moved position ⟨members⟩).members =
      members.map (Member.moved position) := rfl
  simp only [fault?, size, start, players, nameFault?_moved]
  split_ifs
  · rfl
  · cases nameFault? number [] members with
    | some fault => rfl
    | none =>
      cases Table.make (Group.size ⟨members⟩) rules with
      | error cause => rfl
      | ok table =>
        simp only [Option.map_none, List.findSome?_map, List.map_findSome?]
        congr 1
        funext member
        exact member.playFault?_moved number

namespace Sheet

variable {sheet : Sheet}

/-- The first fault stays the first one, as no group is without a start. -/
theorem fault?_moved (inhabited : ∀ group ∈ sheet.groups, group.members ≠ []) :
    (sheet.moved position).fault? = sheet.fault?.map (SheetFault.moved position) := by
  have groups (number : Nat) :
      ((sheet.groups.map (Group.moved position)).zipIdx number).findSome?
          (fun numbered => numbered.1.fault? sheet.rules numbered.2) =
        ((sheet.groups.zipIdx number).findSome? fun numbered =>
          numbered.1.fault? sheet.rules numbered.2).map (SheetFault.moved position) := by
    generalize sheet.groups = groups at inhabited
    induction groups generalizing number with
    | nil => rfl
    | cons group groups ih =>
      rw [List.forall_mem_cons] at inhabited
      simp only [List.map_cons, List.zipIdx_cons, List.findSome?_cons,
        Group.fault?_moved inhabited.1]
      cases group.fault? sheet.rules number with
      | some fault => rfl
      | none => exact ih (number + 1) inhabited.2
  simp only [fault?, moved, groups]
  split_ifs <;> rfl

theorem check_moved (inhabited : ∀ group ∈ sheet.groups, group.members ≠ []) :
    (sheet.moved position).check = movedOutcome position id sheet.check := by
  rw [check, check, fault?_moved inhabited]
  cases sheet.fault? <;> rfl

/-- A text that is not blank is read in the same way where its letters stand at other places. -/
theorem ofText_moved {first second : String}
    (tokens : Lines.tokens second =
      movedOutcome position (List.map (Token.moved position)) (Lines.tokens first))
    (blank : isBlankText second = isBlankText first) :
    ofText second = movedOutcome position (moved position) (ofText first) := by
  rw [ofText, ofText, blank]
  split
  case isTrue => rfl
  case isFalse =>
    simp only [draftOf, Token.ofText, Scanner.run_text, tokens]
    cases scan : Lines.tokens first with
    | error fault => rfl
    | ok found =>
      have inhabited := (gathered_ofTokens scan).inhabited
      have settings : ((ofTokens found).moved position).settings =
          (ofTokens found).settings.map (Setting.moved position) := rfl
      simp only [movedOutcome_ok, ok_bind, ofTokens_moved, settings, ScoringRules.ofSettings,
        ScoringRules.applySettings_moved]
      apply movedOutcome_bind
      intro rules
      let sheet : Sheet := { ofTokens found with rules }
      have checked : (sheet.moved position).check = movedOutcome position id sheet.check :=
        check_moved inhabited
      change ((sheet.moved position).check >>= fun _ => .ok (sheet.moved position)) =
        movedOutcome position (moved position) (sheet.check >>= fun _ => .ok sheet)
      rw [checked]
      exact movedOutcome_bind fun _ => rfl

end Sheet

/-! ### Where the letters stand -/

section Kept

variable {text letters : List Char} {offset : Nat}

theorem withoutReturns_cons (letter : Char) (letters : List Char) :
    withoutReturns (letter :: letters) =
      if letter = '\r' then withoutReturns letters else letter :: withoutReturns letters := by
  rw [withoutReturns, List.filter_cons]
  split_ifs <;> simp_all [withoutReturns]

theorem getElem?_keptOffset (letters : List Char) (number : Nat) :
    letters[keptOffset letters number]? = (withoutReturns letters)[number]? := by
  induction letters generalizing number with
  | nil => rfl
  | cons letter letters ih =>
    rw [withoutReturns_cons]
    by_cases returned : letter = '\r'
    · simp only [keptOffset, if_pos returned, List.getElem?_cons_succ, ih]
    · cases number with
      | zero => simp [keptOffset, returned]
      | succ number => simp only [keptOffset, if_neg returned, List.getElem?_cons_succ, ih]

theorem keptOffset_length (letters : List Char) :
    keptOffset letters (withoutReturns letters).length = letters.length := by
  induction letters with
  | nil => rfl
  | cons letter letters ih =>
    rw [withoutReturns_cons]
    by_cases returned : letter = '\r'
    · simp only [keptOffset, if_pos returned, ih, List.length_cons]
    · simp only [keptOffset, if_neg returned, List.length_cons, ih]

theorem keptOffset_lt {first second : Nat} (order : first < second)
    (inside : second ≤ (withoutReturns letters).length) :
    keptOffset letters first < keptOffset letters second := by
  induction letters generalizing first second with
  | nil =>
    simp only [withoutReturns, List.filter_nil, List.length_nil] at inside
    omega
  | cons letter letters ih =>
    rw [withoutReturns_cons] at inside
    by_cases returned : letter = '\r'
    · rw [if_pos returned] at inside
      have later := ih order inside
      simp only [keptOffset, if_pos returned]
      omega
    · rw [if_neg returned, List.length_cons] at inside
      cases second with
      | zero => omega
      | succ second =>
        cases first with
        | zero => simp [keptOffset, returned]
        | succ first =>
          have later := ih (Nat.lt_of_succ_lt_succ order) (Nat.le_of_succ_le_succ inside)
          simp only [keptOffset, if_neg returned]
          omega

/-- The letters that count are those of the text, wherever carriage returns stand. -/
theorem placedFrom_kept {offset : Nat} {letters : List Char}
    (noMark : 0 < offset ∨ letters.head? ≠ some Scanner.byteOrderMark) :
    Scanner.placedFrom offset letters =
      (withoutReturns letters).zipIdx.map fun (letter, number) =>
        ⟨letter, offset + keptOffset letters number⟩ := by
  induction letters generalizing offset with
  | nil => rfl
  | cons letter letters ih =>
    rw [Scanner.placedFrom_cons, withoutReturns_cons]
    have rest := ih (.inl (by omega : 0 < offset + 1))
    by_cases returned : letter = '\r'
    · have ignored : Scanner.isIgnored letter offset = true := by simp [Scanner.isIgnored, returned]
      rw [if_pos ignored, if_pos returned, rest]
      simp only [keptOffset, if_pos returned, Nat.add_right_comm offset 1, Nat.add_assoc]
    · have counts : Scanner.isIgnored letter offset = false := by
        rcases noMark with behind | noMark
        · simp [Scanner.isIgnored, returned, behind.ne']
        · have other : letter ≠ Scanner.byteOrderMark := by simpa using noMark
          simp [Scanner.isIgnored, returned, other]
      rw [counts, if_neg Bool.false_ne_true, if_neg returned, rest, List.zipIdx_cons',
        List.map_cons, List.map_map]
      congr 1
      · simp [keptOffset, returned]
      · apply List.map_congr_left
        rintro ⟨other, number⟩ -
        simp only [Function.comp_apply, Prod.map_apply, id_eq, keptOffset, if_neg returned]
        congr 1
        omega

theorem placedLetters_eq {text : List Char} (noReturn : '\r' ∉ text)
    (noMark : text.head? ≠ some Scanner.byteOrderMark) :
    placedLetters text = text.zipIdx.map fun (letter, offset) => ⟨letter, offset⟩ := by
  rw [placedLetters, List.filter_eq_self]
  intro placed stands
  obtain ⟨⟨letter, offset⟩, indexed, rfl⟩ := List.mem_map.mp stands
  have found : text[offset]? = some letter := List.mem_zipIdx_iff_getElem?.mp indexed
  have notReturned : letter ≠ '\r' := by
    rintro rfl
    exact noReturn (List.mem_of_getElem? found)
  cases offset with
  | zero =>
    have other : letter ≠ Scanner.byteOrderMark := by
      rintro rfl
      exact noMark (by rwa [List.head?_eq_getElem?])
    simp [Scanner.isIgnored, notReturned, other]
  | succ offset => simp [Scanner.isIgnored, notReturned]

end Kept

namespace Saving

variable {text : List Char} (saving : Saving text)

include saving in
theorem not_mem_return : '\r' ∉ text := by
  rw [← saving.kept, withoutReturns]
  intro returned
  simpa using (List.mem_filter.mp returned).2

theorem getElem?_position (offset : Nat) :
    saving.result[saving.position offset]? = text[offset]? := by
  rw [result, position, List.getElem?_append_right (Nat.le_add_right _ _), Nat.add_sub_cancel_left,
    getElem?_keptOffset, saving.kept]

theorem position_length : saving.position text.length = saving.result.length := by
  have kept := keptOffset_length saving.letters
  rw [saving.kept] at kept
  rw [position, kept, result, List.length_append]

theorem position_lt {first second : Nat} (order : first < second) (inside : second ≤ text.length) :
    saving.position first < saving.position second := by
  have inLetters : second ≤ (withoutReturns saving.letters).length := by rwa [saving.kept]
  exact Nat.add_lt_add_left (keptOffset_lt order inLetters) _

section Unmarked

variable (unmarked : text.head? ≠ some Scanner.byteOrderMark)

include unmarked

theorem head?_letters : saving.letters.head? ≠ some Scanner.byteOrderMark := by
  intro marked
  obtain ⟨others, whole⟩ := List.head?_eq_some_iff.mp marked
  have kept := saving.kept
  rw [whole, withoutReturns_cons, if_neg (by decide)] at kept
  exact unmarked (by rw [← kept]; rfl)

theorem placedLetters_result :
    placedLetters saving.result = (placedLetters text).map (Placed.moved saving.position) := by
  have letters : Scanner.placedFrom saving.mark.length saving.letters = _ :=
    placedFrom_kept (.inr (saving.head?_letters unmarked))
  rw [placedLetters_eq saving.not_mem_return unmarked, List.map_map]
  rw [saving.kept] at letters
  refine Eq.trans ?_ letters
  rw [result]
  -- The byte order mark is ignored, as it stands at the start.
  rcases saving.marks with marked | marked <;> rw [marked]
  · rfl
  · exact Scanner.placedFrom_cons 0 _ _

/-- Carriage returns are blank, and byte order marks at the start do not count. -/
theorem isBlankText_result :
    Sheet.isBlankText (String.ofList saving.result) = Sheet.isBlankText (String.ofList text) := by
  have behindMark {letters : List Char} (other : letters.head? ≠ some Scanner.byteOrderMark) :
      ∀ letter ∈ letters.head?, (letter == Scanner.byteOrderMark) = false := by
    rintro letter ahead
    rw [beq_eq_false_iff_ne]
    rintro rfl
    exact other ahead
  have marks : ∀ letter ∈ saving.mark, (letter == Scanner.byteOrderMark) = true := by
    rcases saving.marks with marked | marked <;> simp [marked]
  have all : (withoutReturns saving.letters).all Text.isBlank =
      saving.letters.all Text.isBlank := by
    rw [withoutReturns, List.all_filter]
    congr 1
    funext letter
    by_cases returned : letter = '\r'
    · simp [returned, Text.isBlank]
    · simp [returned]
  rw [saving.kept] at all
  rw [Sheet.isBlankText, Sheet.isBlankText, String.toList_ofList, String.toList_ofList, result,
    Text.dropWhile_run marks (behindMark (saving.head?_letters unmarked)),
    Text.dropWhile_eq_self (behindMark unmarked), ← all]

end Unmarked

end Saving

/-- Carriage returns and a byte order mark do not change what a text means: the saved text is
read as the same sheet or refused with the same fault, and every offset is that of the same
letter, or of the end, in the saved text. -/
theorem Sheet.ofText_saving (text : String) (saving : Saving text.toList)
    (unmarked : text.toList.head? ≠ some Scanner.byteOrderMark) :
    ofText (String.ofList saving.result) =
        movedOutcome saving.position (moved saving.position) (ofText text) ∧
      (∀ offset, saving.result[saving.position offset]? = text.toList[offset]?) ∧
      (∀ first second, first < second → second ≤ text.length →
        saving.position first < saving.position second) ∧
      saving.position text.length = saving.result.length := by
  rw [← String.length_toList]
  refine ⟨?_, saving.getElem?_position, fun _ _ => saving.position_lt, saving.position_length⟩
  have blank := saving.isBlankText_result unmarked
  rw [String.ofList_toList] at blank
  refine ofText_moved (Lines.tokens_moved ?_ ?_) blank
  · rw [String.toList_ofList]
    exact saving.placedLetters_result unmarked
  · rw [← String.length_toList, saving.position_length, ← String.length_toList,
      String.toList_ofList]

/-- A play in the better suit that has none. -/
def refusedSuit : String :=
  "2024-03-04 P \x7bhundred=add\x7d\nA e +c*\nB\nC\n"

/-- The text behind a byte order mark, with carriage returns at the ends of lines, in an option
and in a play. -/
def returnedSuit : Saving refusedSuit.toList where
  mark := [Scanner.byteOrderMark]
  letters := "2024-03-04 P \x7bhun\rdred=add\x7d\r\nA e +c\r*\r\nB\r\nC\r\n".toList
  marks := .inr rfl
  kept := by decide

theorem Sheet.ofText_saving_returnedSuit :
    ofText refusedSuit = .error (.invalidPlay 1 "A" 2 ⟨31, 34⟩ .betterSuitNotAllowed) ∧
      ofText (String.ofList returnedSuit.result) =
        .error (.invalidPlay 1 "A" 2 ⟨34, 37⟩ .betterSuitNotAllowed) := by
  have refused : ofText refusedSuit =
      .error (.invalidPlay 1 "A" 2 ⟨31, 34⟩ .betterSuitNotAllowed) := by
    rfl
  obtain ⟨moved, -⟩ := ofText_saving refusedSuit returnedSuit (by decide)
  rw [refused] at moved
  exact ⟨refused, moved⟩

end TrickLedger
