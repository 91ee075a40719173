import TrickLedger.Proofs.Layout.Words
import TrickLedger.Proofs.Play.Shape
import TrickLedger.Proofs.Scanning.Plays
import TrickLedger.Sheet.WellFormed

/-!
# Plays on a line

A code that ends where its word ends is found whole by whoever reads the plays of a
line.  Among the codes that are read as plays these are the codes of well-formed plays,
and no others can be found on a line.
-/

namespace TrickLedger

open Lines

variable {letters others gap word after : List Placed} {placed : Placed}
  {plays : List WrittenPlay} {play : WrittenPlay} {code : List Char}

/-- The letter can stand in a code outside its comment. -/
def OutsideComment (letter : Char) : Prop :=
  Scanner.isSeparator letter = false ∧ letter ≠ '{'

theorem isPlain_iff : placed.isPlain = true ↔ OutsideComment placed.letter := by
  simp [Placed.isPlain, OutsideComment]

/-- A code that ends where its word ends: it has no comment, or one that its last
letter closes. -/
inductive ClosedCode : List Char → Prop
  | plain (body : List Char) (outside : ∀ letter ∈ body, OutsideComment letter) :
      ClosedCode body
  | commented (body comment : List Char) (outside : ∀ letter ∈ body, OutsideComment letter)
      (inside : '}' ∉ comment) : ClosedCode (body ++ '{' :: comment ++ ['}'])

/-- A code with a comment that goes on to the end of the line. -/
inductive OpenCode : List Char → Prop
  | unclosed (body comment : List Char) (outside : ∀ letter ∈ body, OutsideComment letter)
      (inside : '}' ∉ comment) : OpenCode (body ++ '{' :: comment)

namespace ClosedCode

theorem not_mem_opening {body : List Char} (outside : ∀ letter ∈ body, OutsideComment letter) :
    '{' ∉ body :=
  fun member => (outside '{' member).2 rfl

theorem cutComment_of_outside {body : List Char} (noOpening : '{' ∉ body) :
    Play.cutComment body = (body, none) := by
  cases cut : Play.cutComment body with
  | mk rest comment =>
      cases comment with
      | none => rw [Play.cutComment_of_none cut]
      | some comment =>
          obtain ⟨rfl, -, -⟩ := Play.eq_append_of_cutComment cut
          exact absurd (by simp) noOpening

/-- Separators stand in the comment of a closed code only. -/
theorem noSeparator (closed : ClosedCode code) :
    ∀ letter ∈ (Play.cutComment code).1, Scanner.isSeparator letter = false := by
  cases closed with
  | plain body outside =>
      rw [cutComment_of_outside (not_mem_opening outside)]
      exact fun letter member => (outside letter member).1
  | commented body comment outside inside =>
      have noneOpen := Play.noneOpen_of_not_mem (not_mem_opening outside)
      rw [Play.cutComment_append inside noneOpen]
      exact fun letter member => (outside letter member).1

theorem getLast?_eq (closed : ClosedCode code) (opening : '{' ∈ code) :
    code.getLast? = some '}' := by
  cases closed with
  | plain body outside => exact absurd opening (not_mem_opening outside)
  | commented body comment outside inside => exact List.getLast?_concat

end ClosedCode

theorem isBlank_opening : Text.isBlank '{' = false := by
  decide

theorem isBlank_closing : Text.isBlank '}' = false := by
  decide

/-- A code that is read has no opening brace, or a comment after the first one. -/
theorem Play.opening_of_ofCode {code : String} {play : Play} (read : Play.ofCode code = .ok play) :
    '{' ∉ code.toList ∨ ∃ body comment trail : List Char,
      code.toList = body ++ '{' :: (comment ++ '}' :: trail) ∧ '{' ∉ body ∧ '}' ∉ comment ∧
        ∀ letter ∈ trail, Text.isBlank letter = true := by
  obtain ⟨lead, body, trail, whole, leadBlank, trailBlank, plain, -, noClosing⟩ :=
    Play.shape_of_ofCode read
  have noOpening : '{' ∉ lead ++ body := by
    intro member
    rcases List.mem_append.mp member with inLead | inBody
    · simpa [isBlank_opening] using leadBlank _ inLead
    · exact (plain _ inBody).2.1 rfl
  cases comment : play.comment with
  | none =>
      refine .inl fun member => ?_
      rw [whole, comment, Play.commentLetters, List.append_nil, List.mem_append] at member
      rcases member with inBody | inTrail
      · exact noOpening inBody
      · simpa [isBlank_opening] using trailBlank _ inTrail
  | some comment' =>
      refine .inr ⟨lead ++ body, comment'.toList, trail, ?_, noOpening, noClosing _ comment,
        trailBlank⟩
      rw [whole, comment]
      simp [Play.commentLetters]

/-- The code of a well-formed play ends where its word ends. -/
theorem WrittenPlay.WellFormed.closedCode (wellFormed : play.WellFormed) :
    ClosedCode play.code.toList := by
  obtain ⟨result, read⟩ := wellFormed.read
  have word := wellFormed.word
  rcases Play.opening_of_ofCode read with
    noOpening | ⟨body, comment, trail, whole, noOpening, noClosing, trailBlank⟩
  · rw [ClosedCode.cutComment_of_outside noOpening] at word
    exact .plain _ fun letter member =>
      ⟨word letter member, fun opening => noOpening (opening ▸ member)⟩
  · have last := wellFormed.closed (by simp [whole])
    have noTrail : trail = [] := by
      rcases List.eq_nil_or_concat trail with none | ⟨init, letter, rfl⟩
      · exact none
      · have blank := trailBlank letter (by simp)
        have ends : play.code.toList = body ++ '{' :: (comment ++ '}' :: init) ++ [letter] := by
          simp [whole]
        rw [ends, List.getLast?_concat, Option.some.injEq] at last
        rw [last, isBlank_closing] at blank
        contradiction
    subst noTrail
    have parts : play.code.toList = body ++ '{' :: comment ++ ['}'] := by simp [whole]
    rw [parts, Play.cutComment_append noClosing (Play.noneOpen_of_not_mem noOpening)] at word
    rw [parts]
    exact .commented body comment (fun letter member =>
      ⟨word letter member, fun opening => noOpening (opening ▸ member)⟩) noClosing

/-- No code with an unclosed comment is read. -/
theorem OpenCode.not_read {code : String} (isOpen : OpenCode code.toList) {result : Play} :
    Play.ofCode code ≠ .ok result := by
  intro read
  generalize letters : code.toList = list at isOpen
  cases isOpen with
  | unclosed body comment outside inside =>
      rcases Play.opening_of_ofCode read with
        noOpening | ⟨body', comment', trail, whole, noOpening, -⟩
      · exact noOpening (by simp [letters])
      · have first : (body ++ '{' :: comment).dropWhile (· ≠ '{') = '{' :: comment :=
          Text.dropWhile_ne_append (ClosedCode.not_mem_opening outside)
        have second : (body' ++ '{' :: (comment' ++ '}' :: trail)).dropWhile (· ≠ '{') =
            '{' :: (comment' ++ '}' :: trail) := Text.dropWhile_ne_append noOpening
        rw [← letters, whole, second] at first
        obtain rfl := (List.cons.inj first).2
        exact inside (by simp)

/-! ### Plays as words -/

/-- The token of a play. -/
def WrittenPlay.token (play : WrittenPlay) : Token :=
  .play play.code play.start

theorem playTokens_of_start {first : Placed}
    (start : letters.dropWhile Placed.isSeparator = first :: others) :
    playTokens letters =
      match (cutPlay (first :: others)).2 with
      | [] => .ok [playToken (first :: others)]
      | next :: after =>
          if next.isSeparator then
            followedBy (.ok [playToken (first :: others)]) (playTokens after)
          else .error (.unexpectedAfterComment next.letter next.offset) := by
  rw [playTokens]
  split
  case h_1 none => simp [start] at none
  case h_2 first' others' start' =>
    rw [start] at start'
    cases start'
    split
    case h_1 none => rw [none]
    case h_2 next after rest => rw [rest]

theorem playTokens_of_gap (separators : IsGap gap) : playTokens gap = .ok [] := by
  have none : gap.dropWhile Placed.isSeparator = [] := List.dropWhile_eq_nil_iff.mpr separators
  rw [playTokens]
  split
  case h_1 => rfl
  case h_2 start => simp [none] at start

theorem cutPlay_plain (plain : ∀ placed ∈ word, placed.isPlain = true) (ends : EndsWord after) :
    cutPlay (word ++ after) = (word, after) := by
  unfold cutPlay
  rw [List.takeWhile_append_of_pos plain, List.dropWhile_append_of_pos plain]
  cases after with
  | nil => simp
  | cons next after =>
      have separator : next.isSeparator = true := ends next rfl
      have noOpening : next.letter ≠ '{' := by
        intro opening
        simp [Placed.isSeparator, opening, Scanner.isSeparator] at separator
      simp [Placed.isPlain, separator, noOpening]

theorem cutPlay_commented {body comment : List Placed} {mark closing : Placed}
    (plain : ∀ placed ∈ body, placed.isPlain = true) (opening : mark.letter = '{')
    (inside : ∀ placed ∈ comment, placed.letter ≠ '}') (closes : closing.letter = '}')
    (after : List Placed) :
    cutPlay (body ++ mark :: comment ++ [closing] ++ after) =
      (body ++ mark :: comment ++ [closing], after) := by
  have inside' : ∀ placed ∈ comment, decide (placed.letter ≠ '}') = true := by
    simpa using inside
  have letters : body ++ mark :: comment ++ [closing] ++ after =
      body ++ mark :: (comment ++ closing :: after) := by simp
  have stops : ¬mark.isPlain = true := by simp [Placed.isPlain, opening]
  unfold cutPlay
  rw [letters, List.takeWhile_append_of_pos plain, List.dropWhile_append_of_pos plain,
    List.takeWhile_cons_of_neg stops, List.dropWhile_cons_of_neg stops]
  simp only [opening, if_true]
  rw [List.takeWhile_append_of_pos inside', List.dropWhile_append_of_pos inside']
  simp [closes]

/-- A closed code is cut off where its word ends. -/
theorem cutPlay_of_closed (closed : ClosedCode (word.map Placed.letter)) (ends : EndsWord after) :
    cutPlay (word ++ after) = (word, after) := by
  generalize letters : word.map Placed.letter = code at closed
  cases closed with
  | plain body outside =>
      subst letters
      rw [List.forall_mem_map] at outside
      exact cutPlay_plain (fun placed member => isPlain_iff.mpr (outside placed member)) ends
  | commented body comment outside inside =>
      simp only [List.append_assoc, List.cons_append, List.map_eq_append_iff,
        List.map_eq_cons_iff, List.map_eq_nil_iff] at letters
      obtain ⟨bodyWord, _, rfl, rfl, mark, _, rfl, opening, commentWord, _, rfl, rfl, closing, _,
        rfl, closes, rfl⟩ := letters
      rw [List.forall_mem_map] at outside
      have noClosing : ∀ placed ∈ commentWord, placed.letter ≠ '}' :=
        fun placed member letter => inside (List.mem_map.mpr ⟨placed, member, letter⟩)
      have parts := cutPlay_commented
        (fun placed member => isPlain_iff.mpr (outside placed member)) opening noClosing closes
        after
      simpa using parts

theorem ClosedCode.isSeparator_head {first : Placed} {rest : List Placed}
    (closed : ClosedCode ((first :: rest).map Placed.letter)) : first.isSeparator = false := by
  generalize letters : (first :: rest).map Placed.letter = code at closed
  cases closed with
  | plain body outside => exact (outside first.letter (by simp [← letters])).1
  | commented body comment outside inside =>
      cases body with
      | nil =>
          have opening : first.letter = '{' := (List.cons.inj letters).1
          simp [Placed.isSeparator, opening, Scanner.isSeparator]
      | cons letter body =>
          obtain ⟨rfl, -⟩ := List.cons.inj letters
          exact (outside first.letter (.head body)).1

theorem playTokens_cons_separator (separator : placed.isSeparator = true) :
    playTokens (placed :: letters) = playTokens letters := by
  have skipped : (placed :: letters).dropWhile Placed.isSeparator =
      letters.dropWhile Placed.isSeparator := List.dropWhile_cons_of_pos separator
  cases start : letters.dropWhile Placed.isSeparator with
  | nil =>
      have gap : IsGap letters := List.dropWhile_eq_nil_iff.mp start
      rw [playTokens_of_gap gap, playTokens_of_gap (isGap_cons_iff.mpr ⟨separator, gap⟩)]
  | cons first others =>
      rw [playTokens_of_start start, playTokens_of_start (skipped.trans start)]

/-- A closed code at the start of a line's plays is the first of them. -/
theorem playTokens_word {text : String} {start : Nat} (separators : IsGap gap)
    (spelled : Spells word text start) (closed : ClosedCode text.toList) (ends : EndsWord after) :
    playTokens (gap ++ word ++ after) =
      followedBy (.ok [.play text start]) (playTokens after) := by
  obtain ⟨first, rest, rfl⟩ := List.exists_cons_of_ne_nil spelled.ne_nil
  rw [spelled.toList_eq] at closed
  have begins : (gap ++ (first :: rest) ++ after).dropWhile Placed.isSeparator =
      first :: (rest ++ after) := by
    rw [List.append_assoc, List.dropWhile_append_of_pos separators]
    exact List.dropWhile_cons_of_neg (by simp [closed.isSeparator_head])
  have cut := cutPlay_of_closed closed ends
  have token : playToken (first :: (rest ++ after)) = .play text start := by
    rw [playToken, ← List.cons_append, cut, spelled.text, List.cons_append, startOf,
      ← spelled.startOf_eq 0, startOf]
  rw [playTokens_of_start begins, token, ← List.cons_append, cut]
  cases after with
  | nil => rw [playTokens_nil, followedBy_nil]
  | cons next after =>
      have separator : next.isSeparator = true := ends next rfl
      simp only [separator, if_true, playTokens_cons_separator separator]

/-- Plays that are laid out as words with closed codes are found again. -/
theorem playTokens_of_laidOut
    (laidOut : WordsLaidOut (plays.map WrittenPlay.word) letters)
    (closed : ∀ play ∈ plays, ClosedCode play.code.toList) :
    playTokens letters = .ok (plays.map WrittenPlay.token) := by
  generalize entries : (plays.map WrittenPlay.word) = list at laidOut
  induction laidOut generalizing plays with
  | none gap separators =>
      rw [List.map_eq_nil_iff] at entries
      rw [playTokens_of_gap separators, entries]
      rfl
  | word gap word after text start list separators spelled ends more ih =>
      obtain ⟨play, plays, rfl, entry, rfl⟩ := List.map_eq_cons_iff.mp entries
      cases entry
      rw [List.forall_mem_cons] at closed
      rw [playTokens_word separators spelled closed.1 ends, ih closed.2 rfl]
      rfl

/-- The code of a play as it is found on a line. -/
def ScannedCode (code : List Char) : Prop :=
  ClosedCode code ∨ OpenCode code

theorem scannedCode_of_playCut {parts : List Placed × List Placed} (cut : PlayCut letters parts) :
    ScannedCode (parts.1.map Placed.letter) := by
  have outside {body : List Placed} (plain : ∀ placed ∈ body, placed.isPlain = true) :
      ∀ letter ∈ body.map Placed.letter, OutsideComment letter :=
    List.forall_mem_map.mpr fun placed member => isPlain_iff.mp (plain placed member)
  have noClosing {comment : List Placed} (inside : ∀ placed ∈ comment, placed.letter ≠ '}') :
      '}' ∉ comment.map Placed.letter := by
    simpa using inside
  cases cut with
  | ends body plain => exact .inl (.plain _ (outside plain))
  | separated body after next plain separator => exact .inl (.plain _ (outside plain))
  | closed body comment after mark closing plain opening inside closes =>
      have code := ClosedCode.commented _ _ (outside plain) (noClosing inside)
      exact .inl (by simpa [opening, closes] using code)
  | unclosed body comment mark plain opening inside =>
      have code := OpenCode.unclosed _ _ (outside plain) (noClosing inside)
      exact .inr (by simpa [opening] using code)

/-- The first play that is found stands as a word after separators. -/
theorem laidOut_first {first : Placed}
    (start : letters.dropWhile Placed.isSeparator = first :: others) :
    ∃ gap word, letters = gap ++ word ++ (cutPlay (first :: others)).2 ∧ IsGap gap ∧
      playToken (first :: others) = .play (textOf word) first.offset ∧
      Spells word (textOf word) first.offset ∧ ScannedCode (word.map Placed.letter) := by
  have word : first.isSeparator = false := by
    simpa [start] using List.head?_dropWhile_not Placed.isSeparator letters
  have shape := playCut_cutPlay (first :: others)
  refine ⟨letters.takeWhile Placed.isSeparator, (cutPlay (first :: others)).1, ?_,
    List.all_eq_true.mp List.all_takeWhile, rfl, ⟨rfl, ?_⟩, scannedCode_of_playCut shape⟩
  · rw [List.append_assoc, cutPlay_append, ← start, List.takeWhile_append_dropWhile]
  · rw [shape.head? rfl word]
    rfl

/-- Whatever the letters are, the plays found in them are laid out as words. -/
theorem laidOut_playTokens {tokens : List Token} (found : playTokens letters = .ok tokens) :
    ∃ plays : List WrittenPlay, tokens = plays.map WrittenPlay.token ∧
      WordsLaidOut (plays.map WrittenPlay.word) letters ∧
      ∀ play ∈ plays, ScannedCode play.code.toList := by
  fun_induction playTokens letters generalizing tokens with
  | case1 letters none =>
      cases found
      exact ⟨[], rfl, .none letters (List.dropWhile_eq_nil_iff.mp none), by simp⟩
  | case2 letters first others start rest =>
      obtain ⟨gap, word, whole, separators, token, spelled, scanned⟩ := laidOut_first start
      cases found
      refine ⟨[⟨textOf word, first.offset⟩], by rw [token]; rfl, ?_, ?_⟩
      · rw [whole, rest]
        exact .word gap word [] _ _ _ separators spelled (by simp [EndsWord])
          (.none [] (by simp [IsGap]))
      · simpa [toList_textOf] using scanned
  | case3 letters first others start next after rest separator ih =>
      obtain ⟨gap, word, whole, separators, token, spelled, scanned⟩ := laidOut_first start
      obtain ⟨_, more, played, restFound, rfl⟩ := followedBy_eq_ok_iff.mp found
      obtain ⟨plays, rfl, laidOut, restScanned⟩ := ih restFound
      cases played
      refine ⟨⟨textOf word, first.offset⟩ :: plays, by rw [token]; rfl, ?_, ?_⟩
      · rw [whole, rest]
        exact .word gap word _ _ _ _ separators spelled (by simpa [EndsWord] using separator)
          (laidOut.cons_separator separator)
      · rw [List.forall_mem_cons]
        exact ⟨by simpa [toList_textOf] using scanned, restScanned⟩
  | case4 letters first others start next after rest word => cases found

end TrickLedger
