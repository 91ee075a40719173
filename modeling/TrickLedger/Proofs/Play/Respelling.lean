import TrickLedger.Proofs.Play.Code
import TrickLedger.Proofs.Play.Comment
import TrickLedger.Proofs.Play.Numerals
import TrickLedger.Proofs.Play.Writing

/-!
# Writing what was read

The canonical code of a play that was read is the code it was read from, without the blanks
around it and with the numerals of its scores in canonical form.
-/

namespace TrickLedger.Play

open Grammar

/-- The pieces of a code without the blanks around it. -/
def pieces (code : String) : List Piece :=
  let (body, comment) := cutComment (Text.trim code.toList)
  bodyPieces body ++ (commentLetters (comment.map String.ofList)).map .single

/-- A body with the numerals of its scores in canonical form. -/
def canonicalBody (body : List Char) : List Char :=
  (bodyPieces body).flatMap Piece.canonicalLetters

/-! ### Openings -/

theorem Grammar.Parity.letters_eq {parity : List Char} {marks : Commitment}
    (rule : Parity parity marks) : parity = marks.parityLetters := by
  cases rule <;> rfl

theorem Grammar.Boost.letters_eq {boost : List Char} {count : Nat} (rule : Boost boost count) :
    boost = if 0 < count then Text.numeral count else [] := by
  cases rule with
  | none => rfl
  | digit count lower upper =>
      rcases boost_cases lower upper with rfl | rfl | rfl | rfl <;> rfl

/-- There is one way to write the marks of a commitment. -/
theorem Grammar.Opening.letters_eq {opening : List Char} {marks : Commitment}
    (rule : Opening opening marks) : opening = marks.openingLetters := by
  cases rule with
  | mk parity sign boost marks won count parityRule signRule boostRule =>
      rw [Commitment.openingLetters, ← boostRule.letters_eq, parityRule.letters_eq]
      cases signRule <;> rfl

theorem Grammar.BetterSuit.letters_eq {suit : List Char} {betterSuit : Bool}
    (rule : BetterSuit suit betterSuit) : suit = if betterSuit then ['*'] else [] := by
  cases rule <;> rfl

/-! ### Letters outside of scores -/

theorem Grammar.Opening.noScore {opening : List Char} {marks : Commitment}
    (rule : Opening opening marks) : NoScore opening := by
  cases rule with
  | mk parity sign boost marks won count parityRule signRule boostRule =>
      have parityOutside : NoScore parity := by cases parityRule <;> decide
      have signOutside : ¬OpensScore sign := by cases signRule <;> decide
      have boostOutside : NoScore boost := by
        cases boostRule with
        | none => decide
        | digit count lower upper =>
            rcases boost_cases lower upper with rfl | rfl | rfl | rfl <;> decide
      exact noScore_append_iff.mpr
        ⟨parityOutside, List.forall_mem_cons.mpr ⟨signOutside, boostOutside⟩⟩

theorem noScore_keyword {contract : Contract} (noScore : contract.hasScore = false) :
    NoScore contract.keyword := by
  cases contract <;> first | decide | cases noScore

theorem canonicalBody_nil : canonicalBody [] = [] := by
  simp [canonicalBody, bodyPieces]

theorem canonicalBody_append {text : List Char} (outside : NoScore text) (rest : List Char) :
    canonicalBody (text ++ rest) = text ++ canonicalBody rest := by
  rw [canonicalBody, bodyPieces_append outside, List.flatMap_append, ← canonicalBody,
    List.flatMap_map]
  simp [Piece.canonicalLetters]

section Commitment

variable {opening numeral rest : List Char} {marks : Commitment} {contract : Contract} {score : Int}

theorem canonicalBody_keyword (rule : Opening opening marks)
    (noScore : contract.hasScore = false) (rest : List Char) :
    canonicalBody (opening ++ contract.keyword ++ rest) =
      ({ marks with contract := some contract } : Commitment).openingLetters ++
        ({ marks with contract := some contract } : Commitment).contractLetters ++
          canonicalBody rest := by
  have outside := noScore_append_iff.mpr ⟨rule.noScore, noScore_keyword noScore⟩
  rw [canonicalBody_append outside, Commitment.contractLetters_keyword rfl noScore,
    rule.letters_eq]
  rfl

theorem canonicalBody_score (rule : Opening opening marks) (hasScore : contract.hasScore = true)
    (scoreRule : Score numeral score) (stops : NoDigitAhead rest) :
    canonicalBody (opening ++ contract.keyword ++ numeral ++ rest) =
      ({ marks with contract := some contract, score } : Commitment).openingLetters ++
        ({ marks with contract := some contract, score } : Commitment).contractLetters ++
          canonicalBody rest := by
  have single : ∃ letter, contract.keyword = [letter] := by
    cases contract <;> first | exact ⟨_, rfl⟩ | cases hasScore
  obtain ⟨letter, keyword⟩ := single
  have opens : OpensScore letter := ⟨contract, hasScore, keyword⟩
  obtain ⟨found, rfl, pieces⟩ := bodyPieces_score opens scoreRule stops
  have scored : canonicalBody (letter :: (numeral ++ rest)) =
      letter :: (Text.signedNumeral found.value ++ canonicalBody rest) := by
    rw [canonicalBody, pieces]
    simp [Piece.canonicalLetters, ScoreNumeral.canonicalLetters, canonicalBody]
  rw [Commitment.contractLetters_score rfl hasScore, keyword, List.append_assoc,
    List.append_assoc, List.singleton_append, canonicalBody_append rule.noScore, scored,
    rule.letters_eq]
  simp [Commitment.openingLetters, Commitment.parityLetters]

/-! ### Bodies -/

theorem canonicalBody_link {link : List Char} {linked : Commitment}
    (rule : Link contract link linked) (stops : NoDigitAhead rest) :
    canonicalBody (link ++ rest) = linked.linkLetters ++ canonicalBody rest := by
  cases rule with
  | gameAfterSeven opening marks openingRule | sevenAfterHundred opening marks openingRule =>
      rw [canonicalBody_keyword openingRule rfl, Commitment.linkLetters_named rfl]
  | hundredAfterSeven opening numeral marks score openingRule scoreRule
  | hundredAfterTwoSevens opening numeral marks score openingRule scoreRule =>
      rw [canonicalBody_score openingRule rfl scoreRule stops, Commitment.linkLetters_named rfl]
  | nothingAfterHundred | nothingAfterTwoSevens => rfl
  | silentSevenAfterHundred parity sign marks won parityRule signRule =>
      have openingRule := Opening.mk parity sign [] marks won 0 parityRule signRule .none
      have unboosted : marks.boost = 0 := by cases parityRule <;> rfl
      have noScore : Contract.silentSeven.hasScore = false := rfl
      have written := canonicalBody_keyword openingRule noScore rest
      rw [← unboosted] at written
      rw [Commitment.linkLetters_named rfl, ← written]
      simp

theorem canonicalBody_suit {suit : List Char} {betterSuit : Bool}
    (rule : BetterSuit suit betterSuit) : canonicalBody suit = suit := by
  cases rule with
  | marked =>
      have outside : NoScore ['*'] := by decide
      rw [← List.append_nil ['*'], canonicalBody_append outside, canonicalBody_nil]
  | unmarked => exact canonicalBody_nil

/-- The canonical form of a body of the grammar is what is written for its play. -/
theorem canonicalBody_of_body {body : List Char} {play : Play} (rule : Body body play) :
    canonicalBody body = play.bodyLetters := by
  cases rule with
  | fault contract isFault =>
      have outside : NoScore contract.keyword :=
        noScore_keyword (by cases contract <;> first | rfl | cases isFault)
      rw [← List.append_nil contract.keyword, canonicalBody_append outside, canonicalBody_nil,
        List.append_nil]
      exact (bodyLetters_fault rfl isFault).symm
  | single opening marks contract openingRule member =>
      obtain ⟨noScore, noFault⟩ := plain_of_single member
      rw [← List.append_nil (opening ++ contract.keyword),
        canonicalBody_keyword openingRule noScore, canonicalBody_nil,
        bodyLetters_commitments rfl noFault]
      simp [suitLetters, linkLetters_empty]
  | seven opening link suit marks linked betterSuit openingRule linkRule suitRule
  | twoSevens opening link suit marks linked betterSuit openingRule linkRule suitRule =>
      have stops := suitRule.noDigitAhead
      rw [List.append_assoc _ link, canonicalBody_keyword openingRule rfl,
        canonicalBody_link linkRule stops, canonicalBody_suit suitRule,
        bodyLetters_commitments rfl rfl, suitLetters, suitRule.letters_eq]
      simp
  | hundred opening numeral link suit marks linked score betterSuit openingRule scoreRule
      linkRule suitRule =>
      have stops := suitRule.noDigitAhead
      rw [List.append_assoc _ link,
        canonicalBody_score openingRule rfl scoreRule (linkRule.noDigitAhead suitRule),
        canonicalBody_link linkRule stops, canonicalBody_suit suitRule,
        bodyLetters_commitments rfl rfl, suitLetters, suitRule.letters_eq]
      simp

end Commitment

/-- What was read is written as it stood between the blanks, with the numeral of each score
replaced by the decimal numeral of its value, and unchanged if those numerals are canonical. -/
theorem toCode_of_ofCode (code : String) (play : Play) (read : ofCode code = .ok play) :
    (pieces code).flatMap Piece.letters = Text.trim code.toList ∧
      play.toCode.toList = (pieces code).flatMap Piece.canonicalLetters ∧
      ((∀ numeral, .score numeral ∈ pieces code → numeral.IsCanonical) →
        play.toCode.toList = Text.trim code.toList) := by
  cases cut : cutComment (Text.trim code.toList) with
  | mk body comment =>
      obtain ⟨commentEq, rule⟩ := (ofCode_eq_ok_iff_of_cut cut).mp read
      have cutPieces : pieces code =
          bodyPieces body ++ (commentLetters (comment.map String.ofList)).map .single := by
        simp [pieces, cut]
      have whole : (pieces code).flatMap Piece.letters = Text.trim code.toList := by
        rw [cutPieces, List.flatMap_append, letters_bodyPieces, List.flatMap_map,
          eq_append_commentLetters_of_cut cut]
        simp [Piece.letters]
      have written : play.toCode.toList = (pieces code).flatMap Piece.canonicalLetters := by
        have bodyEq : canonicalBody body = play.bodyLetters :=
          (canonicalBody_of_body rule).trans rfl
        rw [cutPieces, List.flatMap_append, ← canonicalBody, bodyEq, List.flatMap_map, toCode,
          String.toList_ofList, commentEq]
        simp [Piece.canonicalLetters]
      refine ⟨whole, written, fun canonical => ?_⟩
      have unchanged : ∀ piece ∈ pieces code, piece.canonicalLetters = piece.letters := by
        intro piece member
        cases piece with
        | single letter => rfl
        | score numeral => exact numeral.canonicalLetters_eq_iff.mpr (canonical numeral member)
      rw [written, ← whole, List.flatMap_def, List.flatMap_def, List.map_congr_left unchanged]

/-- A lost seven, boosted twice, with a won silent hundred of minus twenty points. -/
def lostSeven : Play where
  base := { boost := 2, contract := some .seven }
  link := { won := true, contract := some .silentHundred, score := -20 }
  betterSuit := true

/-- The first code has a superfluous zero in its score, the second has none. -/
theorem toCode_of_ofCode_lostSeven :
    ofCode " -2s+t-020* " = .ok lostSeven ∧
      lostSeven.toCode.toList = (pieces " -2s+t-020* ").flatMap Piece.canonicalLetters ∧
        ofCode " -2s+t-20* " = .ok lostSeven ∧
          lostSeven.toCode.toList = Text.trim " -2s+t-20* ".toList := by
  have padded : ofCode " -2s+t-020* " = .ok lostSeven := by rfl
  have read : ofCode " -2s+t-20* " = .ok lostSeven := by rfl
  refine ⟨padded, (toCode_of_ofCode _ _ padded).2.1, read, (toCode_of_ofCode _ _ read).2.2 ?_⟩
  have cut : cutComment (Text.trim " -2s+t-20* ".toList) =
      (['-', '2', 's', '+'] ++ 't' :: ['-', '2', '0', '*'], none) := by rfl
  have outside : NoScore ['-', '2', 's', '+'] := by decide
  have behind : scoreBehind? 't' ['-', '2', '0', '*'] =
      some (⟨true, ['2', '0'], by simp, by simp⟩, ['*'] ++ []) := by rfl
  have suit : NoScore ['*'] := by decide
  intro numeral member
  simp only [pieces, cut, bodyPieces_append outside, bodyPieces_cons_some behind,
    bodyPieces_append suit] at member
  obtain rfl : numeral = ⟨true, ['2', '0'], by simp, by simp⟩ := by
    simpa [bodyPieces, commentLetters] using member
  exact ⟨by decide, by decide⟩

end TrickLedger.Play
