import TrickLedger.Proofs.Play.Link

/-!
# Bodies of play codes

The reader and the grammar agree on whole bodies: a body is read as a play
exactly when the grammar derives the play from it.
-/

namespace TrickLedger.Play

open Grammar

theorem readBaseContract?_eq_some_iff {text rest : List Char} {contract : Contract} :
    readBaseContract? text = some (contract, rest) ↔
      contract ∈ baseContracts ∧ text = contract.keyword ++ rest := by
  constructor
  · intro read
    unfold readBaseContract? at read
    split at read <;> cases read <;> exact ⟨by decide, rfl⟩
  · rintro ⟨member, rfl⟩
    unfold baseContracts singleContracts at member
    cases contract <;> first | rfl | simp at member

/-! ## Commitments -/

/-- The score that is taken behind the keyword of a base contract, and the rest of the text. -/
inductive ScoreTaken : Contract → List Char → Int → List Char → Prop
  | hundred {numeral rest : List Char} {score : Int} (rule : Score numeral score)
      (stops : NoDigitAhead rest) : ScoreTaken .hundred numeral score rest
  | nothing {contract : Contract} {rest : List Char} (other : contract ≠ .hundred) :
      ScoreTaken contract [] defaultScore rest

theorem ScoreTaken.eq_nil {contract : Contract} {numeral rest : List Char} {score : Int}
    (taken : ScoreTaken contract numeral score rest) (other : contract ≠ .hundred) :
    numeral = [] ∧ score = defaultScore := by
  cases taken with
  | hundred => exact absurd rfl other
  | nothing => exact ⟨rfl, rfl⟩

theorem readBaseScore_eq_ok_iff {contract : Contract} {text rest : List Char} {score : Int} :
    readBaseScore contract text = .ok (score, rest) ↔
      ∃ numeral, ScoreTaken contract numeral score rest ∧ text = numeral ++ rest := by
  unfold readBaseScore
  constructor
  · intro read
    split at read
    case isTrue hundred =>
      subst hundred
      obtain ⟨numeral, rule, whole, stops⟩ := score_of_readScore read
      exact ⟨numeral, .hundred rule stops, whole⟩
    case isFalse other =>
      cases read
      exact ⟨[], .nothing other, rfl⟩
  · rintro ⟨numeral, taken, rfl⟩
    cases taken with
    | hundred rule stops => exact readScore_append rule stops
    | nothing other => exact if_neg other

/-- What is taken for the commitments of a play from the front of a body, and the rest of it. -/
inductive CommitmentsTaken : List Char → Play → List Char → Prop
  | mk {opening numeral link rest : List Char} {marks linked : Commitment} {contract : Contract}
      {score : Int} (rule : Opening opening marks) (member : contract ∈ baseContracts)
      (scoreTaken : ScoreTaken contract numeral score (link ++ rest))
      (linkTaken : LinkTaken contract link linked rest) :
      CommitmentsTaken (opening ++ contract.keyword ++ numeral ++ link)
        { base := { marks with contract := some contract, score }, link := linked } rest

theorem taken_of_readCommitments {text rest : List Char} {play : Play}
    (read : readCommitments text = .ok (play, rest)) :
    ∃ taken, CommitmentsTaken taken play rest ∧ text = taken ++ rest := by
  unfold readCommitments at read
  obtain ⟨⟨parity, signed⟩, parityRead, baseRead⟩ := bind_eq_ok_iff.mp read
  cases signRead : readSign? signed with
  | none => simp [signRead] at baseRead
  | some taken =>
      obtain ⟨won, boosted⟩ := taken
      cases boostRead : readBoost boosted with
      | mk count worded =>
          obtain ⟨opening, openingRule, rfl⟩ :=
            opening_of_read parityRead signRead boostRead
          cases contractRead : readBaseContract? worded with
          | none => simp [signRead, boostRead, contractRead] at baseRead
          | some taken =>
              obtain ⟨contract, scored⟩ := taken
              obtain ⟨member, rfl⟩ := readBaseContract?_eq_some_iff.mp contractRead
              simp only [signRead, boostRead, contractRead] at baseRead
              obtain ⟨⟨score, linkText⟩, scoreRead, linkedRead⟩ := bind_eq_ok_iff.mp baseRead
              obtain ⟨⟨linked, rest⟩, linkRead, finished⟩ := bind_eq_ok_iff.mp linkedRead
              obtain ⟨link, linkTaken, rfl⟩ := (readLink_eq_ok_iff member).mp linkRead
              obtain ⟨numeral, scoreTaken, rfl⟩ := readBaseScore_eq_ok_iff.mp scoreRead
              cases finished
              exact ⟨_, .mk openingRule member scoreTaken linkTaken, by simp⟩

theorem keyword_eq_cons (contract : Contract) :
    ∃ letter letters, contract.keyword = letter :: letters ∧ letter.isDigit = false := by
  cases contract <;> exact ⟨_, _, rfl, rfl⟩

theorem CommitmentsTaken.read {text rest : List Char} {play : Play}
    (taken : CommitmentsTaken text play rest) :
    readCommitments (text ++ rest) = .ok (play, rest) := by
  cases taken with
  | @mk _ numeral link _ _ _ contract _ rule member scoreTaken linkTaken =>
      obtain ⟨letter, letters, keyword, noDigit⟩ := keyword_eq_cons contract
      obtain ⟨parity, signed, won, boosted, count, parityRead, signRead, boostRead, rfl⟩ :=
        read_opening rule letter (letters ++ (numeral ++ (link ++ rest))) noDigit
      have contractRead : readBaseContract? (letter :: (letters ++ (numeral ++ (link ++ rest)))) =
          some (contract, numeral ++ (link ++ rest)) :=
        readBaseContract?_eq_some_iff.mpr ⟨member, by simp [keyword]⟩
      have scoreRead := readBaseScore_eq_ok_iff.mpr ⟨numeral, scoreTaken, rfl⟩
      simp [readCommitments, keyword, parityRead, signRead, boostRead, contractRead, scoreRead,
        linkTaken.read]

theorem readCommitments_eq_ok_iff {text rest : List Char} {play : Play} :
    readCommitments text = .ok (play, rest) ↔
      ∃ taken, CommitmentsTaken taken play rest ∧ text = taken ++ rest := by
  constructor
  · exact taken_of_readCommitments
  · rintro ⟨taken, rule, rfl⟩
    exact rule.read

/-- A body determines what is taken from it. -/
theorem CommitmentsTaken.unique {text other rest left : List Char} {play played : Play}
    (taken : CommitmentsTaken text play rest) (again : CommitmentsTaken other played left)
    (same : text ++ rest = other ++ left) : text = other ∧ play = played ∧ rest = left := by
  have read := taken.read
  rw [same, again.read] at read
  cases read
  exact ⟨List.append_cancel_right same, rfl, rfl⟩

/-! ## The end of a play -/

/-- Only a commitment without a contract is worth nothing. -/
theorem finish_eq (play : Play) (rest : List Char) :
    finish play rest =
      if rest ≠ [] then .error .trailingCharacters
      else if play.base.contract = none then .error .missingBase
      else if Dangling play.link then .error .incompleteLink
      else .ok play := by
  simp only [finish, value_eq_zero_iff, Dangling, Bool.not_eq_true', List.isEmpty_eq_false_iff]
  congr

theorem finish_eq_ok_iff {play finished : Play} {rest : List Char} :
    finish play rest = .ok finished ↔
      rest = [] ∧ play.base.contract ≠ none ∧ ¬Dangling play.link ∧ finished = play := by
  rw [finish_eq]
  repeat' split
  all_goals simp_all [eq_comm]

theorem readBetterSuit_eq_ok_iff {play finished : Play} {rest : List Char}
    (unsuited : play.betterSuit = false) :
    readBetterSuit play rest = .ok finished ↔
      ∃ betterSuit, BetterSuit rest betterSuit ∧
        (betterSuit = true → play.base.contract.any Contract.allowsBetterSuit = true) ∧
          play.base.contract ≠ none ∧ ¬Dangling play.link ∧
            finished = { play with betterSuit } := by
  have same : { play with betterSuit := false } = play := by
    rw [← unsuited]
  constructor
  · intro read
    unfold readBetterSuit at read
    split at read
    case h_1 rest =>
      by_cases allowed : play.base.contract.any Contract.allowsBetterSuit = true
      · rw [if_pos allowed] at read
        obtain ⟨rfl, hasBase, complete, rfl⟩ := finish_eq_ok_iff.mp read
        exact ⟨true, .marked, fun _ => allowed, hasBase, complete, rfl⟩
      · rw [if_neg allowed] at read
        cases read
    case h_2 =>
      obtain ⟨rfl, hasBase, complete, rfl⟩ := finish_eq_ok_iff.mp read
      exact ⟨false, .unmarked, by simp, hasBase, complete, same.symm⟩
  · rintro ⟨betterSuit, suitRule, allowed, hasBase, complete, rfl⟩
    cases suitRule with
    | marked =>
        simp only [readBetterSuit]
        rw [if_pos (allowed rfl)]
        exact finish_eq_ok_iff.mpr ⟨rfl, hasBase, complete, rfl⟩
    | unmarked => exact finish_eq_ok_iff.mpr ⟨rfl, hasBase, complete, same⟩

/-! ## Whole bodies -/

theorem readFault?_eq_some_iff {body : List Char} {contract : Contract} :
    readFault? body = some contract ↔
      contract.isFault = true ∧ body = contract.keyword := by
  constructor
  · intro read
    unfold readFault? at read
    split at read <;> cases read <;> exact ⟨rfl, rfl⟩
  · rintro ⟨isFault, rfl⟩
    cases contract <;> first | rfl | cases isFault

theorem readFault?_opening {opening : List Char} {marks : Commitment}
    (rule : Opening opening marks) (rest : List Char) :
    readFault? (opening ++ rest) = none := by
  cases rule with
  | mk parity sign boost marks won count parityRule signRule boostRule =>
      cases parityRule <;> cases signRule <;> rfl

theorem CommitmentsTaken.unsuited {text rest : List Char} {play : Play}
    (taken : CommitmentsTaken text play rest) : play.betterSuit = false := by
  cases taken
  rfl

/-- Commitments open with a sign or a mark, so they name no fault. -/
theorem CommitmentsTaken.ofBody {text rest : List Char} {play : Play}
    (taken : CommitmentsTaken text play rest) :
    ofBody (text ++ rest) = readBetterSuit play rest := by
  have noFault : readFault? (text ++ rest) = none := by
    cases taken with
    | mk rule =>
        simp only [List.append_assoc]
        exact readFault?_opening rule _
  simp only [Play.ofBody, noFault, taken.read, ok_bind]

theorem ofBody_eq_ok_of_taken {text suit : List Char} {base linked : Commitment}
    {contract : Contract} {betterSuit : Bool}
    (taken : CommitmentsTaken text { base, link := linked } suit)
    (named : base.contract = some contract) (suitRule : BetterSuit suit betterSuit)
    (allowed : betterSuit = true → contract.allowsBetterSuit = true)
    (complete : ¬Dangling linked) :
    ofBody (text ++ suit) = .ok { base, link := linked, betterSuit } := by
  rw [taken.ofBody]
  refine (readBetterSuit_eq_ok_iff rfl).mpr ⟨betterSuit, suitRule, ?_, ?_, complete, rfl⟩
  · simpa [named] using allowed
  · simp [named]

theorem Grammar.Opening.score_eq {opening : List Char} {marks : Commitment}
    (rule : Opening opening marks) : marks.score = defaultScore := by
  cases rule with
  | mk parity sign boost marks won count parityRule signRule boostRule =>
      cases parityRule <;> rfl

/-- Every play of the grammar is read from its body. -/
theorem ofBody_of_body {body : List Char} {play : Play} (rule : Body body play) :
    ofBody body = .ok play := by
  cases rule with
  | fault contract isFault =>
      have read := readFault?_eq_some_iff.mpr ⟨isFault, rfl⟩
      simp [ofBody, read]
  | single opening marks contract openingRule member =>
      have taken : CommitmentsTaken _ _ [] :=
        .mk openingRule (mem_baseContracts_of_single member)
          (.nothing (ne_hundred_of_single member)) (.nothing member)
      have read := ofBody_eq_ok_of_taken taken rfl .unmarked nofun nofun
      rw [openingRule.score_eq]
      simpa using read
  | seven opening link suit marks linked betterSuit openingRule linkRule suitRule
  | twoSevens opening link suit marks linked betterSuit openingRule linkRule suitRule =>
      have taken : CommitmentsTaken _ _ suit :=
        .mk openingRule (by decide) (.nothing (by decide)) (.of_link linkRule suitRule)
      have read := ofBody_eq_ok_of_taken taken rfl suitRule (fun _ => rfl) linkRule.not_dangling
      rw [openingRule.score_eq]
      simpa using read
  | hundred opening numeral link suit marks linked score betterSuit openingRule scoreRule
      linkRule suitRule =>
      have taken : CommitmentsTaken _ _ suit :=
        .mk openingRule (by decide) (.hundred scoreRule (linkRule.noDigitAhead suitRule))
          (.of_link linkRule suitRule)
      exact ofBody_eq_ok_of_taken taken rfl suitRule (fun _ => rfl) linkRule.not_dangling

/-- What is taken makes a body of the grammar with the mark of the better suit, if no marks
dangle and the contract allows the mark. -/
theorem CommitmentsTaken.body {text suit : List Char} {play : Play} {betterSuit : Bool}
    (taken : CommitmentsTaken text play suit) (suitRule : BetterSuit suit betterSuit)
    (allowed : betterSuit = true → play.base.contract.any Contract.allowsBetterSuit = true)
    (complete : ¬Dangling play.link) : Body (text ++ suit) { play with betterSuit } := by
  cases taken with
  | @mk opening numeral link _ marks linked contract score rule member scoreTaken linkTaken =>
      simp only [baseContracts, List.mem_cons] at member
      rcases member with rfl | rfl | rfl | single
      · obtain ⟨rfl, rfl⟩ := scoreTaken.eq_nil (by decide)
        have linkRule := linkTaken.link_of_not_dangling (by decide) complete
        rw [← rule.score_eq, List.append_nil]
        exact .seven opening link suit marks linked betterSuit rule linkRule suitRule
      · cases scoreTaken with
        | nothing other => exact absurd rfl other
        | hundred scoreRule =>
            have linkRule := linkTaken.link_of_not_dangling (by decide) complete
            exact .hundred opening numeral link suit marks linked score betterSuit rule scoreRule
              linkRule suitRule
      · obtain ⟨rfl, rfl⟩ := scoreTaken.eq_nil (by decide)
        have linkRule := linkTaken.link_of_not_dangling (by decide) complete
        rw [← rule.score_eq, List.append_nil]
        exact .twoSevens opening link suit marks linked betterSuit rule linkRule suitRule
      · obtain ⟨rfl, rfl⟩ := scoreTaken.eq_nil (ne_hundred_of_single single)
        obtain ⟨rfl, rfl⟩ := linkTaken.eq_nil single
        cases suitRule with
        | marked => simp [(read_single single []).2.2] at allowed
        | unmarked =>
            have derived := Body.single opening marks contract rule single
            rw [rule.score_eq] at derived
            simpa using derived

/-- Every play that is read from a body is one of the grammar. -/
theorem body_of_ofBody {body : List Char} {play : Play} (read : ofBody body = .ok play) :
    Body body play := by
  unfold ofBody at read
  cases faultRead : readFault? body with
  | some contract =>
      obtain ⟨isFault, rfl⟩ := readFault?_eq_some_iff.mp faultRead
      simp only [faultRead] at read
      cases read
      exact .fault contract isFault
  | none =>
      simp only [faultRead] at read
      obtain ⟨⟨played, suit⟩, commitmentsRead, suitRead⟩ := bind_eq_ok_iff.mp read
      obtain ⟨text, taken, rfl⟩ := readCommitments_eq_ok_iff.mp commitmentsRead
      obtain ⟨betterSuit, suitRule, allowed, -, complete, rfl⟩ :=
        (readBetterSuit_eq_ok_iff taken.unsuited).mp suitRead
      -- The end of a play refuses dangling marks, so every link is one of the grammar.
      exact taken.body suitRule allowed complete

theorem ofBody_eq_ok_iff {body : List Char} {play : Play} :
    ofBody body = .ok play ↔ Body body play :=
  ⟨body_of_ofBody, ofBody_of_body⟩

end TrickLedger.Play
