import TrickLedger.Proofs.Play.Code

/-!
# Codes refused at their end

The commitments of a play are read before its end is looked at, so a code is refused for its
end exactly when commitments could be taken from the front of its body.
-/

namespace TrickLedger.Play

open Grammar

/-! ### Faults of the commitments -/

/-- The faults of the end of a play. -/
def lateFaults : List PlayFault :=
  [.trailingCharacters, .missingBase, .incompleteLink, .betterSuitNotAllowed]

/-- The end of a play has not been looked at yet. -/
def Early {α : Type} (outcome : Except PlayFault α) : Prop :=
  ∀ fault, outcome = .error fault → fault ∉ lateFaults

section Early

variable {α β : Type}

theorem early_ok (value : α) : Early (.ok value) :=
  nofun

theorem early_error {fault : PlayFault} (early : fault ∉ lateFaults) :
    Early (.error fault : Except PlayFault α) := by
  rintro _ ⟨⟩
  exact early

theorem Early.bind {first : Except PlayFault α} {next : α → Except PlayFault β}
    (firstEarly : Early first) (nextEarly : ∀ value, Early (next value)) :
    Early (first >>= next) := by
  intro fault failed
  rcases bind_eq_error_iff.mp failed with failed | ⟨value, -, failed⟩
  · exact firstEarly fault failed
  · exact nextEarly value fault failed

theorem early_readParity (text : List Char) : Early (readParity text) := by
  unfold readParity
  split <;> first | exact early_ok _ | exact early_error (by decide)

theorem early_readScore (text : List Char) : Early (readScore text) := by
  intro fault failed
  cases (SignedRun.ofText text).readScore_eq_iff.mp failed with
  | missing | outOfRange | uneven => decide

theorem early_readLinkOfSeven (text : List Char) : Early (readLinkOfSeven text) := by
  refine (early_readParity text).bind fun ⟨marks, signed⟩ => ?_
  dsimp only
  split
  · exact early_error (by decide)
  · split
    · exact early_ok _
    · exact (early_readScore _).bind fun _ => early_ok _
    · exact early_error (by decide)

theorem early_readLinkOfHundred (text : List Char) : Early (readLinkOfHundred text) := by
  refine (early_readParity text).bind fun ⟨marks, signed⟩ => ?_
  dsimp only
  split
  · exact early_ok _
  · exact early_ok _
  · split
    · exact early_ok _
    · exact early_error (by decide)

theorem early_readLinkOfTwoSevens (text : List Char) : Early (readLinkOfTwoSevens text) := by
  refine (early_readParity text).bind fun ⟨marks, signed⟩ => ?_
  dsimp only
  split
  · exact early_ok _
  · split
    · exact (early_readScore _).bind fun _ => early_ok _
    · exact early_error (by decide)

theorem early_readLink (contract : Contract) (text : List Char) :
    Early (readLink contract text) := by
  unfold readLink
  split
  · exact early_readLinkOfSeven text
  · exact early_readLinkOfHundred text
  · exact early_readLinkOfTwoSevens text
  · exact early_ok _

theorem early_readBaseScore (contract : Contract) (text : List Char) :
    Early (readBaseScore contract text) := by
  unfold readBaseScore
  split
  · exact early_readScore text
  · exact early_ok _

theorem early_readCommitments (text : List Char) : Early (readCommitments text) := by
  refine (early_readParity text).bind fun ⟨marks, signed⟩ => ?_
  dsimp only
  split
  · exact early_error (by decide)
  · split
    · exact early_error (by decide)
    · exact (early_readBaseScore _ _).bind fun _ =>
        (early_readLink _ _).bind fun _ => early_ok _

end Early

/-! ### Faults of the end -/

/-- A text without the mark of the better suit that it may start with. -/
def dropSuit : List Char → List Char
  | '*' :: rest => rest
  | rest => rest

theorem dropSuit_eq_nil_iff {rest : List Char} :
    dropSuit rest = [] ↔ ∃ betterSuit, BetterSuit rest betterSuit := by
  constructor
  · intro dropped
    unfold dropSuit at dropped
    split at dropped <;> subst dropped
    · exact ⟨_, .marked⟩
    · exact ⟨_, .unmarked⟩
  · rintro ⟨betterSuit, rule⟩
    cases rule <;> rfl

theorem dropSuit_of_head? {rest : List Char} (unmarked : rest.head? ≠ some '*') :
    dropSuit rest = rest := by
  unfold dropSuit
  split
  · exact absurd rfl unmarked
  · rfl

/-- The base contract takes neither a score nor a link. -/
def Single (play : Play) : Prop :=
  ∃ contract ∈ singleContracts, play.base.contract = some contract

theorem CommitmentsTaken.named {text rest : List Char} {play : Play}
    (taken : CommitmentsTaken text play rest) :
    ∃ contract ∈ baseContracts, play.base.contract = some contract := by
  cases taken with
  | mk rule member => exact ⟨_, member, rfl⟩

theorem allowsBetterSuit_eq_false_iff {contract : Contract} :
    contract.allowsBetterSuit = false ↔ contract ∈ singleContracts := by
  cases contract <;> decide

theorem allowsBetterSuit_iff {play : Play} {contract : Contract}
    (named : play.base.contract = some contract) :
    play.base.contract.any Contract.allowsBetterSuit = true ↔ ¬Single play := by
  simp [Single, named, ← allowsBetterSuit_eq_false_iff]

variable {play : Play} {text rest : List Char} {fault : PlayFault}

theorem finish_eq_error_iff (named : play.base.contract ≠ none) :
    finish play rest = .error fault ↔
      (rest ≠ [] ∧ fault = .trailingCharacters) ∨
        (rest = [] ∧ Dangling play.link ∧ fault = .incompleteLink) := by
  rw [finish_eq]
  repeat' split
  all_goals simp_all [eq_comm]

/-- The faults of the end in the order in which they are looked for. -/
theorem CommitmentsTaken.readBetterSuit_eq_error_iff (taken : CommitmentsTaken text play rest) :
    readBetterSuit play rest = .error fault ↔
      (rest.head? = some '*' ∧ Single play ∧ fault = .betterSuitNotAllowed) ∨
        ¬(rest.head? = some '*' ∧ Single play) ∧
          (dropSuit rest ≠ [] ∧ fault = .trailingCharacters ∨
            dropSuit rest = [] ∧ Dangling play.link ∧ fault = .incompleteLink) := by
  obtain ⟨contract, member, named⟩ := taken.named
  unfold readBetterSuit
  split
  case h_1 rest =>
    have hasBase : ({ play with betterSuit := true } : Play).base.contract ≠ none := by
      simp [named]
    have finished : dropSuit ('*' :: rest) = rest := rfl
    by_cases single : Single play
    · rw [if_neg fun allowed => (allowsBetterSuit_iff named).mp allowed single,
        Except.error.injEq, eq_comm]
      simp [single]
    · rw [if_pos ((allowsBetterSuit_iff named).mpr single), finish_eq_error_iff hasBase, finished]
      simp [single]
  case h_2 noSuit =>
    have unmarked : rest.head? ≠ some '*' := by
      intro marked
      obtain ⟨tail, rfl⟩ := List.head?_eq_some_iff.mp marked
      exact noSuit tail rfl
    have hasBase : play.base.contract ≠ none := by simp [named]
    rw [finish_eq_error_iff hasBase, dropSuit_of_head? unmarked]
    simp [unmarked]

theorem CommitmentsTaken.not_single_of_dangling (taken : CommitmentsTaken text play rest)
    (dangling : Dangling play.link) : ¬Single play := by
  cases taken with
  | mk rule member scoreTaken linkTaken =>
      rintro ⟨contract, single, ⟨⟩⟩
      obtain ⟨-, rfl⟩ := linkTaken.eq_nil single
      exact absurd dangling.1 nofun

theorem CommitmentsTaken.incompleteLink (taken : CommitmentsTaken text play rest)
    {betterSuit : Bool} (suitRule : BetterSuit rest betterSuit) (dangling : Dangling play.link) :
    readBetterSuit play rest = .error .incompleteLink := by
  have finished := dropSuit_eq_nil_iff.mpr ⟨betterSuit, suitRule⟩
  have suitable := taken.not_single_of_dangling dangling
  exact taken.readBetterSuit_eq_error_iff.mpr
    (.inr ⟨fun unsuitable => suitable unsuitable.2, .inr ⟨finished, dangling, rfl⟩⟩)

theorem ofBody_eq_error_iff {body : List Char} (late : fault ∈ lateFaults) :
    ofBody body = .error fault ↔
      ∃ text play rest, CommitmentsTaken text play rest ∧
        readBetterSuit play rest = .error fault ∧ body = text ++ rest := by
  constructor
  · intro refused
    unfold ofBody at refused
    cases faultRead : readFault? body with
    | some contract => simp [faultRead] at refused
    | none =>
        simp only [faultRead] at refused
        rcases bind_eq_error_iff.mp refused with refused | ⟨⟨play, rest⟩, read, refused⟩
        · exact absurd late (early_readCommitments body fault refused)
        · obtain ⟨text, taken, whole⟩ := readCommitments_eq_ok_iff.mp read
          exact ⟨text, play, rest, taken, refused, whole⟩
  · rintro ⟨text, play, rest, taken, refused, rfl⟩
    rw [taken.ofBody, refused]

/-! ### Bodies that are refused for their end -/

/-- Parity marks without a link end the body, up to the mark of the better suit. -/
inductive Unlinked : List Char → Prop
  | hundred {opening numeral parity suit : List Char} {marks linked : Commitment} {score : Int}
      {betterSuit : Bool} (rule : Opening opening marks) (scoreRule : Score numeral score)
      (parityRule : Parity parity linked) (marked : parity ≠ [])
      (suitRule : BetterSuit suit betterSuit) :
      Unlinked (opening ++ Contract.hundred.keyword ++ numeral ++ parity ++ suit)
  | twoSevens {opening parity suit : List Char} {marks linked : Commitment} {betterSuit : Bool}
      (rule : Opening opening marks) (parityRule : Parity parity linked) (marked : parity ≠ [])
      (suitRule : BetterSuit suit betterSuit) :
      Unlinked (opening ++ Contract.twoSevens.keyword ++ parity ++ suit)

/-- The mark of the better suit stands behind a contract that takes neither a score nor a
link, whatever follows. -/
inductive SuitedSingle : List Char → Prop
  | mk {opening rest : List Char} {marks : Commitment} {contract : Contract}
      (rule : Opening opening marks) (single : contract ∈ singleContracts) :
      SuitedSingle (opening ++ contract.keyword ++ '*' :: rest)

/-- The body goes on behind the commitments and the mark of the better suit. -/
inductive Overlong : List Char → Prop
  | mk {text rest : List Char} {play : Play} (taken : CommitmentsTaken text play rest)
      (left : dropSuit rest ≠ []) (suitable : ¬(rest.head? = some '*' ∧ Single play)) :
      Overlong (text ++ rest)

theorem ofBody_eq_trailingCharacters_iff {body : List Char} :
    ofBody body = .error .trailingCharacters ↔ Overlong body := by
  rw [ofBody_eq_error_iff (by decide)]
  constructor
  · rintro ⟨text, play, rest, taken, refused, rfl⟩
    rw [taken.readBetterSuit_eq_error_iff] at refused
    simp only [reduceCtorEq, and_false, and_true, or_false, false_or] at refused
    exact .mk taken refused.2 refused.1
  · rintro ⟨taken, left, suitable⟩
    exact ⟨_, _, _, taken,
      taken.readBetterSuit_eq_error_iff.mpr (.inr ⟨suitable, .inl ⟨left, rfl⟩⟩), rfl⟩

theorem ofBody_eq_betterSuitNotAllowed_iff {body : List Char} :
    ofBody body = .error .betterSuitNotAllowed ↔ SuitedSingle body := by
  rw [ofBody_eq_error_iff (by decide)]
  constructor
  · rintro ⟨text, play, rest, taken, refused, rfl⟩
    rw [taken.readBetterSuit_eq_error_iff] at refused
    simp only [reduceCtorEq, and_false, and_true, or_false] at refused
    obtain ⟨marked, contract, single, named⟩ := refused
    obtain ⟨rest, rfl⟩ := List.head?_eq_some_iff.mp marked
    cases taken with
    | mk rule member scoreTaken linkTaken =>
        cases named
        obtain ⟨rfl, -⟩ := scoreTaken.eq_nil (ne_hundred_of_single single)
        obtain ⟨rfl, -⟩ := linkTaken.eq_nil single
        rw [List.append_nil, List.append_nil]
        exact .mk rule single
  · intro suited
    cases suited with
    | @mk opening rest marks contract rule single =>
        have taken : CommitmentsTaken _ _ ('*' :: rest) :=
          .mk rule (mem_baseContracts_of_single single) (.nothing (ne_hundred_of_single single))
            (.nothing single)
        exact ⟨_, _, _, taken,
          taken.readBetterSuit_eq_error_iff.mpr (.inl ⟨rfl, ⟨_, single, rfl⟩, rfl⟩), by simp⟩

theorem ofBody_eq_incompleteLink_iff {body : List Char} :
    ofBody body = .error .incompleteLink ↔ Unlinked body := by
  rw [ofBody_eq_error_iff (by decide)]
  constructor
  · rintro ⟨text, play, rest, taken, refused, rfl⟩
    rw [taken.readBetterSuit_eq_error_iff] at refused
    simp only [reduceCtorEq, and_false, and_true, false_or] at refused
    obtain ⟨-, finished, dangling⟩ := refused
    obtain ⟨betterSuit, suitRule⟩ := dropSuit_eq_nil_iff.mp finished
    cases taken with
    | mk rule member scoreTaken linkTaken =>
        obtain ⟨optional, parityRule, marked⟩ := linkTaken.marks_of_dangling dangling
        rcases optional with rfl | rfl
        · cases scoreTaken with
          | nothing other => exact absurd rfl other
          | hundred scoreRule => exact .hundred rule scoreRule parityRule marked suitRule
        · obtain ⟨rfl, -⟩ := scoreTaken.eq_nil (by decide)
          rw [List.append_nil]
          exact .twoSevens rule parityRule marked suitRule
  · intro unlinked
    cases unlinked with
    | hundred rule scoreRule parityRule marked suitRule =>
        have linkTaken := LinkTaken.of_marks (.inl rfl) parityRule suitRule
        have taken : CommitmentsTaken _ _ _ :=
          .mk rule (by decide) (.hundred scoreRule (parityRule.noDigitAhead suitRule)) linkTaken
        exact ⟨_, _, _, taken, taken.incompleteLink suitRule (parityRule.dangling marked), rfl⟩
    | twoSevens rule parityRule marked suitRule =>
        have linkTaken := LinkTaken.of_marks (.inr rfl) parityRule suitRule
        have taken : CommitmentsTaken _ _ _ := .mk rule (by decide) (.nothing (by decide)) linkTaken
        exact ⟨_, _, _, taken, taken.incompleteLink suitRule (parityRule.dangling marked), by simp⟩

theorem ofBody_ne_missingBase {body : List Char} : ofBody body ≠ .error .missingBase := by
  rw [ne_eq, ofBody_eq_error_iff (by decide)]
  rintro ⟨text, play, rest, taken, refused, -⟩
  rw [taken.readBetterSuit_eq_error_iff] at refused
  simp at refused

/-! ### Whole codes -/

/-- When a code is refused for the end of its play, by what its body is: never for want of a
base contract, and for an incomplete link, a better suit that is not allowed or trailing
characters exactly in these cases. -/
theorem ofCode_lateFaults (code : String) :
    ofCode code ≠ .error .missingBase ∧
      (ofCode code = .error .incompleteLink ↔
        Unlinked (cutComment (Text.trim code.toList)).1) ∧
      (ofCode code = .error .betterSuitNotAllowed ↔
        SuitedSingle (cutComment (Text.trim code.toList)).1) ∧
      (ofCode code = .error .trailingCharacters ↔
        Overlong (cutComment (Text.trim code.toList)).1) := by
  simp only [ne_eq, ofCode_eq_error_iff_of_cut rfl]
  exact ⟨ofBody_ne_missingBase, ofBody_eq_incompleteLink_iff,
    ofBody_eq_betterSuitNotAllowed_iff, ofBody_eq_trailingCharacters_iff⟩

-- What is left behind dangling marks is found before the marks, and a better suit that is not
-- allowed before what is left behind it.
example : ofCode "+k100$s*" = .error .trailingCharacters := by rfl
example : ofCode "-c*$" = .error .betterSuitNotAllowed := by rfl

end TrickLedger.Play
