import TrickLedger.Proofs.Outcome
import TrickLedger.Proofs.Play.Opening
import TrickLedger.Proofs.Play.Score

/-!
# Links of base contracts

What follows the base contract of a play is read as a link of the grammar.  After
a hundred or two sevens the reader also takes parity marks that no link follows;
such dangling marks are refused at the end of the play.
-/

namespace TrickLedger.Play

open Grammar

/-- The contracts that take neither a score nor a link. -/
def singleContracts : List Contract :=
  [.betl, .durch, .majklBetl, .majklSuperBetl]

/-- The contracts whose keyword can open a play. -/
def baseContracts : List Contract :=
  .seven :: .hundred :: .twoSevens :: singleContracts

theorem ne_hundred_of_single {contract : Contract} (single : contract ∈ singleContracts) :
    contract ≠ .hundred := by
  rintro rfl
  simp [singleContracts] at single

theorem mem_baseContracts_of_single {contract : Contract} (single : contract ∈ singleContracts) :
    contract ∈ baseContracts := by
  simp [baseContracts, single]

/-- What is taken for the link of a base contract from the front of a text, and the rest of the
text.  The digits of a score and the parity marks are taken as far as they go, and parity marks
are taken alone only where no sign follows. -/
inductive LinkTaken : Contract → List Char → Commitment → List Char → Prop
  | named {contract : Contract} {link rest : List Char} {linked : Commitment}
      (rule : Link contract link linked) (named : linked.contract ≠ none)
      (stops : linked.contract.any Contract.hasScore = true → NoDigitAhead rest) :
      LinkTaken contract link linked rest
  | marks {contract : Contract} {parity rest : List Char} {linked : Commitment}
      (optional : contract = .hundred ∨ contract = .twoSevens) (rule : Parity parity linked)
      (ends : MarksEnd linked rest) (unsigned : rest.head? ≠ some '+' ∧ rest.head? ≠ some '-') :
      LinkTaken contract parity linked rest
  | nothing {contract : Contract} {rest : List Char} (single : contract ∈ singleContracts) :
      LinkTaken contract [] {} rest

variable {contract : Contract} {text link rest : List Char} {linked : Commitment}

/-! ## Links that are read -/

theorem taken_of_readLinkOfSeven (read : readLinkOfSeven text = .ok (linked, rest)) :
    ∃ link, LinkTaken .seven link linked rest ∧ text = link ++ rest := by
  unfold readLinkOfSeven at read
  obtain ⟨⟨parity, signed⟩, parityRead, linkRead⟩ := bind_eq_ok_iff.mp read
  cases signRead : readSign? signed with
  | none => simp [signRead] at linkRead
  | some taken =>
      obtain ⟨won, boosted⟩ := taken
      cases boostRead : readBoost boosted with
      | mk count worded =>
          obtain ⟨opening, openingRule, rfl⟩ :=
            opening_of_read parityRead signRead boostRead
          simp only [signRead, boostRead] at linkRead
          split at linkRead
          case h_1 =>
            cases linkRead
            exact ⟨_, .named (.gameAfterSeven opening _ openingRule) nofun nofun,
              by simp [Contract.keyword]⟩
          case h_2 scored =>
            obtain ⟨⟨score, rest⟩, scoreRead, finished⟩ := bind_eq_ok_iff.mp linkRead
            obtain ⟨numeral, scoreRule, rfl, stops⟩ := score_of_readScore scoreRead
            cases finished
            exact ⟨_, .named (.hundredAfterSeven opening numeral _ score openingRule scoreRule)
              nofun fun _ => stops, by simp [Contract.keyword]⟩
          case h_3 => cases linkRead

/-- Without a sign there are only parity marks. -/
theorem marks_of_readParity (optional : contract = .hundred ∨ contract = .twoSevens)
    (parityRead : readParity text = .ok (linked, rest)) (signRead : readSign? rest = none) :
    ∃ link, LinkTaken contract link linked rest ∧ text = link ++ rest := by
  obtain ⟨parity, rule, ends, whole⟩ := readParity_eq_ok_iff.mp parityRead
  exact ⟨parity, .marks optional rule ends (readSign?_eq_none_iff.mp signRead), whole⟩

theorem taken_of_readLinkOfHundred (read : readLinkOfHundred text = .ok (linked, rest)) :
    ∃ link, LinkTaken .hundred link linked rest ∧ text = link ++ rest := by
  unfold readLinkOfHundred at read
  obtain ⟨⟨parity, signed⟩, parityRead, linkRead⟩ := bind_eq_ok_iff.mp read
  simp only at linkRead
  split at linkRead
  case h_1 signRead =>
    cases linkRead
    exact marks_of_readParity (.inl rfl) parityRead signRead
  case h_2 won worded signRead =>
    cases linkRead
    obtain ⟨marks, parityRule, -, rfl⟩ := readParity_eq_ok_iff.mp parityRead
    obtain ⟨sign, signRule, rfl⟩ := readSign?_eq_some_iff.mp signRead
    have rule := Link.silentSevenAfterHundred marks sign parity won parityRule signRule
    exact ⟨_, .named rule nofun nofun, by simp [Contract.keyword]⟩
  case h_3 won boosted _ signRead =>
    cases boostRead : readBoost boosted with
    | mk count worded =>
        obtain ⟨opening, openingRule, rfl⟩ :=
          opening_of_read parityRead signRead boostRead
        simp only [boostRead] at linkRead
        split at linkRead
        case h_1 =>
          cases linkRead
          exact ⟨_, .named (.sevenAfterHundred opening _ openingRule) nofun nofun,
            by simp [Contract.keyword]⟩
        case h_2 => cases linkRead

theorem taken_of_readLinkOfTwoSevens (read : readLinkOfTwoSevens text = .ok (linked, rest)) :
    ∃ link, LinkTaken .twoSevens link linked rest ∧ text = link ++ rest := by
  unfold readLinkOfTwoSevens at read
  obtain ⟨⟨parity, signed⟩, parityRead, linkRead⟩ := bind_eq_ok_iff.mp read
  cases signRead : readSign? signed with
  | none =>
      simp only [signRead] at linkRead
      cases linkRead
      exact marks_of_readParity (.inr rfl) parityRead signRead
  | some taken =>
      obtain ⟨won, boosted⟩ := taken
      cases boostRead : readBoost boosted with
      | mk count worded =>
          obtain ⟨opening, openingRule, rfl⟩ :=
            opening_of_read parityRead signRead boostRead
          simp only [signRead, boostRead] at linkRead
          split at linkRead
          case h_1 scored =>
            obtain ⟨⟨score, rest⟩, scoreRead, finished⟩ := bind_eq_ok_iff.mp linkRead
            obtain ⟨numeral, scoreRule, rfl, stops⟩ := score_of_readScore scoreRead
            cases finished
            have rule := Link.hundredAfterTwoSevens opening numeral _ score openingRule scoreRule
            exact ⟨_, .named rule nofun fun _ => stops, by simp [Contract.keyword]⟩
          case h_2 => cases linkRead

/-- A single contract takes no score, no link and no better suit. -/
theorem read_single (member : contract ∈ singleContracts) (text : List Char) :
    readBaseScore contract text = .ok (defaultScore, text) ∧
      readLink contract text = .ok ({}, text) ∧ contract.allowsBetterSuit = false := by
  unfold singleContracts at member
  cases contract <;> first | exact ⟨rfl, rfl, rfl⟩ | simp at member

theorem taken_of_readLink (member : contract ∈ baseContracts)
    (read : readLink contract text = .ok (linked, rest)) :
    ∃ link, LinkTaken contract link linked rest ∧ text = link ++ rest := by
  simp only [baseContracts, List.mem_cons] at member
  rcases member with rfl | rfl | rfl | single
  · exact taken_of_readLinkOfSeven read
  · exact taken_of_readLinkOfHundred read
  · exact taken_of_readLinkOfTwoSevens read
  · cases (read_single single text).2.1.symm.trans read
    exact ⟨[], .nothing single, rfl⟩

/-! ## Links that are taken -/

theorem LinkTaken.read (taken : LinkTaken contract link linked rest) :
    readLink contract (link ++ rest) = .ok (linked, rest) := by
  cases taken with
  | marks optional rule ends unsigned =>
      have parityRead := readParity_eq_ok_iff.mpr ⟨link, rule, ends, rfl⟩
      have signRead := readSign?_eq_none_iff.mpr unsigned
      rcases optional with rfl | rfl
      · simp [readLink, readLinkOfHundred, parityRead, signRead]
      · simp [readLink, readLinkOfTwoSevens, parityRead, signRead]
  | nothing single => exact (read_single single rest).2.1
  | named rule named stops =>
      cases rule with
      | gameAfterSeven opening marks openingRule =>
          obtain ⟨parity, signed, won, boosted, count, parityRead, signRead, boostRead, rfl⟩ :=
            read_opening openingRule 'h' rest rfl
          simp [readLink, readLinkOfSeven, Contract.keyword, parityRead, signRead, boostRead]
      | hundredAfterSeven opening numeral marks score openingRule scoreRule =>
          obtain ⟨parity, signed, won, boosted, count, parityRead, signRead, boostRead, rfl⟩ :=
            read_opening openingRule 't' (numeral ++ rest) rfl
          simp [readLink, readLinkOfSeven, Contract.keyword, parityRead, signRead, boostRead,
            readScore_append scoreRule (stops rfl)]
      | nothingAfterHundred => exact absurd rfl named
      | silentSevenAfterHundred parity sign marks won parityRule signRule =>
          have parityRead := readParity_append_sign ('n' :: rest) parityRule signRule
          have signRead := readSign?_cons ('n' :: rest) signRule
          simp [readLink, readLinkOfHundred, Contract.keyword, parityRead, signRead]
      | sevenAfterHundred opening marks openingRule =>
          obtain ⟨parity, signed, won, boosted, count, parityRead, signRead, boostRead, rfl⟩ :=
            read_opening openingRule 's' rest rfl
          -- The reader looks for a silent seven before it looks for a boost.
          have noSilentSeven : ∀ rest, boosted = 'n' :: rest → False := by
            rintro rest rfl
            simp [readBoost] at boostRead
          simp [readLink, readLinkOfHundred, Contract.keyword, parityRead, signRead, boostRead]
      | nothingAfterTwoSevens => exact absurd rfl named
      | hundredAfterTwoSevens opening numeral marks score openingRule scoreRule =>
          obtain ⟨parity, signed, won, boosted, count, parityRead, signRead, boostRead, rfl⟩ :=
            read_opening openingRule 'k' (numeral ++ rest) rfl
          simp [readLink, readLinkOfTwoSevens, Contract.keyword, parityRead, signRead, boostRead,
            readScore_append scoreRule (stops rfl)]

theorem LinkTaken.eq_nil (taken : LinkTaken contract link linked rest)
    (single : contract ∈ singleContracts) : link = [] ∧ linked = {} := by
  have same := (read_single single (link ++ rest)).2.1.symm.trans taken.read
  simp only [Except.ok.injEq, Prod.mk.injEq, List.append_left_eq_self] at same
  exact ⟨same.2, same.1.symm⟩

/-- The reader of links takes what the grammar has for a link, or dangling marks. -/
theorem readLink_eq_ok_iff (member : contract ∈ baseContracts) :
    readLink contract text = .ok (linked, rest) ↔
      ∃ link, LinkTaken contract link linked rest ∧ text = link ++ rest := by
  constructor
  · exact taken_of_readLink member
  · rintro ⟨link, taken, rfl⟩
    exact taken.read

/-! ## Dangling marks -/

/-- Parity marks were taken for a link, but no commitment came with them. -/
def Dangling (linked : Commitment) : Prop :=
  linked.soloParity = true ∧ linked.contract = none

instance : DecidablePred Dangling := fun linked =>
  inferInstanceAs (Decidable (linked.soloParity = true ∧ linked.contract = none))

theorem value_eq_zero_iff {commitment : Commitment} :
    commitment.value = 0 ↔ commitment.contract = none := by
  cases named : commitment.contract with
  | none => simp [Commitment.value, named]
  | some contract => simpa [Commitment.value, named] using Int.ne_of_gt contract.value_pos

theorem LinkTaken.link_of_not_dangling (taken : LinkTaken contract link linked rest)
    (linkable : contract ∉ singleContracts) (complete : ¬Dangling linked) :
    Link contract link linked := by
  cases taken with
  | named rule => exact rule
  | nothing single => exact absurd single linkable
  | marks optional rule =>
      cases rule with
      | solo | payment => exact absurd ⟨rfl, rfl⟩ complete
      | plain =>
          rcases optional with rfl | rfl
          · exact .nothingAfterHundred
          · exact .nothingAfterTwoSevens

theorem LinkTaken.marks_of_dangling (taken : LinkTaken contract link linked rest)
    (dangling : Dangling linked) :
    (contract = .hundred ∨ contract = .twoSevens) ∧ Parity link linked ∧ link ≠ [] := by
  cases taken with
  | named rule named => exact absurd dangling.2 named
  | nothing => exact absurd dangling.1 nofun
  | marks optional rule =>
      refine ⟨optional, rule, ?_⟩
      rintro rfl
      cases rule
      exact absurd dangling.1 nofun

theorem Grammar.Parity.dangling {parity : List Char} (rule : Parity parity linked)
    (marked : parity ≠ []) : Dangling linked := by
  cases rule with
  | plain => exact absurd rfl marked
  | solo | payment => exact ⟨rfl, rfl⟩

/-- A linked commitment of the grammar with solo parity has a contract. -/
theorem Grammar.Link.not_dangling (rule : Link contract link linked) : ¬Dangling linked := by
  cases rule <;> simp [Dangling]

/-! ## Links before the end of a play -/

theorem Grammar.BetterSuit.noDigitAhead {suit : List Char} {betterSuit : Bool}
    (rule : BetterSuit suit betterSuit) : NoDigitAhead suit := by
  cases rule <;> simp [NoDigitAhead]

theorem Grammar.Parity.noDigitAhead {parity suit : List Char} {betterSuit : Bool}
    (rule : Parity parity linked) (suitRule : BetterSuit suit betterSuit) :
    NoDigitAhead (parity ++ suit) := by
  cases rule with
  | plain => exact suitRule.noDigitAhead
  | solo | payment => simp [NoDigitAhead]

theorem Grammar.Opening.noDigitAhead {opening : List Char} {marks : Commitment}
    (rule : Opening opening marks) (rest : List Char) :
    NoDigitAhead (opening ++ rest) := by
  cases rule with
  | mk parity sign boost marks won count parityRule signRule boostRule =>
      cases parityRule <;> cases signRule <;> simp [NoDigitAhead]

theorem Grammar.Link.noDigitAhead {contract : Contract} {link suit : List Char}
    {linked : Commitment} {betterSuit : Bool}
    (rule : Link contract link linked) (suitRule : BetterSuit suit betterSuit) :
    NoDigitAhead (link ++ suit) := by
  cases rule with
  | gameAfterSeven opening marks openingRule =>
      simpa using openingRule.noDigitAhead _
  | hundredAfterSeven opening numeral marks score openingRule scoreRule =>
      simpa using openingRule.noDigitAhead _
  | nothingAfterHundred => exact suitRule.noDigitAhead
  | silentSevenAfterHundred parity sign marks won parityRule signRule =>
      have openingRule := Opening.mk parity sign [] marks won 0 parityRule signRule .none
      simpa using openingRule.noDigitAhead (Contract.silentSeven.keyword ++ suit)
  | sevenAfterHundred opening marks openingRule =>
      simpa using openingRule.noDigitAhead _
  | nothingAfterTwoSevens => exact suitRule.noDigitAhead
  | hundredAfterTwoSevens opening numeral marks score openingRule scoreRule =>
      simpa using openingRule.noDigitAhead _

/-- Marks that no link follows are taken whole before the end of a play. -/
theorem LinkTaken.of_marks (optional : contract = .hundred ∨ contract = .twoSevens)
    {parity suit : List Char} {betterSuit : Bool} (rule : Parity parity linked)
    (suitRule : BetterSuit suit betterSuit) : LinkTaken contract parity linked suit := by
  have ends : MarksEnd linked suit := by cases suitRule <;> simp [MarksEnd]
  exact .marks optional rule ends (by cases suitRule <;> simp)

/-- A link of the grammar is taken whole before the end of a play. -/
theorem LinkTaken.of_link {suit : List Char} {betterSuit : Bool}
    (rule : Link contract link linked) (suitRule : BetterSuit suit betterSuit) :
    LinkTaken contract link linked suit := by
  by_cases named : linked.contract = none
  · cases rule with
    | nothingAfterHundred => exact .of_marks (.inl rfl) .plain suitRule
    | nothingAfterTwoSevens => exact .of_marks (.inr rfl) .plain suitRule
    | _ => cases named
  · exact .named rule named fun _ => suitRule.noDigitAhead

end TrickLedger.Play
