import TrickLedger.Play.Grammar
import TrickLedger.Play.Reader

/-!
# Openings of commitments

Parity marks, a sign and a boost open a commitment.  Each of their readers takes
a text of its grammar rule from the front, and every text of the rule is taken
whole when the letter after it cannot belong to it.
-/

namespace TrickLedger.Play

open Grammar

/-- The text behind parity marks does not go on with a mark that would belong to them. -/
def MarksEnd (marks : Commitment) (rest : List Char) : Prop :=
  (marks.soloParity = false → rest.head? ≠ some '$') ∧
    (marks.basePayment = false → rest.head? ≠ some ':')

theorem readParity_eq_ok_iff {text rest : List Char} {marks : Commitment} :
    readParity text = .ok (marks, rest) ↔
      ∃ parity, Parity parity marks ∧ MarksEnd marks rest ∧ text = parity ++ rest := by
  constructor
  · intro read
    unfold readParity at read
    split at read
    case h_1 =>
      cases read
      exact ⟨_, .payment, ⟨nofun, nofun⟩, rfl⟩
    case h_2 noColon =>
      cases read
      refine ⟨_, .solo, ⟨nofun, fun _ colon => ?_⟩, rfl⟩
      obtain ⟨tail, rfl⟩ := List.head?_eq_some_iff.mp colon
      exact noColon tail rfl
    case h_3 => cases read
    case h_4 noDollar noColon =>
      cases read
      refine ⟨_, .plain, ⟨fun _ dollar => ?_, fun _ colon => ?_⟩, rfl⟩
      · obtain ⟨tail, rfl⟩ := List.head?_eq_some_iff.mp dollar
        exact noDollar tail rfl
      · obtain ⟨tail, rfl⟩ := List.head?_eq_some_iff.mp colon
        exact noColon tail rfl
  · rintro ⟨parity, rule, ⟨noDollar, noColon⟩, rfl⟩
    cases rule with
    | payment => rfl
    | solo =>
        cases rest with
        | nil => rfl
        | cons letter rest => simp_all [readParity]
    | plain =>
        cases rest with
        | nil => rfl
        | cons letter rest => simp_all [readParity]

/-- A sign belongs to no parity mark, so the marks before it are taken whole. -/
theorem readParity_append_sign {parity : List Char} {marks : Commitment}
    {sign : Char} {won : Bool} (rest : List Char)
    (parityRule : Parity parity marks) (signRule : Sign sign won) :
    readParity (parity ++ sign :: rest) = .ok (marks, sign :: rest) := by
  have ends : MarksEnd marks (sign :: rest) := by cases signRule <;> simp [MarksEnd]
  exact readParity_eq_ok_iff.mpr ⟨parity, parityRule, ends, rfl⟩

theorem readSign?_cons {sign : Char} {won : Bool} (rest : List Char)
    (rule : Sign sign won) : readSign? (sign :: rest) = some (won, rest) := by
  cases rule <;> rfl

theorem readSign?_eq_some_iff {text rest : List Char} {won : Bool} :
    readSign? text = some (won, rest) ↔
      ∃ sign, Sign sign won ∧ text = sign :: rest := by
  constructor
  · intro read
    unfold readSign? at read
    split at read
    · cases read
      exact ⟨_, .plus, rfl⟩
    · cases read
      exact ⟨_, .minus, rfl⟩
    · cases read
  · rintro ⟨sign, rule, rfl⟩
    exact readSign?_cons rest rule

theorem readSign?_eq_none_iff {text : List Char} :
    readSign? text = none ↔ text.head? ≠ some '+' ∧ text.head? ≠ some '-' := by
  cases text with
  | nil => simp [readSign?]
  | cons letter text =>
      unfold readSign?
      split <;> simp_all

theorem boost_of_readBoost {text rest : List Char} {count : Nat}
    (read : readBoost text = (count, rest)) :
    ∃ boost, Boost boost count ∧ text = boost ++ rest := by
  unfold readBoost at read
  split at read
  case h_5 =>
    cases read
    exact ⟨_, .none, rfl⟩
  all_goals
    cases read
    exact ⟨_, .digit _ (by decide) (by decide), rfl⟩

theorem boost_cases {count : Nat} (lower : 1 ≤ count) (upper : count ≤ greatestBoost) :
    count = 1 ∨ count = 2 ∨ count = 3 ∨ count = 4 := by
  unfold greatestBoost at upper
  omega

theorem readBoost_append {boost rest : List Char} {count : Nat} {letter : Char}
    (rule : Boost boost count) (noDigit : letter.isDigit = false) :
    readBoost (boost ++ letter :: rest) = (count, letter :: rest) := by
  cases rule with
  | none =>
      unfold readBoost
      split <;> simp_all
  | digit count lower upper =>
      rcases boost_cases lower upper with rfl | rfl | rfl | rfl <;> rfl

/-- The three readers one after another take an opening. -/
theorem opening_of_read {text signed boosted rest : List Char} {parity : Commitment}
    {won : Bool} {count : Nat}
    (parityRead : readParity text = .ok (parity, signed))
    (signRead : readSign? signed = some (won, boosted))
    (boostRead : readBoost boosted = (count, rest)) :
    ∃ opening, Opening opening { parity with won, boost := count } ∧
      text = opening ++ rest := by
  obtain ⟨marks, parityRule, -, rfl⟩ := readParity_eq_ok_iff.mp parityRead
  obtain ⟨sign, signRule, rfl⟩ := readSign?_eq_some_iff.mp signRead
  obtain ⟨boost, boostRule, rfl⟩ := boost_of_readBoost boostRead
  exact ⟨_, .mk marks sign boost parity won count parityRule signRule boostRule,
    by simp⟩

/-- An opening is taken whole when a letter that is no digit follows. -/
theorem read_opening {opening : List Char} {marks : Commitment}
    (rule : Opening opening marks) (letter : Char) (rest : List Char)
    (noDigit : letter.isDigit = false) :
    ∃ parity signed won boosted count,
      readParity (opening ++ letter :: rest) = .ok (parity, signed) ∧
        readSign? signed = some (won, boosted) ∧
          readBoost boosted = (count, letter :: rest) ∧
            marks = { parity with won, boost := count } := by
  cases rule with
  | mk parity sign boost marks won count parityRule signRule boostRule =>
      refine ⟨marks, sign :: (boost ++ letter :: rest), won, boost ++ letter :: rest, count,
        ?_, ?_, readBoost_append boostRule noDigit, rfl⟩
      · rw [List.append_assoc, List.cons_append]
        exact readParity_append_sign _ parityRule signRule
      · exact readSign?_cons _ signRule

end TrickLedger.Play
