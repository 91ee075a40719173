import TrickLedger.Money
import TrickLedger.Proofs.Text.Numeral
import TrickLedger.Proofs.Text.Runs

/-!
# Amounts in crowns

An amount is written as a sign if it is below zero, whole crowns without superfluous zeros
and two digits of hellers.  A text is cut into these parts in one way only, and they give
the amount back, so that no two amounts are written alike.
-/

namespace TrickLedger.Money

open Text

/-- The parts of an amount as it is written. -/
structure Spelling where
  negative : Bool
  crowns : List Char
  hellers : List Char
  crowns_nonempty : crowns ≠ []
  crowns_digits : ∀ letter ∈ crowns, letter.isDigit = true
  crowns_noLeadingZero : NoLeadingZero crowns
  hellers_length : hellers.length = 2
  hellers_digits : ∀ letter ∈ hellers, letter.isDigit = true

namespace Spelling

variable {spelling : Spelling}

def letters (spelling : Spelling) : List Char :=
  (if spelling.negative then ['-'] else []) ++ spelling.crowns ++
    ',' :: spelling.hellers ++ [' ', 'K', 'č']

def text (spelling : Spelling) : String :=
  String.ofList spelling.letters

/-- A crown has a hundred hellers. -/
def size (spelling : Spelling) : Nat :=
  100 * numeralValue spelling.crowns + numeralValue spelling.hellers

/-- The amount that the parts stand for. -/
def amount (spelling : Spelling) : Int :=
  if spelling.negative then -spelling.size else spelling.size

theorem natAbs_amount (spelling : Spelling) : spelling.amount.natAbs = spelling.size := by
  unfold amount
  split <;> simp

theorem hellers_nonempty (spelling : Spelling) : spelling.hellers ≠ [] := by
  rw [← List.length_pos_iff, spelling.hellers_length]
  decide

theorem hellers_lt (spelling : Spelling) : numeralValue spelling.hellers < 100 := by
  have small := numeralValue_lt_pow spelling.hellers_nonempty spelling.hellers_digits
  rwa [spelling.hellers_length] at small

theorem not_mem_crowns {mark : Char} (noDigit : mark.isDigit = false) : mark ∉ spelling.crowns :=
  not_mem_of_allDigits spelling.crowns_digits noDigit

theorem head?_letters : spelling.letters.head? = some '-' ↔ spelling.negative = true := by
  unfold letters
  cases spelling.negative with
  | true => simp
  | false =>
      cases crowns : spelling.crowns with
      | nil => exact absurd crowns spelling.crowns_nonempty
      | cons digit digits =>
          have unsigned : digit ≠ '-' := by
            rintro rfl
            exact not_mem_crowns (by decide) (crowns ▸ List.mem_cons_self)
          simpa using unsigned

/-- A text is cut into the parts of an amount in one way. -/
theorem text_inj {first second : Spelling} (same : first.text = second.text) : first = second := by
  have same : first.letters = second.letters := String.ofList_inj.mp same
  have signs : first.negative = second.negative := by
    rw [Bool.eq_iff_iff, ← head?_letters, ← head?_letters, same]
  have rest : first.crowns ++ ',' :: (first.hellers ++ [' ', 'K', 'č']) =
      second.crowns ++ ',' :: (second.hellers ++ [' ', 'K', 'č']) := by
    simpa [letters, signs] using same
  have crowns : first.crowns = second.crowns := by
    have cut := congrArg (List.takeWhile (· ≠ ',')) rest
    rwa [takeWhile_ne_append (not_mem_crowns (by decide)),
      takeWhile_ne_append (not_mem_crowns (by decide))] at cut
  have hellers : first.hellers = second.hellers := by
    simpa [crowns] using rest
  cases first
  cases second
  simp_all

/-- The parts of an amount. -/
def ofAmount (amount : Int) : Spelling where
  negative := decide (amount < 0)
  crowns := numeral (amount.natAbs / 100)
  hellers := paddedNumeral 2 (amount.natAbs % 100)
  crowns_nonempty := numeral_ne_nil _
  crowns_digits := fun _ => isDigit_of_mem_numeral
  crowns_noLeadingZero := noLeadingZero_numeral _
  hellers_length := length_paddedNumeral_of_lt (by decide) (Nat.mod_lt _ (by decide))
  hellers_digits := fun _ => isDigit_of_mem_paddedNumeral

theorem text_ofAmount (amount : Int) : (ofAmount amount).text = Money.text amount := by
  simp [text, letters, ofAmount, Money.text, Money.letters]

theorem amount_ofAmount (amount : Int) : (ofAmount amount).amount = amount := by
  have size : (ofAmount amount).size = amount.natAbs := by
    simp only [Spelling.size, ofAmount, numeralValue_numeral, numeralValue_paddedNumeral]
    omega
  rw [Spelling.amount, size]
  simp only [ofAmount, decide_eq_true_eq]
  omega

theorem negative_ofAmount (amount : Int) : (ofAmount amount).negative = true ↔ amount < 0 := by
  simp [ofAmount]

/-- Parts with a sign only below zero are those of their amount. -/
theorem ofAmount_amount (signed : spelling.negative = true ↔ spelling.amount < 0) :
    ofAmount spelling.amount = spelling := by
  have small := spelling.hellers_lt
  have crowns : spelling.size / 100 = numeralValue spelling.crowns := by
    unfold size
    omega
  have hellers : spelling.size % 100 = numeralValue spelling.hellers := by
    unfold size
    omega
  have crownsWritten := (numeral_numeralValue_iff spelling.crowns_nonempty
    spelling.crowns_digits).mpr spelling.crowns_noLeadingZero
  have hellersWritten := paddedNumeral_numeralValue spelling.hellers_nonempty
    spelling.hellers_digits
  rw [spelling.hellers_length] at hellersWritten
  have sign : decide (spelling.amount < 0) = spelling.negative := by
    rw [Bool.eq_iff_iff, decide_eq_true_eq, signed]
  simp only [ofAmount, natAbs_amount, crowns, hellers, crownsWritten, hellersWritten, sign]

end Spelling

theorem text_eq_iff (amount : Int) (text : String) :
    Money.text amount = text ↔
      ∃ spelling : Spelling, spelling.text = text ∧ spelling.amount = amount ∧
        (spelling.negative = true ↔ amount < 0) := by
  constructor
  · rintro rfl
    exact ⟨.ofAmount amount, Spelling.text_ofAmount amount, Spelling.amount_ofAmount amount,
      Spelling.negative_ofAmount amount⟩
  · rintro ⟨spelling, rfl, rfl, signed⟩
    rw [← Spelling.text_ofAmount, Spelling.ofAmount_amount signed]

theorem text_injective : Function.Injective Money.text := by
  intro first second same
  rw [← Spelling.text_ofAmount, ← Spelling.text_ofAmount] at same
  rw [← Spelling.amount_ofAmount first, Spelling.text_inj same, Spelling.amount_ofAmount]

/-- A text is that of an amount exactly if it is made of the parts of the amount, with a sign
only below zero.  Its parts, and so the amount, are known from the text. -/
theorem text_spelling :
    (∀ amount text, Money.text amount = text ↔
      ∃ spelling : Spelling, spelling.text = text ∧ spelling.amount = amount ∧
        (spelling.negative = true ↔ amount < 0)) ∧
    Function.Injective Spelling.text ∧ Function.Injective Money.text :=
  ⟨text_eq_iff, fun _ _ => Spelling.text_inj, text_injective⟩

example : Money.text least = "-92233720368547758,08 Kč" := by
  decide +kernel

end TrickLedger.Money
