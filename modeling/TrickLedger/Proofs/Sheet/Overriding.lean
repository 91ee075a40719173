import Mathlib.Data.List.Forall2
import TrickLedger.Proofs.Sheet.Settings

/-!
# Options that override others

Each option that is known asks for a hundred rule or for a stake.  The last option of each
kind counts, however the kinds are mixed, and the first option that is not known is the
fault, whatever follows it.
-/

namespace TrickLedger

/-- What an option asks for. -/
inductive Demand
  | hundred (rule : HundredRule)
  | stake (stake : Nat)
  deriving DecidableEq, Repr

namespace Demand

def hundred? : Demand → Option HundredRule
  | hundred rule => some rule
  | stake _ => none

def stake? : Demand → Option Nat
  | hundred _ => none
  | stake number => some number

end Demand

namespace Setting

/-- The first equals sign of an option stands between a key and a value. -/
def Splits (text key value : String) : Prop :=
  text.toList = key.toList ++ '=' :: value.toList ∧ '=' ∉ key.toList

/-- The key and the value of an option ask for a hundred rule by its word, or for one of the
stakes of sheets by a text that is read as its number. -/
inductive Asks (text : String) : Demand → Prop
  | hundred (value : String) (rule : HundredRule) (parts : Splits text "hundred" value)
      (named : value = rule.word) : Asks text (.hundred rule)
  | stake (value : String) (stake : Nat) (parts : Splits text "multiplier" value)
      (read : Text.readNumber greatestStake value.toList = some stake)
      (asked : stake ∈ sheetStakes) : Asks text (.stake stake)

/-- The option asks for something. -/
def Recognised (text : String) : Prop :=
  ∃ demand, Asks text demand

theorem hundredRule?_eq_some_iff {value : String} {rule : HundredRule} :
    hundredRule? value = some rule ↔ value = rule.word := by
  unfold hundredRule?
  split
  case isTrue named =>
    subst named
    cases rule <;> decide
  case isFalse notAdd =>
    split
    case isTrue named =>
      subst named
      cases rule <;> decide
    case isFalse notMult =>
      cases rule
      · simpa [HundredRule.word] using notMult
      · simpa [HundredRule.word] using notAdd

end Setting

namespace ScoringRules

/-- The rules with what is asked for. -/
def meeting (rules : ScoringRules) : Demand → ScoringRules
  | .hundred hundred => { rules with hundred }
  | .stake stake => { rules with stake }

theorem rulesAfter?_eq_some_iff_asks {rules next : ScoringRules} {text : String} :
    Setting.rulesAfter? rules text = some next ↔
      ∃ demand, Setting.Asks text demand ∧ next = rules.meeting demand := by
  rw [Setting.rulesAfter?_eq_some_iff]
  constructor
  · rintro (⟨value, hundred, parts, read, rfl⟩ | ⟨value, stake, parts, read, rfl⟩)
    · exact ⟨.hundred hundred, .hundred value hundred ⟨parts, by decide⟩
        (Setting.hundredRule?_eq_some_iff.mp read), rfl⟩
    · obtain ⟨number, asked⟩ := Option.filter_eq_some_iff.mp read
      exact ⟨.stake stake, .stake value stake ⟨parts, by decide⟩ number (by simpa using asked),
        rfl⟩
  · rintro ⟨demand, asks, rfl⟩
    cases asks with
    | hundred value rule parts named =>
        exact .inl ⟨value, rule, parts.1, Setting.hundredRule?_eq_some_iff.mpr named, rfl⟩
    | stake value stake parts read asked =>
        have known : Setting.stake? value = some stake :=
          Option.filter_eq_some_iff.mpr ⟨read, by simpa using asked⟩
        exact .inr ⟨value, stake, parts.1, known, rfl⟩

theorem rulesAfter?_eq_none_iff_recognised {rules : ScoringRules} {text : String} :
    Setting.rulesAfter? rules text = none ↔ ¬Setting.Recognised text := by
  rw [← not_iff_not, ← ne_eq, Option.ne_none_iff_exists', not_not]
  simp only [rulesAfter?_eq_some_iff_asks, Setting.Recognised]
  exact ⟨fun ⟨_, demand, asks, _⟩ => ⟨demand, asks⟩,
    fun ⟨demand, asks⟩ => ⟨_, demand, asks, rfl⟩⟩

/-! ### One option after another -/

variable {rules next : ScoringRules} {settings : List Setting}

theorem applySettings_eq_ok_iff_foldl :
    rules.applySettings settings = .ok next ↔
      ∃ demands, List.Forall₂ (fun setting => Setting.Asks setting.text) settings demands ∧
        next = demands.foldl meeting rules := by
  induction settings generalizing rules with
  | nil => simp [applySettings, eq_comm]
  | cons setting settings ih =>
      rw [applySettings]
      constructor
      · intro applied
        split at applied
        case h_1 following step =>
          obtain ⟨demand, asks, rfl⟩ := rulesAfter?_eq_some_iff_asks.mp step
          obtain ⟨demands, rest, rfl⟩ := ih.mp applied
          exact ⟨demand :: demands, .cons asks rest, rfl⟩
        case h_2 => cases applied
      · rintro ⟨demands, asked, rfl⟩
        cases asked with
        | cons asks rest =>
            rw [rulesAfter?_eq_some_iff_asks.mpr ⟨_, asks, rfl⟩]
            exact ih.mpr ⟨_, rest, rfl⟩

theorem applySettings_eq_error_iff {fault : SheetFault} :
    rules.applySettings settings = .error fault ↔
      ∃ before setting after, settings = before ++ setting :: after ∧
        (∀ earlier ∈ before, Setting.Recognised earlier.text) ∧
        ¬Setting.Recognised setting.text ∧
        fault = .unknownSetting setting.text setting.start := by
  induction settings generalizing rules with
  | nil => simp [applySettings]
  | cons first settings ih =>
      rw [applySettings]
      constructor
      · intro failed
        split at failed
        case h_1 following step =>
          obtain ⟨demand, asks, -⟩ := rulesAfter?_eq_some_iff_asks.mp step
          obtain ⟨before, setting, after, rfl, recognised, unknown, rfl⟩ := ih.mp failed
          exact ⟨first :: before, setting, after, rfl,
            List.forall_mem_cons.mpr ⟨⟨demand, asks⟩, recognised⟩, unknown, rfl⟩
        case h_2 step =>
          cases failed
          exact ⟨[], first, settings, rfl, by simp, rulesAfter?_eq_none_iff_recognised.mp step, rfl⟩
      · rintro ⟨before, setting, after, parts, recognised, unknown, rfl⟩
        cases before with
        | nil =>
            obtain ⟨rfl, rfl⟩ := List.cons.inj parts
            rw [rulesAfter?_eq_none_iff_recognised.mpr unknown]
        | cons earlier before =>
            obtain ⟨rfl, rfl⟩ := List.cons.inj parts
            rw [List.forall_mem_cons] at recognised
            obtain ⟨⟨demand, asks⟩, recognised⟩ := recognised
            rw [rulesAfter?_eq_some_iff_asks.mpr ⟨demand, asks, rfl⟩]
            exact ih.mpr ⟨before, setting, after, rfl, recognised, unknown, rfl⟩

/-! ### The last one of each kind -/

theorem getLast?_filterMap_cons {α β : Type} (choice : α → Option β) (item : α) (items : List α)
    (otherwise : β) :
    ((item :: items).filterMap choice).getLast?.getD otherwise =
      (items.filterMap choice).getLast?.getD ((choice item).getD otherwise) := by
  cases chosen : choice item with
  | none => simp [chosen]
  | some value => simp [chosen, List.getLast?_cons]

theorem foldl_meeting (rules : ScoringRules) (demands : List Demand) :
    demands.foldl meeting rules =
      { hundred := (demands.filterMap Demand.hundred?).getLast?.getD rules.hundred
        stake := (demands.filterMap Demand.stake?).getLast?.getD rules.stake } := by
  induction demands generalizing rules with
  | nil => rfl
  | cons demand demands ih =>
      rw [List.foldl_cons, ih, getLast?_filterMap_cons, getLast?_filterMap_cons]
      cases demand <;> rfl

/-- The rules are those that the last option of each kind asks for, and the usual ones where
there is none.  If some option is not recognised, the first such option is the fault. -/
theorem ofSettings_of_demands (settings : List Setting) :
    (∀ rules, ofSettings settings = .ok rules ↔
      ∃ demands, List.Forall₂ (fun setting => Setting.Asks setting.text) settings demands ∧
        rules =
          { hundred := (demands.filterMap Demand.hundred?).getLast?.getD .multiplicative
            stake := (demands.filterMap Demand.stake?).getLast?.getD 1 }) ∧
    ∀ fault, ofSettings settings = .error fault ↔
      ∃ before setting after, settings = before ++ setting :: after ∧
        (∀ earlier ∈ before, Setting.Recognised earlier.text) ∧
        ¬Setting.Recognised setting.text ∧
        fault = .unknownSetting setting.text setting.start := by
  refine ⟨fun rules => ?_, fun fault => applySettings_eq_error_iff⟩
  rw [ofSettings, applySettings_eq_ok_iff_foldl]
  simp only [foldl_meeting]

example : ofSettings [⟨"multiplier=10", 8⟩, ⟨"hundred=add", 22⟩, ⟨"multiplier=2", 34⟩] =
    .ok { hundred := .additive, stake := 2 } := by
  rfl

end ScoringRules

end TrickLedger
