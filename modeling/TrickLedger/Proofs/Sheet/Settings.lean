import TrickLedger.Proofs.Text.Numeral
import TrickLedger.Proofs.Text.Runs
import TrickLedger.Sheet.Settings

/-!
# Options that are known

The options of a sheet are accepted when each of them is known.  A hundred rule is named
by its word alone, while a stake is read as a number: a plus sign and superfluous zeros
before its numeral do not count.
-/

namespace TrickLedger

namespace Setting

/-- The options that the hint for an unknown option lists. -/
def documented : List String :=
  ["hundred=add", "hundred=mult", "multiplier=1", "multiplier=2", "multiplier=10"]

/-- The spellings of the stakes that a sheet may ask for. -/
inductive SpellsStake : List Char → Nat → Prop
  | unsigned (zeros stake : Nat) (asked : stake ∈ sheetStakes) :
      SpellsStake (List.replicate zeros '0' ++ Text.numeral stake) stake
  | plus (zeros stake : Nat) (asked : stake ∈ sheetStakes) :
      SpellsStake ('+' :: (List.replicate zeros '0' ++ Text.numeral stake)) stake

/-- The options that are accepted, letter by letter. -/
inductive Known : List Char → Prop
  | additive : Known "hundred=add".toList
  | multiplicative : Known "hundred=mult".toList
  | stake (spelling : List Char) (stake : Nat) (spells : SpellsStake spelling stake) :
      Known ("multiplier=".toList ++ spelling)

/-- No plus sign and no zero opens the value of a stake. -/
def PlainStake (text : List Char) : Prop :=
  ∀ letter, "multiplier=".toList ++ [letter] <+: text → letter ≠ '+' ∧ letter ≠ '0'

theorem split?_eq_some_iff {text key value : String} :
    split? text = some (key, value) ↔
      text.toList = key.toList ++ '=' :: value.toList ∧ '=' ∉ key.toList := by
  unfold split?
  constructor
  · intro split
    split at split
    case h_1 letter rest dropped =>
      cases Text.eq_of_dropWhile_ne dropped
      cases split
      simp only [String.toList_ofList]
      rw [← dropped, List.takeWhile_append_dropWhile]
      exact ⟨rfl, Text.not_mem_takeWhile_ne '=' _⟩
    case h_2 => cases split
  · rintro ⟨parts, first⟩
    simp only [parts, Text.dropWhile_ne_append first, Text.takeWhile_ne_append first,
      String.ofList_toList]

theorem hundredRule?_isSome_iff {value : String} :
    (hundredRule? value).isSome ↔ value = "add" ∨ value = "mult" := by
  unfold hundredRule?
  split
  case isTrue named => simp [named]
  case isFalse other => simp [other]

theorem stake?_eq_some_iff {value : String} {stake : Nat} :
    stake? value = some stake ↔ SpellsStake value.toList stake := by
  rw [stake?, Option.filter_eq_some_iff, Text.readNumber_eq_some_iff]
  constructor
  · rintro ⟨⟨-, zeros, unsigned | plus⟩, asked⟩
    · rw [unsigned]
      exact .unsigned zeros stake (by simpa using asked)
    · rw [plus]
      exact .plus zeros stake (by simpa using asked)
  · intro spells
    generalize value.toList = letters at spells
    have small : ∀ stake ∈ sheetStakes, stake ≤ greatestStake := by decide
    cases spells with
    | unsigned zeros stake asked =>
        exact ⟨⟨small stake asked, zeros, .inl rfl⟩, by simpa using asked⟩
    | plus zeros stake asked =>
        exact ⟨⟨small stake asked, zeros, .inr rfl⟩, by simpa using asked⟩

/-- What an option changes in the rules. -/
theorem rulesAfter?_eq_some_iff {rules next : ScoringRules} {text : String} :
    rulesAfter? rules text = some next ↔
      (∃ value hundred, text.toList = "hundred".toList ++ '=' :: value.toList ∧
        hundredRule? value = some hundred ∧ next = { rules with hundred }) ∨
      ∃ value stake, text.toList = "multiplier".toList ++ '=' :: value.toList ∧
        stake? value = some stake ∧ next = { rules with stake } := by
  constructor
  · intro known
    rw [rulesAfter?, Option.bind_eq_bind, Option.bind_eq_some_iff] at known
    obtain ⟨⟨key, value⟩, split, known⟩ := known
    obtain ⟨parts, -⟩ := split?_eq_some_iff.mp split
    simp only at known
    split at known
    case isTrue named =>
      obtain ⟨hundred, read, rfl⟩ := Option.map_eq_some_iff.mp known
      exact .inl ⟨value, hundred, named ▸ parts, read, rfl⟩
    case isFalse =>
      split at known
      case isTrue named =>
        obtain ⟨stake, read, rfl⟩ := Option.map_eq_some_iff.mp known
        exact .inr ⟨value, stake, named ▸ parts, read, rfl⟩
      case isFalse => cases known
  · rintro (⟨value, hundred, parts, read, rfl⟩ | ⟨value, stake, parts, read, rfl⟩)
    · have split := split?_eq_some_iff.mpr ⟨parts, by decide⟩
      simp [rulesAfter?, split, read]
    · have split := split?_eq_some_iff.mpr ⟨parts, by decide⟩
      simp [rulesAfter?, split, read]

theorem isSome_rulesAfter?_iff (rules : ScoringRules) {text : String} :
    (rulesAfter? rules text).isSome ↔ Known text.toList := by
  have multiplier : "multiplier=".toList = "multiplier".toList ++ ['='] := by decide
  simp only [Option.isSome_iff_exists, rulesAfter?_eq_some_iff]
  constructor
  · rintro ⟨next, ⟨value, hundred, parts, read, -⟩ | ⟨value, stake, parts, read, -⟩⟩
    · have named := hundredRule?_isSome_iff.mp (Option.isSome_of_eq_some read)
      rw [parts]
      rcases named with rfl | rfl
      · exact .additive
      · exact .multiplicative
    · have known := Known.stake _ stake (stake?_eq_some_iff.mp read)
      rw [multiplier, List.append_assoc] at known
      rw [parts]
      exact known
  · intro known
    generalize same : text.toList = letters at known
    cases known with
    | additive => exact ⟨_, .inl ⟨"add", .additive, by decide, rfl, rfl⟩⟩
    | multiplicative => exact ⟨_, .inl ⟨"mult", .multiplicative, by decide, rfl, rfl⟩⟩
    | stake spelling stake spells =>
        refine ⟨_, .inr ⟨String.ofList spelling, stake, ?_, stake?_eq_some_iff.mpr ?_, rfl⟩⟩
        · simp [multiplier]
        · simpa using spells

theorem known_of_documented {text : String} (listed : text ∈ documented) : Known text.toList := by
  simp only [documented, List.mem_cons, List.not_mem_nil, or_false] at listed
  rcases listed with rfl | rfl | rfl | rfl | rfl
  · exact .additive
  · exact .multiplicative
  · exact .stake ['1'] 1 (.unsigned 0 1 (by decide))
  · exact .stake ['2'] 2 (.unsigned 0 2 (by decide))
  · exact .stake ['1', '0'] 10 (.unsigned 0 10 (by decide))

theorem documented_of_known {text : String} (known : Known text.toList)
    (plain : PlainStake text.toList) : text ∈ documented := by
  generalize same : text.toList = letters at known plain
  obtain rfl : text = String.ofList letters := by rw [← same, String.ofList_toList]
  cases known with
  | additive => decide
  | multiplicative => decide
  | stake spelling stake spells =>
      cases spells with
      | unsigned zeros stake asked =>
          cases zeros with
          | zero =>
              simp only [sheetStakes, List.mem_cons, List.not_mem_nil, or_false] at asked
              rcases asked with rfl | rfl | rfl <;> decide
          | succ zeros =>
              have opened := plain '0' ⟨List.replicate zeros '0' ++ Text.numeral stake, by
                simp [List.replicate_succ]⟩
              exact absurd rfl opened.2
      | plus zeros stake asked =>
          have opened := plain '+' ⟨List.replicate zeros '0' ++ Text.numeral stake, by simp⟩
          exact absurd rfl opened.1

end Setting

variable {settings : List Setting}

theorem ScoringRules.applySettings_eq_ok_iff {rules : ScoringRules} :
    (∃ next, rules.applySettings settings = .ok next) ↔
      ∀ setting ∈ settings, Setting.Known setting.text.toList := by
  induction settings generalizing rules with
  | nil => simp [applySettings]
  | cons setting settings ih =>
      rw [List.forall_mem_cons, ← Setting.isSome_rulesAfter?_iff rules, applySettings]
      cases step : Setting.rulesAfter? rules setting.text with
      | none => simp
      | some next => simp [ih]

/-- The options of a sheet are accepted exactly when each of them names a hundred rule by its
word or a stake by a numeral that may have a plus sign and superfluous zeros.  Where no value
of a stake starts with either, these are the documented options. -/
theorem ScoringRules.ofSettings_eq_ok_iff (settings : List Setting) :
    ((∃ rules, ofSettings settings = .ok rules) ↔
      ∀ setting ∈ settings, Setting.Known setting.text.toList) ∧
    ((∀ setting ∈ settings, Setting.PlainStake setting.text.toList) →
      ((∃ rules, ofSettings settings = .ok rules) ↔
        ∀ setting ∈ settings, setting.text ∈ Setting.documented)) := by
  have accepted : (∃ rules, ofSettings settings = .ok rules) ↔
      ∀ setting ∈ settings, Setting.Known setting.text.toList := applySettings_eq_ok_iff
  refine ⟨accepted, fun plain => accepted.trans ⟨?_, ?_⟩⟩
  · intro known setting member
    exact Setting.documented_of_known (known setting member) (plain setting member)
  · intro listed setting member
    exact Setting.known_of_documented (listed setting member)

theorem ScoringRules.ofSettings_eq_ok_iff_twoOptions :
    (∃ rules, ofSettings [⟨"hundred=add", 8⟩, ⟨"multiplier=10", 20⟩] = .ok rules) ∧
      ¬∃ rules, ofSettings [⟨"hundred=add", 8⟩, ⟨"multiplier=5", 20⟩] = .ok rules := by
  constructor
  · rw [(ofSettings_eq_ok_iff _).2 (by simp [Setting.PlainStake])]
    decide
  · rw [(ofSettings_eq_ok_iff _).2 (by simp [Setting.PlainStake])]
    decide

/-- A stake with a superfluous zero is accepted, although no documented option is spelled
like that. -/
theorem ScoringRules.ofSettings_undocumented :
    ¬∀ settings, (∃ rules, ofSettings settings = .ok rules) ↔
      ∀ setting ∈ settings, setting.text ∈ Setting.documented := by
  intro documentedOnly
  have listed := (documentedOnly [⟨"multiplier=02", 8⟩]).mp ⟨{ stake := 2 }, rfl⟩
  exact absurd listed (by decide)

end TrickLedger
