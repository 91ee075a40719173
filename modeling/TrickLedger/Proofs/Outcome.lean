import Mathlib.Data.List.Forall2

/-!
# Outcomes in sequence

A sequence of steps that can fail succeeds when each of its steps does, and fails with the
first one that does not.
-/

namespace TrickLedger

@[simp]
theorem ok_bind {ε α β : Type} (value : α) (next : α → Except ε β) :
    ((Except.ok value : Except ε α) >>= next) = next value :=
  rfl

theorem bind_eq_ok_iff {ε α β : Type} {first : Except ε α} {next : α → Except ε β}
    {result : β} :
    (first >>= next) = .ok result ↔
      ∃ value, first = .ok value ∧ next value = .ok result := by
  cases first with
  | error fault => simp [bind, Except.bind]
  | ok value => simp

theorem bind_eq_error_iff {ε α β : Type} {first : Except ε α} {next : α → Except ε β}
    {fault : ε} :
    (first >>= next) = .error fault ↔
      first = .error fault ∨ ∃ value, first = .ok value ∧ next value = .error fault := by
  cases first with
  | error other => simp [bind, Except.bind]
  | ok value => simp

theorem mapM_eq_ok_iff {ε α β : Type} {step : α → Except ε β} {items : List α}
    {results : List β} :
    items.mapM step = .ok results ↔
      List.Forall₂ (fun item result => step item = .ok result) items results := by
  induction items generalizing results with
  | nil =>
      rw [List.mapM_nil, List.forall₂_nil_left_iff]
      exact ⟨fun same => (Except.ok.inj same).symm, fun none => congrArg Except.ok none.symm⟩
  | cons item items ih =>
      rw [List.mapM_cons, List.forall₂_cons_left_iff, bind_eq_ok_iff]
      constructor
      · rintro ⟨value, first, rest⟩
        obtain ⟨values, others, same⟩ := bind_eq_ok_iff.mp rest
        cases same
        exact ⟨value, values, first, ih.mp others, rfl⟩
      · rintro ⟨value, values, first, others, rfl⟩
        exact ⟨value, first, bind_eq_ok_iff.mpr ⟨values, ih.mpr others, rfl⟩⟩

theorem mapM_eq_ok {ε α β : Type} {step : α → Except ε β} {result : α → β} {items : List α}
    (each : ∀ item ∈ items, step item = .ok (result item)) :
    items.mapM step = .ok (items.map result) :=
  mapM_eq_ok_iff.mpr (List.forall₂_map_right_iff.mpr (List.forall₂_same.mpr each))

/-- A sequence of steps fails with the first one that does. -/
theorem mapM_eq_error_iff {ε α β : Type} {step : α → Except ε β} {items : List α} {fault : ε} :
    items.mapM step = .error fault ↔
      ∃ before item after, items = before ++ item :: after ∧
        (∀ earlier ∈ before, ∃ value, step earlier = .ok value) ∧ step item = .error fault := by
  induction items with
  | nil => simp [pure, Except.pure]
  | cons first items ih =>
      rw [List.mapM_cons, bind_eq_error_iff]
      constructor
      · rintro (failed | ⟨value, made, failed⟩)
        · exact ⟨[], first, items, rfl, by simp, failed⟩
        · rcases bind_eq_error_iff.mp failed with rest | ⟨values, -, added⟩
          · obtain ⟨before, item, after, rfl, madeBefore, failed⟩ := ih.mp rest
            exact ⟨first :: before, item, after, rfl,
              List.forall_mem_cons.mpr ⟨⟨value, made⟩, madeBefore⟩, failed⟩
          · cases added
      · rintro ⟨before, item, after, parts, madeBefore, failed⟩
        cases before with
        | nil =>
            obtain ⟨rfl, rfl⟩ := List.cons.inj parts
            exact .inl failed
        | cons earlier before =>
            obtain ⟨rfl, rfl⟩ := List.cons.inj parts
            obtain ⟨⟨value, made⟩, madeBefore⟩ := List.forall_mem_cons.mp madeBefore
            exact .inr ⟨value, made, bind_eq_error_iff.mpr
              (.inl (ih.mpr ⟨before, item, after, rfl, madeBefore, failed⟩))⟩

section Fold

variable {ε α β : Type} {step : β → α → Except ε β} {items : List α}

/-- A fold that succeeds has a successful step at every item. -/
theorem exists_step_of_foldlM_eq_ok {start result : β}
    (ran : items.foldlM step start = .ok result) :
    ∀ item ∈ items, ∃ state next, step state item = .ok next := by
  induction items generalizing start with
  | nil => simp
  | cons item items ih =>
      rw [List.foldlM_cons] at ran
      obtain ⟨next, first, rest⟩ := bind_eq_ok_iff.mp ran
      rw [List.forall_mem_cons]
      exact ⟨⟨start, next, first⟩, ih rest⟩

theorem foldlM_eq_ok {next : β → α → β}
    (each : ∀ state, ∀ item ∈ items, step state item = .ok (next state item)) (start : β) :
    items.foldlM step start = .ok (items.foldl next start) := by
  induction items generalizing start with
  | nil => rfl
  | cons item items ih =>
      rw [List.foldlM_cons, each start item (.head items), ok_bind, List.foldl_cons]
      exact ih (fun state other made => each state other (.tail item made)) _

end Fold

/-! ### The first fault -/

section Fault

variable {ε α β : Type}

/-- The fault of an outcome that is one. -/
def faultOf? : Except ε α → Option ε
  | .ok _ => none
  | .error fault => some fault

@[simp]
theorem faultOf?_ok (value : α) : faultOf? (.ok value : Except ε α) = none :=
  rfl

@[simp]
theorem faultOf?_error (fault : ε) : faultOf? (.error fault : Except ε α) = some fault :=
  rfl

theorem faultOf?_eq_none_iff {outcome : Except ε α} :
    faultOf? outcome = none ↔ ∃ value, outcome = .ok value := by
  cases outcome <;> simp

theorem faultOf?_eq_some_iff {outcome : Except ε α} {fault : ε} :
    faultOf? outcome = some fault ↔ outcome = .error fault := by
  cases outcome <;> simp

/-- What cannot fail adds no fault to what comes before it. -/
theorem faultOf?_bind {first : Except ε α} {next : α → Except ε β}
    (faultless : ∀ value, first = .ok value → faultOf? (next value) = none) :
    faultOf? (first >>= next) = faultOf? first := by
  cases first with
  | error fault => rfl
  | ok value => exact faultless value rfl

variable {items : List α}

/-- If the fault of a step depends on the item only, a fold has the fault of the first item
that has one. -/
theorem faultOf?_foldlM {step : β → α → Except ε β} {failure : α → Option ε}
    (each : ∀ state, ∀ item ∈ items, faultOf? (step state item) = failure item) (start : β) :
    faultOf? (items.foldlM step start) = items.findSome? failure := by
  induction items generalizing start with
  | nil => rfl
  | cons item items ih =>
      have here := each start item (.head items)
      rw [List.foldlM_cons, List.findSome?_cons, ← here]
      cases step start item with
      | error fault => rfl
      | ok next => exact ih (fun state other made => each state other (.tail item made)) next

theorem faultOf?_mapM {step : α → Except ε β}
    (each : ∀ item ∈ items, faultOf? (step item) = none) :
    faultOf? (items.mapM step) = none := by
  induction items with
  | nil => rfl
  | cons item items ih =>
      rw [List.forall_mem_cons] at each
      obtain ⟨value, found⟩ := faultOf?_eq_none_iff.mp each.1
      rw [List.mapM_cons, found, ok_bind, faultOf?_bind fun _ _ => rfl, ih each.2]

end Fault

end TrickLedger
