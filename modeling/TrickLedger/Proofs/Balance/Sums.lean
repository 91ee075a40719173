import Mathlib.Algebra.BigOperators.Group.Multiset.Basic
import Mathlib.Algebra.Order.BigOperators.Group.List
import Mathlib.Data.List.Count
import Mathlib.Tactic.Ring
import TrickLedger.Balance.Group
import TrickLedger.Proofs.Outcome
import TrickLedger.Proofs.Saturation

/-!
# Exact sums

Adding up amounts one after another is exact as long as their bounds add up to an
amount.  The plays of a group can be added up for each viewer in turn or play by
play: every play is seen once from its own side and by all others as opponents.
-/

namespace TrickLedger

open Money

section SumAmounts

variable {α : Type} {amount : α → Except BalanceFault Int} {exact bound : α → Int} {items : List α}

theorem within_sum (within : ∀ item ∈ items, Within (bound item) (exact item)) :
    Within (items.map bound).sum (items.map exact).sum := by
  induction items with
  | nil => exact ⟨le_rfl, le_rfl⟩
  | cons item items ih =>
      simp only [List.map_cons, List.sum_cons]
      exact (within item (.head _)).add (ih fun other member => within other (.tail _ member))

theorem sum_bound_nonneg (within : ∀ item ∈ items, Within (bound item) (exact item)) :
    0 ≤ (items.map bound).sum := by
  obtain ⟨lower, upper⟩ := within_sum within
  omega

theorem le_sum_of_mem (within : ∀ item ∈ items, Within (bound item) (exact item)) {item : α}
    (member : item ∈ items) : bound item ≤ (items.map bound).sum := by
  have single := (List.singleton_sublist.mpr (List.mem_map_of_mem (f := bound) member)).sum_le_sum
    (by
      intro share shared
      obtain ⟨other, otherMember, rfl⟩ := List.mem_map.mp shared
      have := within other otherMember
      unfold Within at this
      omega)
  rwa [List.sum_singleton] at single

/-- The running total never leaves the bounds of money when the bounds of all
amounts do not add up to more. -/
theorem foldlM_add_eq {start startBound : Int} (startWithin : Within startBound start)
    (amounts : ∀ item ∈ items, amount item = .ok (exact item))
    (within : ∀ item ∈ items, Within (bound item) (exact item))
    (room : startBound + (items.map bound).sum ≤ greatest) :
    (items.foldlM (fun total item => do
      let next ← amount item
      .ok (Money.add total next)) start : Except BalanceFault Int) =
      .ok (start + (items.map exact).sum) := by
  -- The bound of the total grows with the total, so that the next sum is never saturated.
  induction items generalizing start startBound with
  | nil => simp [pure, Except.pure]
  | cons item items ih =>
      rw [List.forall_mem_cons] at amounts within
      simp only [List.map_cons, List.sum_cons] at room ⊢
      have nextWithin := startWithin.add within.1
      have nonneg := sum_bound_nonneg within.2
      have next : Money.add start (exact item) = start + exact item :=
        saturate_of_within (nextWithin.mono (by omega))
      rw [List.foldlM_cons, amounts.1, ok_bind, ok_bind, next,
        ih nextWithin amounts.2 within.2 (by omega), add_assoc]

theorem sumAmounts_eq (amounts : ∀ item ∈ items, amount item = .ok (exact item))
    (within : ∀ item ∈ items, Within (bound item) (exact item))
    (room : (items.map bound).sum ≤ greatest) :
    sumAmounts amount items = .ok (items.map exact).sum := by
  have start : Within 0 0 := ⟨le_rfl, le_rfl⟩
  have fold := foldlM_add_eq start amounts within (by omega)
  rwa [zero_add] at fold

end SumAmounts

/-- On which side of a player's plays `viewer` stands. -/
def Member.sideFor (member : Member) (viewer : String) : Side :=
  if member.name = viewer then .own else .opponent

/-- What the plays of a player come to for `viewer`. -/
def Member.sumFor (amount : Side → WrittenPlay → Int) (viewer : String) (member : Member) : Int :=
  (member.plays.map (amount (member.sideFor viewer))).sum

namespace Group

/-- What the plays of a group come to for `viewer`. -/
def sumFor (amount : Side → WrittenPlay → Int) (viewer : String) (group : Group) : Int :=
  (group.members.map (Member.sumFor amount viewer)).sum

/-- What the plays of a group come to for all of its players together. -/
def sumForAll (amount : Side → WrittenPlay → Int) (group : Group) : Int :=
  (group.members.map fun viewer => group.sumFor amount viewer.name).sum

/-- The sum over all plays of a group. -/
def sumOfPlays (amount : WrittenPlay → Int) (group : Group) : Int :=
  ((group.members.flatMap Member.plays).map amount).sum

/-- What a play comes to for all players together: once on its own side and as often
as there are opponents on theirs. -/
def forEveryone (group : Group) (amount : Side → WrittenPlay → Int) (play : WrittenPlay) : Int :=
  amount .own play + ((group.size : Int) - 1) * amount .opponent play

variable {group : Group} {amount : Side → WrittenPlay → Int} {share : WrittenPlay → Int}

theorem sum_side_eq (distinct : (group.members.map Member.name).Nodup) {member : Member}
    (seated : member ∈ group.members) (share : Side → Int) :
    (group.members.map fun viewer => share (member.sideFor viewer.name)).sum =
      share .own + ((group.size : Int) - 1) * share .opponent := by
  have once : (group.members.map Member.name).count member.name = 1 :=
    List.count_eq_one_of_mem distinct (List.mem_map_of_mem seated)
  have split := List.sum_map_ite_eq (group.members.map Member.name)
    (fun _ => share .own) (fun _ => share .opponent) member.name
  rw [once] at split
  have sides : (fun viewer : Member => share (member.sideFor viewer.name)) =
      (fun name => if name = member.name then share .own else share .opponent) ∘ Member.name := by
    funext viewer
    by_cases same : viewer.name = member.name
    · simp [Member.sideFor, same]
    · simp [Member.sideFor, same, Ne.symm same]
  rw [sides, ← List.map_map, split, List.map_const', List.sum_replicate, List.length_map]
  simp only [Group.size, nsmul_eq_mul]
  ring

theorem sumOfPlays_eq (group : Group) (amount : WrittenPlay → Int) :
    group.sumOfPlays amount =
      (group.members.map fun member => (member.plays.map amount).sum).sum := by
  rw [sumOfPlays, List.map_flatMap, List.flatMap_def, List.sum_flatten, List.map_map]
  rfl

theorem sum_map_sum_comm {α β : Type} (first : List α) (second : List β) (share : α → β → Int) :
    (first.map fun left => (second.map fun right => share left right).sum).sum =
      (second.map fun right => (first.map fun left => share left right).sum).sum := by
  have swapped := Multiset.sum_map_sum_map (first : Multiset α) (second : Multiset β) (f := share)
  simpa only [Multiset.map_coe, Multiset.sum_coe] using swapped

/-- Adding up for each player in turn comes to the same as adding up play by play. -/
theorem sumForAll_eq (distinct : (group.members.map Member.name).Nodup) :
    group.sumForAll amount = group.sumOfPlays (group.forEveryone amount) := by
  calc
    group.sumForAll amount
        = (group.members.map fun member =>
            (group.members.map fun viewer =>
              (member.plays.map (amount (member.sideFor viewer.name))).sum).sum).sum :=
          sum_map_sum_comm _ _ _
    _ = (group.members.map fun member =>
            (member.plays.map fun play =>
              (group.members.map fun viewer =>
                amount (member.sideFor viewer.name) play).sum).sum).sum := by
          apply congrArg List.sum
          apply List.map_congr_left
          exact fun member _ => sum_map_sum_comm _ _ _
    _ = group.sumOfPlays (group.forEveryone amount) := by
          rw [sumOfPlays_eq]
          apply congrArg List.sum
          apply List.map_congr_left
          intro member seated
          apply congrArg List.sum
          apply List.map_congr_left
          intro play _
          exact sum_side_eq distinct seated fun side => amount side play

theorem sumOfPlays_const (group : Group) (share : Int) :
    group.sumOfPlays (fun _ => share) = group.playCount * share := by
  rw [sumOfPlays, List.map_const', List.sum_replicate, nsmul_eq_mul]
  rfl

theorem sumOfPlays_eq_zero
    (zero : ∀ member ∈ group.members, ∀ written ∈ member.plays, share written = 0) :
    group.sumOfPlays share = 0 := by
  apply List.sum_eq_zero
  intro value valued
  obtain ⟨written, made, rfl⟩ := List.mem_map.mp valued
  obtain ⟨member, seated, memberMade⟩ := List.mem_flatMap.mp made
  exact zero member seated written memberMade

theorem playCount_pos {member : Member} {written : WrittenPlay} (seated : member ∈ group.members)
    (made : written ∈ member.plays) : 0 < group.playCount :=
  List.length_pos_of_mem (List.mem_flatMap_of_mem seated made)

end Group

end TrickLedger
