import TrickLedger.Balance.Stake
import TrickLedger.Proofs.Balance.Faults

/-!
# Stakes are units

The ceiling of a play grows with the stake, so a play that is held within it is worth as many
times more as the stake is greater.  As long as amounts have room, the same follows for every
total, every share and every balance, and neither the groups that settle nor the order of the
standings depend on the stake.
-/

namespace TrickLedger

open Money

theorem sum_map_mul {α : Type} {items : List α} {factor : Int} {first second : α → Int}
    (scaled : ∀ item ∈ items, second item = factor * first item) :
    (items.map second).sum = factor * (items.map first).sum := by
  rw [List.map_congr_left scaled, List.sum_map_mul_left]

theorem findSome?_eq_map {α β : Type} {items : List α} {change : β → β}
    {first second : α → Option β}
    (changed : ∀ item ∈ items, second item = (first item).map change) :
    items.findSome? second = (items.findSome? first).map change := by
  rw [List.map_findSome?, ← List.head?_filterMap, ← List.head?_filterMap]
  exact congrArg List.head? (List.filterMap_congr changed)

/-! ### Tables -/

namespace Table

/-- The second table differs from the first one in its stake only, which is that of the first
one times a factor. -/
structure Restaked (factor : Nat) (first second : Table) : Prop where
  players : second.players = first.players
  hundred : second.rules.hundred = first.rules.hundred
  stake : second.rules.stake = factor * first.rules.stake

namespace Restaked

variable {factor : Nat} {first second : Table}

section Exact

variable (restaked : Restaked factor first second) (side : Side)

include restaked

theorem exactCeiling_eq : second.exactCeiling side = factor * first.exactCeiling side := by
  cases side <;> simp only [exactCeiling, restaked.players, restaked.stake] <;> push_cast <;> ring

theorem exactCommitmentValue_eq (commitment : Commitment) :
    second.exactCommitmentValue side commitment = first.exactCommitmentValue side commitment := by
  simp only [exactCommitmentValue, restaked.players, restaked.hundred]

theorem exactPlayValue_eq (play : Play) :
    second.exactPlayValue play side = factor * first.exactPlayValue play side := by
  unfold exactPlayValue
  rw [← clampTo_mul (Int.natCast_nonneg factor), ← restaked.exactCeiling_eq, restaked.stake,
    restaked.exactCommitmentValue_eq, restaked.exactCommitmentValue_eq]
  congr 1
  push_cast
  ring

end Exact

theorem hasRoom (restaked : Restaked factor first second) (positive : 0 < factor)
    (room : second.HasRoom) : first.HasRoom := by
  have twice (table : Table) : table.HasRoom ↔ 2 * table.exactCeiling .own ≤ greatest := by
    unfold HasRoom exactCeiling
    rw [mul_assoc, mul_assoc, mul_assoc]
  have grown : first.exactCeiling .own ≤ second.exactCeiling .own := by
    rw [restaked.exactCeiling_eq]
    exact le_mul_of_one_le_left (first.exactCeiling_nonneg .own) (by exact_mod_cast positive)
  rw [twice] at room ⊢
  omega

theorem writtenValue_eq (restaked : Restaked factor first second) (positive : 0 < factor)
    (room : second.HasRoom) (side : Side) (written : WrittenPlay) :
    second.writtenValue side written = factor * first.writtenValue side written := by
  cases read : Play.ofCode written.code with
  | error fault => simp [writtenValue, read]
  | ok play =>
      have wellFormed := Play.wellFormed_of_ofCode read
      rw [writtenValue_of_read read, writtenValue_of_read read,
        playValue_eq_exactPlayValue room wellFormed,
        playValue_eq_exactPlayValue (restaked.hasRoom positive room) wellFormed]
      exact restaked.exactPlayValue_eq side play

end Restaked

end Table

/-! ### Groups -/

namespace Group

variable {group : Group} {rules : ScoringRules} {stake : Nat} {name : String}

theorem ceiling_withStake_one_le (sound : group.Sound) (positive : 0 < stake) :
    group.ceiling (rules.withStake 1) ≤ group.ceiling (rules.withStake stake) := by
  have nonneg : 0 ≤ group.ceiling (rules.withStake 1) := ceiling_nonneg sound
  have scaled : group.ceiling (rules.withStake stake) =
      stake * group.ceiling (rules.withStake 1) := by
    simp only [ceiling, ScoringRules.withStake]
    push_cast
    ring
  rw [scaled]
  exact le_mul_of_one_le_left nonneg (by exact_mod_cast positive)

/-- The table of a group that can be scored, with another stake. -/
def Sound.seatingWith (sound : group.Sound) (rules : ScoringRules) (positive : 0 < stake) : Table :=
  ⟨group.size, rules.withStake stake, sound.enough, positive⟩

theorem Sound.restaked (sound : group.Sound) (rules : ScoringRules) (positive : 0 < stake) :
    Table.Restaked stake (sound.seatingWith rules Nat.one_pos)
      (sound.seatingWith rules positive) where
  players := rfl
  hundred := rfl
  stake := (mul_one stake).symm

section Sound

variable (sound : group.Sound) (positive : 0 < stake)
  (room : group.ceiling (rules.withStake stake) ≤ greatest)

include sound positive room

theorem sumFor_withStake (viewer : String) :
    group.sumFor (sound.seatingWith rules positive).writtenValue viewer =
      stake * group.sumFor (sound.seatingWith rules Nat.one_pos).writtenValue viewer := by
  have tableRoom : (sound.seatingWith rules positive).HasRoomFor group := room
  apply sum_map_mul
  intro member seated
  apply sum_map_mul
  intro written made
  exact (sound.restaked rules positive).writtenValue_eq positive
    (tableRoom.hasRoom (playCount_pos seated made)) _ written

theorem sumForAll_withStake :
    group.sumForAll (sound.seatingWith rules positive).writtenValue =
      stake * group.sumForAll (sound.seatingWith rules Nat.one_pos).writtenValue :=
  sum_map_mul fun viewer _ => sumFor_withStake sound positive room viewer.name

/-- The total that a group is refused with counts in the stake. -/
theorem unsettled?_withStake :
    group.unsettled? (rules.withStake stake) =
      (group.unsettled? (rules.withStake 1)).map (BalanceFault.times stake) := by
  let total := group.sumForAll (sound.seatingWith rules Nat.one_pos).writtenValue
  have single : group.settle (rules.withStake 1) =
      if total = 0 then .ok () else .error (.doesNotSettle total) :=
    settle_of_sound sound Nat.one_pos ((ceiling_withStake_one_le sound positive).trans room)
  have scaled : group.settle (rules.withStake stake) =
      if (stake * total : Int) = 0 then .ok () else .error (.doesNotSettle (stake * total)) := by
    rw [← sumForAll_withStake sound positive room]
    exact settle_of_sound sound positive room
  have nonzero : (stake : Int) ≠ 0 := by omega
  rw [unsettled?, unsettled?, single, scaled]
  by_cases zero : total = 0
  · simp [zero]
  · rw [if_neg zero, if_neg (mul_ne_zero nonzero zero)]
    rfl

theorem settle_withStake_iff :
    group.settle (rules.withStake stake) = .ok () ↔ group.settle (rules.withStake 1) = .ok () := by
  rw [← unsettled?_eq_none_iff, ← unsettled?_eq_none_iff, unsettled?_withStake sound positive room,
    Option.map_eq_none_iff]

theorem share_withStake (settled : group.settle (rules.withStake 1) = .ok ()) :
    group.share (rules.withStake stake) name = stake * group.share (rules.withStake 1) name := by
  have settledToo := (settle_withStake_iff sound positive room).mpr settled
  rw [share_of_settle sound positive room settledToo, share_of_settle sound Nat.one_pos
    ((ceiling_withStake_one_le sound positive).trans room) settled, mul_ite, mul_zero]
  split
  case isTrue => exact sumFor_withStake sound positive room name
  case isFalse => rfl

end Sound

end Group

/-! ### Sheets -/

namespace Sheet

variable {sheet : Sheet} {stake : Nat} {name : String}

theorem ceiling_withStake_one_le (sound : ∀ group ∈ sheet.groups, group.Sound)
    (positive : 0 < stake) : (sheet.withStake 1).ceiling ≤ (sheet.withStake stake).ceiling :=
  List.sum_le_sum fun group made => Group.ceiling_withStake_one_le (sound group made) positive

section Fits

variable (fits : (sheet.withStake stake).Fits)

include fits

theorem Fits.withStake_one : (sheet.withStake 1).Fits where
  staked := Nat.one_pos
  sound := fits.sound
  room := (ceiling_withStake_one_le fits.sound fits.staked).trans fits.room

theorem unsettled?_withStake :
    (sheet.withStake stake).unsettled? =
      (sheet.withStake 1).unsettled?.map (BalanceFault.times stake) :=
  findSome?_eq_map fun group made =>
    Group.unsettled?_withStake (fits.sound group made) fits.staked (fits.groupRoom made)

theorem settles_withStake_iff : (sheet.withStake stake).Settles ↔ (sheet.withStake 1).Settles := by
  rw [← unsettled?_eq_none_iff, ← unsettled?_eq_none_iff, unsettled?_withStake fits,
    Option.map_eq_none_iff]

theorem share_withStake (settles : (sheet.withStake 1).Settles) :
    (sheet.withStake stake).share name = stake * (sheet.withStake 1).share name := by
  rw [share_eq, share_eq]
  apply sum_map_mul
  intro group made
  exact Group.share_withStake (fits.sound group made) fits.staked (fits.groupRoom made)
    (settles group made)

end Fits

end Sheet

/-! ### Seasons -/

theorem Standing.comesBefore_times {stake : Nat} (positive : 0 < stake)
    (first second : Standing) :
    (first.times stake).comesBefore (second.times stake) = first.comesBefore second := by
  have factor : 0 < (stake : Int) := by omega
  rw [Bool.eq_iff_iff, comesBefore_iff, comesBefore_iff]
  simp only [times, mul_right_inj' factor.ne', mul_lt_mul_iff_of_pos_left factor]

section Season

variable {season : List Sheet} {stake : Nat}

theorem FitsSeason.scorable (fits : FitsSeason season) : ∀ sheet ∈ season, sheet.Scorable :=
  fun sheet recorded => ⟨fits.staked sheet recorded, fits.sound sheet recorded⟩

section Fits

variable (fits : FitsSeason (season.map (Sheet.withStake stake)))

include fits

theorem FitsSeason.withStake_one (positive : 0 < stake) :
    FitsSeason (season.map (Sheet.withStake 1)) where
  staked := List.forall_mem_map.mpr fun _ _ => Nat.one_pos
  sound := List.forall_mem_map.mpr (List.forall_mem_map.mp fits.sound)
  room := by
    refine le_trans ?_ fits.room
    rw [List.map_map, List.map_map]
    apply List.sum_le_sum
    intro sheet recorded
    exact Sheet.ceiling_withStake_one_le (List.forall_mem_map.mp fits.sound sheet recorded) positive

theorem findSome?_unsettled?_withStake :
    (season.map (Sheet.withStake stake)).findSome? Sheet.unsettled? =
      ((season.map (Sheet.withStake 1)).findSome? Sheet.unsettled?).map
        (BalanceFault.times stake) := by
  rw [List.findSome?_map, List.findSome?_map]
  exact findSome?_eq_map fun sheet recorded =>
    Sheet.unsettled?_withStake (fits.fitsSheet (List.mem_map_of_mem recorded))

/-- The leaderboard has the same fault with every stake, but for the unit of its total. -/
theorem faultOf?_leaderboard_withStake (positive : 0 < stake) :
    faultOf? (leaderboard (season.map (Sheet.withStake stake))) =
      (faultOf? (leaderboard (season.map (Sheet.withStake 1)))).map (BalanceFault.times stake) := by
  rw [faultOf?_leaderboard_of_scorable fits.scorable,
    faultOf?_leaderboard_of_scorable (fits.withStake_one positive).scorable,
    findSome?_unsettled?_withStake fits]

theorem standingsOver_withStake (positive : 0 < stake)
    (settle : ∀ sheet ∈ season.map (Sheet.withStake stake), sheet.Settles)
    (settleOne : ∀ sheet ∈ season.map (Sheet.withStake 1), sheet.Settles) :
    standingsOver (season.map (Sheet.withStake stake)) =
      (standingsOver (season.map (Sheet.withStake 1))).map (Standing.times stake) := by
  rw [standingsOver_eq fits settle, standingsOver_eq (fits.withStake_one positive) settleOne,
    List.map_map, names_appearancesOver, names_appearancesOver, List.flatMap_map, List.flatMap_map]
  apply List.map_congr_left
  intro name _
  have balance : ((season.map (Sheet.withStake stake)).map fun sheet => sheet.share name).sum =
      stake * ((season.map (Sheet.withStake 1)).map fun sheet => sheet.share name).sum := by
    rw [List.map_map, List.map_map]
    exact sum_map_mul fun sheet recorded =>
      Sheet.share_withStake (fits.fitsSheet (List.mem_map_of_mem recorded))
        (List.forall_mem_map.mp settleOne sheet recorded)
  rw [Function.comp_apply, Standing.times, balance, List.countP_map, List.countP_map]
  rfl

theorem leaderboard_withStake_of_ranked (positive : 0 < stake) {standings : List Standing}
    (ranked : leaderboard (season.map (Sheet.withStake 1)) = .ok standings) :
    leaderboard (season.map (Sheet.withStake stake)) =
      .ok (standings.map (Standing.times stake)) := by
  obtain ⟨settleOne, rfl⟩ := (leaderboard_eq_ok_iff (fits.withStake_one positive)).mp ranked
  have settle : ∀ sheet ∈ season.map (Sheet.withStake stake), sheet.Settles := by
    rw [List.forall_mem_map] at settleOne ⊢
    intro sheet recorded
    exact (Sheet.settles_withStake_iff (fits.fitsSheet (List.mem_map_of_mem recorded))).mpr
      (settleOne sheet recorded)
  refine (leaderboard_eq_ok_iff fits).mpr ⟨settle, ?_⟩
  rw [standingsOver_withStake fits positive settle settleOne]
  symm
  apply List.map_mergeSort
  intro first _ second _
  exact (Standing.comesBefore_times positive first second).symm

end Fits

/-- Changing the stake only changes the unit: with any stake the same seasons are refused, with
the total times the stake, and the standings are those with a stake of one, in the same order
and with every balance times the stake. -/
theorem leaderboard_withStake (season : List Sheet) (stake : Nat)
    (accepted : ∀ sheet ∈ season, sheet.Accepted) (positive : 0 < stake)
    (room : ((season.map (Sheet.withStake stake)).map Sheet.ceiling).sum ≤ 2 ^ 63 - 1) :
    ((∃ standings, leaderboard (season.map (Sheet.withStake 1)) = .ok standings) ↔
      ∃ standings, leaderboard (season.map (Sheet.withStake stake)) = .ok standings) ∧
    (∀ standings, leaderboard (season.map (Sheet.withStake 1)) = .ok standings →
      leaderboard (season.map (Sheet.withStake stake)) =
        .ok (standings.map (Standing.times stake))) ∧
    ∀ total, leaderboard (season.map (Sheet.withStake 1)) = .error (.doesNotSettle total) →
      leaderboard (season.map (Sheet.withStake stake)) =
        .error (.doesNotSettle (stake * total)) := by
  have fits : FitsSeason (season.map (Sheet.withStake stake)) :=
    ⟨List.forall_mem_map.mpr fun _ _ => positive,
      List.forall_mem_map.mpr fun sheet recorded => (accepted sheet recorded).sound, room⟩
  have faults := faultOf?_leaderboard_withStake fits positive
  refine ⟨?_, fun standings ranked => leaderboard_withStake_of_ranked fits positive ranked,
    fun total refused => ?_⟩
  · rw [← faultOf?_eq_none_iff, ← faultOf?_eq_none_iff, faults, Option.map_eq_none_iff]
  · rw [refused, faultOf?_error] at faults
    exact faultOf?_eq_some_iff.mp faults

end Season

/-- Seven times the stake: the first two evenings settle, and the other one does not. -/
theorem leaderboard_withStake_sevenfold :
    leaderboard ([firstEvening, secondEvening].map (Sheet.withStake 7)) =
        .ok [⟨"Franta", 1470, 2⟩, ⟨"Pepa", 420, 2⟩, ⟨"Eva", -70, 1⟩, ⟨"Jarda", -1820, 2⟩] ∧
      leaderboard ([firstEvening, unsettledEvening].map (Sheet.withStake 7)) =
        .error (.doesNotSettle (-1050)) := by
  constructor
  · obtain ⟨-, ranked, -⟩ := leaderboard_withStake [firstEvening, secondEvening] 7
      accepted_twoEvenings (by decide) (by decide)
    exact ranked [⟨"Franta", 210, 2⟩, ⟨"Pepa", 60, 2⟩, ⟨"Eva", -10, 1⟩, ⟨"Jarda", -260, 2⟩] (by cbv)
  · obtain ⟨-, -, refused⟩ := leaderboard_withStake [firstEvening, unsettledEvening] 7
      accepted_unsettledEvening (by decide) (by decide)
    exact refused (-150) (by cbv)

end TrickLedger
