import TrickLedger.Balance.Rearrangement
import TrickLedger.Proofs.Balance.Season

/-!
# The leaderboard of a rearranged season

Groups, players and plays are only ever added up, and a rearrangement leaves each of the
sums as it is.  The standings are the same up to their order, and the leaderboard puts
them in an order of its own.
-/

namespace TrickLedger

open Money

namespace AnyOrder

variable {α β : Type} {corresponds : α → α → Prop} {first second : List α}

/-- Values that agree on corresponding items are the same ones in some order. -/
theorem map_perm (arranged : AnyOrder corresponds first second) {left right : α → β}
    (agree : ∀ item ∈ first, ∀ other, corresponds item other → left item = right other) :
    (first.map left).Perm (second.map right) := by
  obtain ⟨shuffled, shuffle, matched⟩ := arranged
  have paired : List.Forall₂ (fun item other => item ∈ first ∧ corresponds item other)
      shuffled second :=
    (List.forall₂_and_left _ _).mpr ⟨fun item => shuffle.mem_iff.mpr, matched⟩
  have equal : List.Forall₂ (· = ·) (shuffled.map left) (second.map right) := by
    rw [List.forall₂_map_left_iff, List.forall₂_map_right_iff]
    exact paired.imp fun item other pair => agree item pair.1 other pair.2
  rw [List.forall₂_eq_eq_eq] at equal
  exact equal ▸ shuffle.map left

theorem sum_eq (arranged : AnyOrder corresponds first second) {left right : α → Int}
    (agree : ∀ item ∈ first, ∀ other, corresponds item other → left item = right other) :
    (first.map left).sum = (second.map right).sum :=
  (arranged.map_perm agree).sum_eq

theorem forall_iff (arranged : AnyOrder corresponds first second) {left right : α → Prop}
    (agree : ∀ item ∈ first, ∀ other, corresponds item other → (left item ↔ right other)) :
    (∀ item ∈ first, left item) ↔ ∀ item ∈ second, right item := by
  have facts : (first.map left).Perm (second.map right) :=
    arranged.map_perm fun item member other pair => propext (agree item member other pair)
  calc
    (∀ item ∈ first, left item)
        ↔ ∀ fact ∈ first.map left, fact := (List.forall_mem_map (P := id)).symm
    _ ↔ ∀ fact ∈ second.map right, fact :=
        forall_congr' fun _ => imp_congr_left facts.mem_iff
    _ ↔ ∀ item ∈ second, right item := List.forall_mem_map (P := id)

end AnyOrder

/-! ### Players and groups -/

namespace Member.Rearranged

variable {first second : Member}

theorem sumFor_eq (rearranged : first.Rearranged second) (table : Table) (viewer : String) :
    first.sumFor table.writtenValue viewer = second.sumFor table.writtenValue viewer := by
  -- The value of a play depends on its code only.
  have values (member : Member) (side : Side) :
      member.plays.map (table.writtenValue side) =
        (member.plays.map WrittenPlay.code).map fun code => table.writtenValue side ⟨code, 0⟩ := by
    rw [List.map_map]
    rfl
  rw [Member.sumFor, Member.sumFor, sideFor, sideFor, rearranged.name, values, values]
  exact (rearranged.codes.map _).sum_eq

theorem readable_iff (rearranged : first.Rearranged second) :
    first.Readable ↔ second.Readable := by
  have codes (member : Member) : member.Readable ↔
      ∀ code ∈ member.plays.map WrittenPlay.code, ∃ play, Play.ofCode code = .ok play := by
    rw [List.forall_mem_map]
    rfl
  rw [codes, codes]
  exact forall_congr' fun _ => imp_congr_left rearranged.codes.mem_iff

theorem length_plays (rearranged : first.Rearranged second) :
    first.plays.length = second.plays.length := by
  simpa using rearranged.codes.length_eq

end Member.Rearranged

namespace Group.Rearranged

variable {first second : Group} {rules : ScoringRules}

theorem names_perm (rearranged : first.Rearranged second) : first.names.Perm second.names :=
  AnyOrder.map_perm rearranged fun _ _ _ pair => pair.name

theorem size_eq (rearranged : first.Rearranged second) : first.size = second.size := by
  simpa [names, size] using rearranged.names_perm.length_eq

theorem sumFor_eq (rearranged : first.Rearranged second) (table : Table) (viewer : String) :
    first.sumFor table.writtenValue viewer = second.sumFor table.writtenValue viewer :=
  AnyOrder.sum_eq rearranged fun _ _ _ pair => pair.sumFor_eq table viewer

theorem sumForAll_eq (rearranged : first.Rearranged second) (table : Table) :
    first.sumForAll table.writtenValue = second.sumForAll table.writtenValue := by
  apply AnyOrder.sum_eq rearranged
  intro member _ other pair
  rw [rearranged.sumFor_eq, pair.name]

theorem playCount_eq (rearranged : first.Rearranged second) :
    first.playCount = second.playCount := by
  rw [playCount, playCount, List.length_flatMap, List.length_flatMap]
  exact (AnyOrder.map_perm rearranged fun _ _ _ pair => pair.length_plays).sum_eq

theorem ceiling_eq (rearranged : first.Rearranged second) :
    first.ceiling rules = second.ceiling rules := by
  rw [ceiling, ceiling, rearranged.size_eq, rearranged.playCount_eq]

theorem sound_iff (rearranged : first.Rearranged second) : first.Sound ↔ second.Sound := by
  have named : (∀ member ∈ first.members, member.name ≠ "") ↔
      ∀ member ∈ second.members, member.name ≠ "" :=
    AnyOrder.forall_iff rearranged fun _ _ _ pair => by rw [pair.name]
  have readable : first.Readable ↔ second.Readable :=
    AnyOrder.forall_iff rearranged fun _ _ _ pair => pair.readable_iff
  have distinct := rearranged.names_perm.nodup_iff
  have size := rearranged.size_eq
  exact ⟨fun sound => ⟨size ▸ sound.enough, named.mp sound.named, distinct.mp sound.distinct,
      readable.mp sound.readable⟩,
    fun sound => ⟨size ▸ sound.enough, named.mpr sound.named, distinct.mpr sound.distinct,
      readable.mpr sound.readable⟩⟩

theorem seating_eq (rearranged : first.Rearranged second) (sound : first.Sound)
    (staked : 0 < rules.stake) :
    (rearranged.sound_iff.mp sound).seating staked = sound.seating staked := by
  simp [Sound.seating, rearranged.size_eq]

section Settled

variable (rearranged : first.Rearranged second) (sound : first.Sound) (staked : 0 < rules.stake)
  (room : first.ceiling rules ≤ greatest)

include rearranged sound staked room

theorem settle_iff : first.settle rules = .ok () ↔ second.settle rules = .ok () := by
  have roomSecond : second.ceiling rules ≤ greatest := rearranged.ceiling_eq ▸ room
  have soundSecond := rearranged.sound_iff.mp sound
  rw [Group.settle_iff sound staked room, Group.settle_iff soundSecond staked roomSecond,
    rearranged.seating_eq, rearranged.sumForAll_eq]

theorem share_eq (settled : first.settle rules = .ok ()) (name : String) :
    first.share rules name = second.share rules name := by
  have roomSecond : second.ceiling rules ≤ greatest := rearranged.ceiling_eq ▸ room
  have settledSecond := (settle_iff rearranged sound staked room).mp settled
  rw [share_of_settle sound staked room settled,
    share_of_settle (rearranged.sound_iff.mp sound) staked roomSecond settledSecond,
    rearranged.seating_eq sound, rearranged.sumFor_eq]
  simp only [rearranged.names_perm.mem_iff]

end Settled

end Group.Rearranged

/-! ### Sheets -/

namespace Sheet.Rearranged

variable {first second : Sheet} {name : String}

theorem ceiling_eq (rearranged : first.Rearranged second) : first.ceiling = second.ceiling := by
  apply rearranged.groups.sum_eq
  intro group _ other pair
  rw [pair.ceiling_eq, rearranged.rules]

theorem mem_playerNames_iff (rearranged : first.Rearranged second) :
    name ∈ first.playerNames ↔ name ∈ second.playerNames := by
  have absent : (∀ group ∈ first.groups, name ∉ group.names) ↔
      ∀ group ∈ second.groups, name ∉ group.names :=
    rearranged.groups.forall_iff fun _ _ _ pair => not_congr pair.names_perm.mem_iff
  rw [Sheet.mem_playerNames_iff_group, Sheet.mem_playerNames_iff_group]
  simpa using not_congr absent

theorem sound_iff (rearranged : first.Rearranged second) :
    (∀ group ∈ first.groups, group.Sound) ↔ ∀ group ∈ second.groups, group.Sound :=
  rearranged.groups.forall_iff fun _ _ _ pair => pair.sound_iff

theorem settles_iff (rearranged : first.Rearranged second) (fits : first.Fits) :
    first.Settles ↔ second.Settles := by
  apply rearranged.groups.forall_iff
  intro group made other pair
  rw [← rearranged.rules]
  exact pair.settle_iff (fits.sound group made) fits.staked (fits.groupRoom made)

theorem share_eq (rearranged : first.Rearranged second) (fits : first.Fits)
    (settles : first.Settles) (name : String) : first.share name = second.share name := by
  rw [Sheet.share_eq, Sheet.share_eq, ← rearranged.rules]
  apply rearranged.groups.sum_eq
  intro group made other pair
  exact pair.share_eq (fits.sound group made) fits.staked (fits.groupRoom made)
    (settles group made) name

end Sheet.Rearranged

/-! ### Seasons -/

namespace RearrangedSeason

variable {first second : List Sheet}

theorem fits (rearranged : RearrangedSeason first second) (fits : FitsSeason first) :
    FitsSeason second where
  staked := by
    refine (rearranged.forall_iff fun _ _ _ pair => ?_).mp fits.staked
    rw [pair.rules]
  sound := (rearranged.forall_iff fun _ _ _ pair => pair.sound_iff).mp fits.sound
  room := by
    rw [← rearranged.sum_eq fun _ _ _ pair => pair.ceiling_eq]
    exact fits.room

theorem settle_iff (rearranged : RearrangedSeason first second) (fits : FitsSeason first) :
    (∀ sheet ∈ first, sheet.Settles) ↔ ∀ sheet ∈ second, sheet.Settles :=
  rearranged.forall_iff fun _ recorded _ pair => pair.settles_iff (fits.fitsSheet recorded)

theorem names_perm (rearranged : RearrangedSeason first second) :
    (firstAppearances ((appearancesOver first).map Appearance.name)).Perm
      (firstAppearances ((appearancesOver second).map Appearance.name)) := by
  rw [List.perm_ext_iff_of_nodup (nodup_firstAppearances _) (nodup_firstAppearances _)]
  intro name
  have absent : (∀ sheet ∈ first, name ∉ sheet.playerNames) ↔
      ∀ sheet ∈ second, name ∉ sheet.playerNames :=
    rearranged.forall_iff fun _ _ _ pair => not_congr pair.mem_playerNames_iff
  rw [mem_firstAppearances, mem_firstAppearances, mem_names_appearancesOver,
    mem_names_appearancesOver]
  simpa using not_congr absent

/-- The standings of a season that settles are rearranged along with it. -/
theorem standingsOver_perm (rearranged : RearrangedSeason first second)
    (fits : FitsSeason first) (settle : ∀ sheet ∈ first, sheet.Settles) :
    (standingsOver first).Perm (standingsOver second) := by
  rw [standingsOver_eq fits settle,
    standingsOver_eq (rearranged.fits fits) ((rearranged.settle_iff fits).mp settle)]
  have balance (name : String) : (first.map fun sheet => sheet.share name).sum =
      (second.map fun sheet => sheet.share name).sum :=
    rearranged.sum_eq fun sheet recorded _ pair =>
      pair.share_eq (fits.fitsSheet recorded) (settle sheet recorded) name
  have sheets (name : String) :
      first.countP (fun sheet => decide (name ∈ sheet.playerNames)) =
        second.countP fun sheet => decide (name ∈ sheet.playerNames) := by
    have appears : (first.map fun sheet => decide (name ∈ sheet.playerNames)).Perm
        (second.map fun sheet => decide (name ∈ sheet.playerNames)) :=
      rearranged.map_perm fun _ _ _ pair => decide_eq_decide.mpr pair.mem_playerNames_iff
    simpa [List.countP_map] using appears.countP_eq id
  simp only [balance, sheets]
  exact rearranged.names_perm.map _

end RearrangedSeason

theorem Standing.Precedes.asymm {first second : Standing} (before : first.Precedes second) :
    ¬second.Precedes first := by
  rcases before with better | ⟨same, smaller⟩
  · rintro (worse | ⟨equal, -⟩) <;> omega
  · rintro (worse | ⟨-, greater⟩)
    · omega
    · exact lt_asymm smaller greater

/-- Standings of different names have only one order. -/
theorem Standing.mergeSort_eq_of_perm {first second : List Standing} (shuffled : first.Perm second)
    (distinct : (first.map Standing.name).Nodup) :
    first.mergeSort comesBefore = second.mergeSort comesBefore := by
  have distinctSecond := (shuffled.map Standing.name).nodup_iff.mp distinct
  have sorted := ((List.mergeSort_perm first comesBefore).trans shuffled).trans
    (List.mergeSort_perm second comesBefore).symm
  exact sorted.eq_of_pairwise (fun _ _ _ _ before after => absurd after before.asymm)
    (pairwise_precedes_mergeSort distinct) (pairwise_precedes_mergeSort distinctSecond)

/-- The leaderboard does not depend on the order of the sheets, of the groups on a sheet,
of the players in a group and of the plays of a player: it is drawn up for both seasons
or for none, and it is the same one. -/
theorem leaderboard_of_rearranged (first second : List Sheet) (standings : List Standing)
    (accepted : ∀ sheet ∈ first, sheet.Accepted)
    (room : (first.map Sheet.ceiling).sum ≤ 2 ^ 63 - 1)
    (rearranged : RearrangedSeason first second) :
    leaderboard first = .ok standings ↔ leaderboard second = .ok standings := by
  have fits := fitsSeason_of_accepted accepted room
  rw [leaderboard_eq_ok_iff fits, leaderboard_eq_ok_iff (rearranged.fits fits),
    ← rearranged.settle_iff fits]
  apply and_congr_right
  intro settle
  rw [Standing.mergeSort_eq_of_perm (rearranged.standingsOver_perm fits settle)
    (nodup_names_standingsOver first)]

/-- The two evenings in the other order, with other groups, players and plays first. -/
def shuffledEvenings : List Sheet :=
  [{ secondEvening with
      groups :=
        [⟨[⟨"Pepa", 64, []⟩, ⟨"Jarda", 49, [⟨"+s-h", 55⟩]⟩, ⟨"Eva", 60, []⟩]⟩,
          ⟨[⟨"Pepa", 31, [⟨"$:-k100", 36⟩]⟩, ⟨"Franta", 16, [⟨"$:+k100", 23⟩]⟩,
            ⟨"Eva", 44, []⟩]⟩] },
    { firstEvening with
      groups :=
        [⟨[⟨"Jarda", 66, [⟨"-c", 72⟩]⟩, ⟨"Pepa", 46, [⟨"e", 57⟩, ⟨"+k100", 51⟩]⟩,
          ⟨"Franta", 59, []⟩]⟩] }]

theorem rearranged_shuffledEvenings :
    RearrangedSeason [firstEvening, secondEvening] shuffledEvenings := by
  have members {first second : Group} (shuffle : first.members.Perm second.members) :
      first.Rearranged second :=
    ⟨second.members, shuffle, List.forall₂_same.mpr fun _ _ => ⟨rfl, .refl _⟩⟩
  refine ⟨[secondEvening, firstEvening], .swap .., .cons ⟨rfl, ?_⟩ (.cons ⟨rfl, ?_⟩ .nil)⟩
  · refine ⟨secondEvening.groups.reverse, by decide, .cons ?_ (.cons ?_ .nil)⟩
    all_goals exact members (by decide)
  · refine ⟨firstEvening.groups, .refl _, .cons ?_ .nil⟩
    -- In the first group a player's plays are shuffled too.
    refine ⟨[⟨"Jarda", 66, [⟨"-c", 72⟩]⟩, ⟨"Pepa", 46, [⟨"+k100", 51⟩, ⟨"e", 57⟩]⟩,
      ⟨"Franta", 59, []⟩], by decide, .cons ?_ (.cons ?_ (.cons ?_ .nil))⟩
    all_goals exact ⟨rfl, by decide⟩

theorem leaderboard_of_rearranged_shuffledEvenings :
    leaderboard shuffledEvenings = .ok twoEvenings :=
  (leaderboard_of_rearranged [firstEvening, secondEvening] shuffledEvenings twoEvenings
    accepted_twoEvenings (by decide) rearranged_shuffledEvenings).mp leaderboard_twoEvenings

end TrickLedger
