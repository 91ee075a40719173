import Mathlib.Algebra.BigOperators.Ring.List
import TrickLedger.Proofs.Balance.Entries
import TrickLedger.Proofs.Balance.Faults
import TrickLedger.Proofs.Scoring.Surplus

/-!
# Groups with solo parity

As long as amounts have room, the check of a group adds up the surpluses of its plays with
solo parity.  Surpluses of opposite signs can cancel, and so can the two commitments of a play,
and the ceiling can absorb one; nothing else keeps a play with solo parity from being reported.
-/

namespace TrickLedger

open Money

variable {table : Table} {group : Group} {play : Play}

namespace Group

theorem mem_soloPlays_iff :
    play ∈ group.soloPlays ↔
      (∃ member ∈ group.members, ∃ written ∈ member.plays, Play.ofCode written.code = .ok play) ∧
        play.hasSoloParity = true := by
  simp only [soloPlays, List.mem_filterMap, List.mem_flatMap, Option.filter_eq_some_iff]
  constructor
  · rintro ⟨written, ⟨member, seated, made⟩, read, solo⟩
    refine ⟨⟨member, seated, written, made, ?_⟩, solo⟩
    cases outcome : Play.ofCode written.code <;> simp_all [Except.toOption]
  · rintro ⟨⟨member, seated, written, made, read⟩, solo⟩
    exact ⟨written, ⟨member, seated, made⟩, by simp [read, Except.toOption], solo⟩

theorem wellFormed_of_mem_soloPlays (played : play ∈ group.soloPlays) : play.WellFormed := by
  obtain ⟨⟨_, _, _, _, read⟩, -⟩ := mem_soloPlays_iff.mp played
  exact Play.wellFormed_of_ofCode read

/-- Only the plays with solo parity leave all players together with something. -/
theorem sumOfPlays_eq_surpluses (seats : table.players = group.size) (readable : group.Readable)
    (room : table.HasRoomFor group) :
    group.sumOfPlays (group.forEveryone table.writtenValue) =
      (group.soloPlays.map table.surplus).sum := by
  rw [soloPlays, List.map_filterMap, Sheet.sum_filterMap, sumOfPlays]
  congr 1
  apply List.map_congr_left
  intro written listed
  obtain ⟨member, seated, made⟩ := List.mem_flatMap.mp listed
  obtain ⟨play, read⟩ := readable member seated written made
  have value : group.forEveryone table.writtenValue written = table.surplus play := by
    rw [forEveryone, Table.writtenValue_of_read read, Table.writtenValue_of_read read, ← seats]
    exact Table.playValue_own_add (room.hasRoom (playCount_pos seated made))
      (Play.wellFormed_of_ofCode read)
  rw [value]
  cases solo : play.hasSoloParity with
  | true => simp [read, Except.toOption, Option.filter_some, solo]
  | false =>
      have split : table.surplus play = 0 := Table.surplus_of_split (Play.split_iff.mpr solo)
      simp [read, Except.toOption, Option.filter_some, solo, split]

theorem groupTotal_eq_surpluses (seats : table.players = group.size)
    (distinct : (group.members.map Member.name).Nodup) (readable : group.Readable)
    (room : table.HasRoomFor group) :
    table.groupTotal group = .ok (group.soloPlays.map table.surplus).sum := by
  rw [Table.groupTotal_eq_sumOfPlays seats distinct readable room,
    sumOfPlays_eq_surpluses seats readable room]

theorem SolosEnd.share_pos {won : Bool} (ended : group.SolosEnd won) (table : Table)
    (played : play ∈ group.soloPlays) : 0 < outcomeSign won * table.share true play :=
  table.share_true_pos (wellFormed_of_mem_soloPlays played) (mem_soloPlays_iff.mp played).2
    (ended play played)

/-- Surpluses of one sign do not cancel, so it is enough that the ceiling lets one pass. -/
theorem SolosEnd.sum_surplus_pos {won : Bool} (ended : group.SolosEnd won)
    (passed : ∃ play ∈ group.soloPlays, ¬ table.Absorbs play) :
    0 < outcomeSign won * (group.soloPlays.map table.surplus).sum := by
  rw [← List.sum_map_mul_left]
  have nonneg (play : Play) (played : play ∈ group.soloPlays) :
      0 ≤ outcomeSign won * table.surplus play :=
    Table.surplus_nonneg (ended.share_pos table played)
  have positive : ∃ play ∈ group.soloPlays, 0 < outcomeSign won * table.surplus play := by
    obtain ⟨play, played, passed⟩ := passed
    exact ⟨play, played, Table.surplus_pos (ended.share_pos table played) passed⟩
  simpa using List.sum_lt_sum (fun _ => 0) _ nonneg positive

theorem settle_eq (seats : table.players = group.size) {total : Int}
    (found : table.groupTotal group = .ok total) :
    group.settle table.rules = if total = 0 then .ok () else .error (.doesNotSettle total) := by
  obtain ⟨players, rules, enough, staked⟩ := table
  subst seats
  rw [settle, table_eq enough staked, ok_bind, Table.settle_of_total found]

/-- The check of a group reports its total if that is not zero.  The total is the sum of the
surpluses of the plays with solo parity; it is not zero, and hence reported, if they all ended
alike and the ceiling does not absorb all of them. -/
theorem settle_of_soloPlays (group : Group) (rules : ScoringRules)
    (enough : fewestPlayers ≤ group.size) (distinct : (group.members.map Member.name).Nodup)
    (staked : 0 < rules.stake) (readable : group.Readable) :
    let table : Table := ⟨group.size, rules, enough, staked⟩
    ∃ total, table.groupTotal group = .ok total ∧
      group.settle rules = (if total = 0 then .ok () else .error (.doesNotSettle total)) ∧
        (30000 * (rules.stake : Int) * ((group.size : Int) - 1) * group.playCount ≤ 2 ^ 63 - 1 →
          total = (group.soloPlays.map table.surplus).sum ∧
            (∀ play ∈ group.soloPlays,
              table.surplus play = 0 ↔ table.share true play = 0 ∨ table.Absorbs play) ∧
            ∀ won, group.SolosEnd won → (∃ play ∈ group.soloPlays, ¬ table.Absorbs play) →
              group.settle rules = .error (.doesNotSettle total) ∧
                if won then 0 < total else total < 0) := by
  intro table
  obtain ⟨total, found⟩ := table.exists_groupTotal readable
  have settled := settle_eq (by rfl) found
  refine ⟨total, found, settled, fun room => ?_⟩
  have tableRoom : table.HasRoomFor group := room
  have exact : total = (group.soloPlays.map table.surplus).sum := by
    have surpluses := groupTotal_eq_surpluses rfl distinct readable tableRoom
    exact Except.ok.inj (found.symm.trans surpluses)
  refine ⟨exact, fun play _ => table.surplus_eq_zero_iff play, fun won ended passed => ?_⟩
  have sign := ended.sum_surplus_pos passed
  rw [← exact] at sign
  have nonzero : total ≠ 0 := right_ne_zero_of_mul sign.ne'
  refine ⟨?_, ?_⟩
  · rw [if_neg nonzero] at settled
    exact settled
  · cases won <;> simpa [outcomeSign] using sign

/-- Two players who made plays, and others who made none. -/
def ofCodes (first second : List String) (others : List String := ["Jarda"]) : Group where
  members := .ofCodes "Pepa" first :: .ofCodes "Franta" second ::
    others.map fun name => .ofCodes name []

theorem size_ofCodes (first second others : List String) :
    (ofCodes first second others).size = others.length + 2 := by
  simp [size, ofCodes]

theorem readable_ofCodes {first second : List String}
    (read : ∀ code ∈ first ++ second, ∃ play, Play.ofCode code = .ok play)
    (others : List String) : (ofCodes first second others).Readable := by
  simp only [Readable, Member.Readable, ofCodes, Member.ofCodes, List.forall_mem_cons,
    List.forall_mem_map, List.map_nil]
  rw [List.forall_mem_append] at read
  exact ⟨read.1, read.2, by simp⟩

/-- A base payment for a hundred that was lost in the better suit. -/
def lostHundred : Play where
  base := { soloParity := true, basePayment := true, contract := some .hundred, score := 110 }
  betterSuit := true

theorem settle_of_soloPlays_lostHundred :
    (ofCodes ["+c", "$:-k110*"] []).settle {} = .error (.doesNotSettle (-160)) := by
  have readable : (ofCodes ["+c", "$:-k110*"] []).Readable := by
    apply readable_ofCodes
    simp only [List.append_nil, List.forall_mem_cons]
    exact ⟨⟨_, rfl⟩, ⟨_, rfl⟩, by simp⟩
  obtain ⟨total, -, -, room⟩ :=
    settle_of_soloPlays _ {} (by decide) (by decide) (by decide) readable
  obtain ⟨exact, -, reported⟩ := room (by decide)
  have plays : (ofCodes ["+c", "$:-k110*"] []).soloPlays = [lostHundred] := by rfl
  have ended : (ofCodes ["+c", "$:-k110*"] []).SolosEnd false := by
    unfold SolosEnd
    rw [plays]
    decide
  have passed : ¬ (⟨3, {}, by decide, by decide⟩ : Table).Absorbs lostHundred := by
    unfold Table.Absorbs
    decide
  obtain ⟨settled, -⟩ := reported false ended ⟨lostHundred, by simp [plays], passed⟩
  rw [settled, exact, plays]
  rfl

/-! ### Plays with solo parity that are not reported -/

/-- Enough players with names of their own whose plays are read, and one of these has solo
parity. -/
structure PlaysSolo (group : Group) : Prop where
  enough : fewestPlayers ≤ group.size
  distinct : (group.members.map Member.name).Nodup
  readable : group.Readable
  solo : ∃ play ∈ group.soloPlays, play.hasSoloParity = true

theorem playsSolo_ofCodes {first second others : List String} {play : Play} {plays : List Play}
    (seated : others ≠ []) (distinct : ("Pepa" :: "Franta" :: others).Nodup)
    (read : ∀ code ∈ first ++ second, ∃ play, Play.ofCode code = .ok play)
    (listed : (ofCodes first second others).soloPlays = play :: plays) :
    (ofCodes first second others).PlaysSolo := by
  have played : play ∈ (ofCodes first second others).soloPlays := by simp [listed]
  refine ⟨?_, ?_, readable_ofCodes read others, play, played, (mem_soloPlays_iff.mp played).2⟩
  · have := List.length_pos_iff.mpr seated
    rw [size_ofCodes, fewestPlayers]
    omega
  · simpa [ofCodes, Member.ofCodes, Function.comp_def] using distinct

/-- The table of three players under the default rules. -/
def tableOfThree : Table :=
  ⟨3, {}, by decide, by decide⟩

theorem settles_ofCodes {first second : List String} {play : Play} {plays : List Play}
    (read : ∀ code ∈ first ++ second, ∃ play, Play.ofCode code = .ok play)
    (listed : (ofCodes first second).soloPlays = play :: plays)
    (few : (ofCodes first second).playCount ≤ 2)
    (cancel : ((play :: plays).map tableOfThree.surplus).sum = 0) :
    (ofCodes first second).PlaysSolo ∧ (ofCodes first second).settle {} = .ok () := by
  have solo := playsSolo_ofCodes (by simp) (by simp) read listed
  have room : tableOfThree.HasRoomFor (ofCodes first second) := by
    unfold Table.HasRoomFor ceilingPerOpponent greatest tableOfThree
    simp only [Nat.cast_one, Nat.cast_ofNat]
    omega
  have total := groupTotal_eq_surpluses (by rfl) solo.distinct solo.readable room
  rw [listed, cancel] at total
  exact ⟨solo, settle_eq (by rfl) total⟩

section Pair

variable {code other : String} {otherPlay : Play} {others : List String}

theorem foldlM_add_zero {α : Type} {amount : α → Except BalanceFault Int} {items : List α}
    {start : Int} (held : saturate start = start) (zero : ∀ item ∈ items, amount item = .ok 0) :
    (items.foldlM (fun total item => do
      let next ← amount item
      .ok (Money.add total next)) start : Except BalanceFault Int) = .ok start := by
  induction items with
  | nil => rfl
  | cons item items ih =>
      rw [List.forall_mem_cons] at zero
      rw [List.foldlM_cons, zero.1, ok_bind, ok_bind, Money.add, add_zero, held, ih zero.2]

/-- Two amounts that count and others that do not, without regard to the bounds of money. -/
theorem sumAmounts_pair {α : Type} (amount : α → Except BalanceFault Int) (first second : α)
    {items : List α} {value otherValue : Int} (counted : amount first = .ok value)
    (held : saturate value = value) (otherCounted : amount second = .ok otherValue)
    (zero : ∀ item ∈ items, amount item = .ok 0) :
    sumAmounts amount (first :: second :: items) = .ok (Money.add value otherValue) := by
  have sumHeld : saturate (Money.add value otherValue) = Money.add value otherValue :=
    saturate_of_mem (least_le_saturate _) (saturate_le_greatest _)
  have start : Money.add 0 value = value := by rw [Money.add, zero_add, held]
  rw [sumAmounts, List.foldlM_cons, counted, ok_bind, ok_bind, start, List.foldlM_cons,
    otherCounted, ok_bind, ok_bind, foldlM_add_zero sumHeld zero]

theorem saturate_playValue (table : Table) (play : Play) (side : Side) :
    saturate (table.playValue play side) = table.playValue play side := by
  have most : table.ceiling side ≤ greatest := by
    cases side <;> exact saturate_le_greatest _
  have within : Within (table.ceiling side) (table.playValue play side) :=
    within_clampTo (table.ceiling_mem side).1 _
  exact saturate_of_within (within.mono most)

theorem balanceFromMember_single (read : Play.ofCode code = .ok play) (viewer name : String) :
    table.balanceFromMember viewer (.ofCodes name [code]) =
      .ok (table.playValue play (if name = viewer then .own else .opponent)) := by
  let written : WrittenPlay := ⟨code, 0⟩
  have worth : Play.ofCode written.code = .ok play := read
  have amount (member : Member) : table.amountOfPlay viewer member written =
      .ok (table.playValue play (member.sideFor viewer)) := by
    rw [Table.amountOfPlay_eq worth, Table.writtenValue_of_read worth]
  rw [Table.balanceFromMember, sumAmounts]
  simp only [Member.ofCodes, List.map_cons, List.map_nil, List.foldlM_cons, List.foldlM_nil]
  rw [amount, ok_bind, ok_bind, Money.add, zero_add, saturate_playValue]
  rfl

theorem balanceFromGroup_pair (read : Play.ofCode code = .ok play)
    (otherRead : Play.ofCode other = .ok otherPlay) (viewer : String) :
    table.balanceFromGroup viewer (ofCodes [code] [other] others) =
      .ok (Money.add (table.playValue play (if "Pepa" = viewer then .own else .opponent))
        (table.playValue otherPlay (if "Franta" = viewer then .own else .opponent))) := by
  apply sumAmounts_pair _ _ _ (balanceFromMember_single read viewer "Pepa")
    (saturate_playValue table play _) (balanceFromMember_single otherRead viewer "Franta")
  rw [List.forall_mem_map]
  exact fun _ _ => rfl

/-- Of two plays that the opponents take no part in, only the own values count. -/
theorem groupTotal_pair (distinct : ("Pepa" :: "Franta" :: others).Nodup)
    (read : Play.ofCode code = .ok play) (otherRead : Play.ofCode other = .ok otherPlay)
    (alone : table.playValue play .opponent = 0)
    (otherAlone : table.playValue otherPlay .opponent = 0) :
    table.groupTotal (ofCodes [code] [other] others) =
      .ok (Money.add (table.playValue play .own) (table.playValue otherPlay .own)) := by
  have total (viewer : String) : table.balanceFromGroup viewer (ofCodes [code] [other] others) =
      .ok _ := balanceFromGroup_pair read otherRead viewer
  have first : table.balanceFromGroup "Pepa" (ofCodes [code] [other] others) =
      .ok (table.playValue play .own) := by
    rw [total, if_pos rfl, if_neg (by decide), otherAlone, Money.add, add_zero, saturate_playValue]
  have second : table.balanceFromGroup "Franta" (ofCodes [code] [other] others) =
      .ok (table.playValue otherPlay .own) := by
    rw [total, if_neg (by decide), if_pos rfl, alone, Money.add, zero_add, saturate_playValue]
  apply sumAmounts_pair (fun member : Member => table.balanceFromGroup member.name _)
    (.ofCodes "Pepa" [code]) (.ofCodes "Franta" [other]) first (saturate_playValue table play _)
    second
  rw [List.forall_mem_map]
  intro name seated
  simp only [List.nodup_cons, List.mem_cons, not_or] at distinct
  have notFirst : "Pepa" ≠ name := fun same => distinct.1.2 (same ▸ seated)
  have notSecond : "Franta" ≠ name := fun same => distinct.2.1 (same ▸ seated)
  simp only [Member.ofCodes]
  rw [total, if_neg notFirst, if_neg notSecond, alone, otherAlone]
  rfl

end Pair

/-- Names of different length. -/
def crowdNames (count : Nat) : List String :=
  (List.range count).map fun number => String.ofList (List.replicate (number + 7) 'x')

theorem length_crowdNames (count : Nat) : (crowdNames count).length = count := by
  simp [crowdNames]

theorem nodup_crowdNames (count : Nat) : ("Pepa" :: "Franta" :: crowdNames count).Nodup := by
  apply List.Nodup.of_map String.length
  have lengths : (crowdNames count).map String.length = (List.range count).map (· + 7) := by
    simp [crowdNames, Function.comp_def]
  rw [List.map_cons, List.map_cons, lengths, List.nodup_cons, List.nodup_cons]
  refine ⟨by simp [String.length], by simp [String.length], ?_⟩
  exact List.nodup_range.map (add_left_injective 7)

/-- So many players with so large a stake that the amounts of single plays are saturated. -/
def crowdedTable : Table :=
  ⟨262145, { stake := 4294967295 }, by decide, by decide⟩

def crowd : Group :=
  ofCodes ["$+4v*"] ["$-4k190*"] (crowdNames 262143)

theorem soloPlays_ofCodes (first second others : List String) :
    (ofCodes first second others).soloPlays = (ofCodes first second []).soloPlays := by
  simp [soloPlays, ofCodes, Member.ofCodes, List.flatMap_map]

theorem settles_crowd :
    crowd.PlaysSolo ∧ (crowd.soloPlays.map crowdedTable.surplus).sum ≠ 0 ∧
      crowd.settle crowdedTable.rules = .ok () := by
  have distinct := nodup_crowdNames 262143
  have plays : crowd.soloPlays = (ofCodes ["$+4v*"] ["$-4k190*"] []).soloPlays :=
    soloPlays_ofCodes _ _ _
  have solo : crowd.PlaysSolo := by
    apply playsSolo_ofCodes ?_ distinct ?_ (plays.trans rfl)
    · exact List.ne_nil_of_length_pos (by simp [length_crowdNames])
    · simp only [List.cons_append, List.nil_append, List.forall_mem_cons]
      exact ⟨⟨_, rfl⟩, ⟨_, rfl⟩, by simp⟩
  have total : crowdedTable.groupTotal crowd = .ok 0 := by
    rw [crowd, groupTotal_pair distinct rfl rfl (by decide) (by decide)]
    rfl
  have seats : crowdedTable.players = crowd.size := by
    rw [crowd, size_ofCodes, length_crowdNames]
    rfl
  refine ⟨solo, ?_, settle_eq seats total⟩
  rw [plays]
  decide

/-- Groups with solo parity that settle all the same: two plays of opposite outcome, a play
whose commitments cancel, and a hundred that has reached the ceiling without the seven linked
to it.  Beyond the bounds of money even surpluses that do not cancel can settle. -/
theorem settles_despite_soloPlays :
    ((ofCodes ["$+c"] ["$-c"]).PlaysSolo ∧ (ofCodes ["$+c"] ["$-c"]).settle {} = .ok ()) ∧
      ((ofCodes ["$+s$-1h"] []).PlaysSolo ∧ (ofCodes ["$+s$-1h"] []).settle {} = .ok ()) ∧
        ((ofCodes ["+4k190$+s"] []).PlaysSolo ∧
          (ofCodes ["+4k190$+s"] []).settle {} = .ok ()) ∧
        (crowd.PlaysSolo ∧ (crowd.soloPlays.map crowdedTable.surplus).sum ≠ 0 ∧
          crowd.settle crowdedTable.rules = .ok ()) := by
  refine ⟨settles_ofCodes ?_ rfl (by decide) (by decide),
    settles_ofCodes ?_ rfl (by decide) (by decide),
    settles_ofCodes ?_ rfl (by decide) (by decide), settles_crowd⟩
  all_goals
    simp only [List.append_nil, List.cons_append, List.nil_append, List.forall_mem_cons]
  · exact ⟨⟨_, rfl⟩, ⟨_, rfl⟩, by simp⟩
  · exact ⟨⟨_, rfl⟩, by simp⟩
  · exact ⟨⟨_, rfl⟩, by simp⟩

end Group

end TrickLedger
