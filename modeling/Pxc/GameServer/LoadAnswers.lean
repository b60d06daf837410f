import Pxc.Control.ReplyMask
import Pxc.GameServer.Instructions

namespace Pxc
namespace GameServer

open General Control

/-!
# Whether a request for loads is answered

A game server answers a request with one message for each zone it hosts, and
counts the zones that remain.  Control waits for the message with the count
zero, and then clears the bit of the server.  The counts are those of the
messages that follow, so that the last message, and only it, has the count
zero.  A server without zones sends nothing, and its bit stays.
-/

variable {D : Type}

/-- The answer as Control receives it.  The number of the round is a label. -/
def ServerLoadAnswer.received (answer : ServerLoadAnswer D) : ServerLoad D where
  idServer := answer.mIdServer
  idZone := answer.mIdZone
  zoneLoad := answer.mZoneLoad
  remainingZones := answer.mRemainingZones
  round := 0

/-- The answers to a request are complete.  There are some, they report every
hosted zone once with its load, the count goes down by one from message to
message, and is zero in the last one only.  Control, with the server in its
list, handles all of them, changes its mask with the last one only, and then
clears the server's bit. -/
structure CompleteAnswer [Add D] (gameServer : GameServer D) : Prop where
  answered : gameServer.sendZoneLoads ≠ []
  once : (gameServer.sendZoneLoads.map ServerLoadAnswer.mIdZone).Nodup
  loads : ∀ zone load,
    (∃ answer ∈ gameServer.sendZoneLoads, answer.mIdZone = zone ∧ answer.mZoneLoad = load) ↔
      ∃ handler, gameServer.mZones[(zone : Int)]? = some handler ∧ handler.mLoad = load
  decreases : ∀ (i : Nat) answer next, gameServer.sendZoneLoads[i]? = some answer →
    gameServer.sendZoneLoads[i + 1]? = some next →
      next.mRemainingZones = answer.mRemainingZones - 1
  ends : ∀ (i : Nat) answer, gameServer.sendZoneLoads[i]? = some answer →
    (answer.mRemainingZones = 0 ↔ i + 1 = gameServer.sendZoneLoads.length)
  clears : ∀ (servers : List (Server D)) (mask : BitVec 32),
    gameServer.mServerId ∈ servers.map Server.id →
      (∀ count < gameServer.sendZoneLoads.length, ∃ left,
        handleReplies ((gameServer.sendZoneLoads.take count).map ServerLoadAnswer.received) servers
          mask = some (left, mask)) ∧
      ∃ left cleared,
        handleReplies (gameServer.sendZoneLoads.map ServerLoadAnswer.received) servers mask =
          some (left, cleared) ∧
        clearBit mask gameServer.mServerId = some cleared

theorem getElem?_zoneLoads (serverId : Int) (zones : List (Int × ZoneHandler D)) (remaining : Int)
    (i : Nat) : (zoneLoads serverId zones remaining)[i]? =
      zones[i]?.map fun entry => ⟨serverId, entry.1, entry.2.mLoad, remaining - 1 - i⟩ := by
  induction zones generalizing remaining i with
  | nil => rfl
  | cons entry rest inductionHypothesis =>
      rcases entry with ⟨idZone, handler⟩
      cases i with
      | zero => simp only [zoneLoads, List.getElem?_cons_zero, Option.map_some, Int.natCast_zero,
          Int.sub_zero]
      | succ i =>
          rw [zoneLoads, List.getElem?_cons_succ, inductionHypothesis, List.getElem?_cons_succ]
          congr 1
          funext entry
          simp only [ServerLoadAnswer.mk.injEq, true_and]
          omega

theorem length_zoneLoads (serverId : Int) (zones : List (Int × ZoneHandler D)) (remaining : Int) :
    (zoneLoads serverId zones remaining).length = zones.length := by
  induction zones generalizing remaining with
  | nil => rfl
  | cons entry rest inductionHypothesis =>
      exact congrArg Nat.succ (inductionHypothesis (remaining - 1))

theorem getElem?_sendZoneLoads (gameServer : GameServer D) (i : Nat) :
    gameServer.sendZoneLoads[i]? = gameServer.mZones.toList[i]?.map fun entry =>
      ⟨gameServer.mServerId, entry.1, entry.2.mLoad, gameServer.mZones.size - 1 - i⟩ :=
  getElem?_zoneLoads _ _ _ i

theorem length_sendZoneLoads (gameServer : GameServer D) :
    gameServer.sendZoneLoads.length = gameServer.mZones.size := by
  rw [sendZoneLoads, length_zoneLoads, Std.ExtTreeMap.length_toList]

/-- The count of a message is the number of those after it. -/
theorem count_of_getElem? {gameServer : GameServer D} {i : Nat} {answer : ServerLoadAnswer D}
    (found : gameServer.sendZoneLoads[i]? = some answer) :
    answer.mRemainingZones = gameServer.sendZoneLoads.length - 1 - i ∧
      answer.mIdServer = gameServer.mServerId := by
  rw [getElem?_sendZoneLoads] at found
  rcases Option.map_eq_some_iff.mp found with ⟨entry, _, rfl⟩
  exact ⟨by rw [length_sendZoneLoads], rfl⟩

theorem mem_sendZoneLoads_iff {gameServer : GameServer D} {zone : Int} {load : D} :
    (∃ answer ∈ gameServer.sendZoneLoads, answer.mIdZone = zone ∧ answer.mZoneLoad = load) ↔
      ∃ handler, gameServer.mZones[zone]? = some handler ∧ handler.mLoad = load := by
  constructor
  · rintro ⟨answer, member, rfl, rfl⟩
    rcases List.mem_iff_getElem?.mp member with ⟨i, found⟩
    rw [getElem?_sendZoneLoads] at found
    rcases Option.map_eq_some_iff.mp found with ⟨entry, atEntry, rfl⟩
    have listed : (entry.1, entry.2) ∈ gameServer.mZones.toList := List.mem_of_getElem? atEntry
    exact ⟨entry.2, Std.ExtTreeMap.mem_toList_iff_getElem?_eq_some.mp listed, rfl⟩
  · rintro ⟨handler, hosted, rfl⟩
    have listed : (zone, handler) ∈ gameServer.mZones.toList :=
      Std.ExtTreeMap.mem_toList_iff_getElem?_eq_some.mpr hosted
    rcases List.mem_iff_getElem?.mp listed with ⟨i, atEntry⟩
    have found := getElem?_sendZoneLoads gameServer i
    rw [atEntry] at found
    exact ⟨_, List.mem_of_getElem? found, rfl, rfl⟩

theorem nodup_sendZoneLoads (gameServer : GameServer D) :
    (gameServer.sendZoneLoads.map ServerLoadAnswer.mIdZone).Nodup := by
  have zones : gameServer.sendZoneLoads.map ServerLoadAnswer.mIdZone =
      gameServer.mZones.toList.map Prod.fst := by
    apply List.ext_getElem?
    intro i
    rw [List.getElem?_map, List.getElem?_map, getElem?_sendZoneLoads, Option.map_map]
    rfl
  rw [zones, List.Nodup, List.pairwise_map]
  apply Std.ExtTreeMap.distinct_keys_toList.imp
  intro first second apart same
  exact apart (Std.compare_eq_iff_eq.mpr same)

/-! ## Control's mask -/

variable [Add D]

/-- The messages before the last one leave the mask. -/
theorem handle_before_last {gameServer : GameServer D} {count : Nat}
    (before : count < gameServer.sendZoneLoads.length) (servers : List (Server D))
    (mask : BitVec 32) : ∃ left,
      handleReplies ((gameServer.sendZoneLoads.take count).map ServerLoadAnswer.received) servers
        mask = some (left, mask) ∧ left.map Server.id = servers.map Server.id := by
  apply handleReplies_of_not_finishes
  intro reply member
  rcases List.mem_map.mp member with ⟨answer, taken, rfl⟩
  rcases List.mem_iff_getElem?.mp taken with ⟨i, found⟩
  have within := (List.getElem?_eq_some_iff.mp found).1
  rw [List.length_take] at within
  rw [List.getElem?_take_of_lt (by omega)] at found
  have count := (count_of_getElem? found).1
  change answer.mRemainingZones ≠ 0
  omega

/-- The last message clears the server's bit. -/
theorem handle_all {gameServer : GameServer D} (answered : gameServer.sendZoneLoads ≠ [])
    {servers : List (Server D)} (listed : gameServer.mServerId ∈ servers.map Server.id)
    {mask cleared : BitVec 32} (clears : clearBit mask gameServer.mServerId = some cleared) :
    ∃ left, handleReplies (gameServer.sendZoneLoads.map ServerLoadAnswer.received) servers mask =
      some (left, cleared) := by
  have positive : 0 < gameServer.sendZoneLoads.length := List.length_pos_iff.mpr answered
  let last := gameServer.sendZoneLoads.length - 1
  have inside : last < gameServer.sendZoneLoads.length := Nat.sub_one_lt_of_lt positive
  have found := List.getElem?_eq_getElem inside
  have split : gameServer.sendZoneLoads =
      gameServer.sendZoneLoads.take last ++ [gameServer.sendZoneLoads[last]] := by
    rw [← List.take_succ_eq_append_getElem inside]
    exact (List.take_of_length_le (by omega)).symm
  rcases count_of_getElem? found with ⟨count, sender⟩
  rcases handle_before_last inside servers mask with ⟨left, handled, ids⟩
  have finishes : Finishes left gameServer.sendZoneLoads[last].received := by
    refine ⟨?_, ?_⟩
    · change gameServer.sendZoneLoads[last].mRemainingZones = 0
      omega
    · change gameServer.sendZoneLoads[last].mIdServer ∈ left.map Server.id
      rw [ids, sender]
      exact listed
  rcases exec_of_finishes finishes (sender.symm ▸ clears) with ⟨final, done, _⟩
  refine ⟨final, ?_⟩
  rw [split, List.map_append]
  exact (handleReplies_concat _ _ servers mask).trans (by rw [handled]; exact done)

omit [Add D] in
theorem exists_answer_iff {gameServer : GameServer D} :
    gameServer.sendZoneLoads ≠ [] ↔ ∃ zone, gameServer.Hosts zone := by
  rw [← List.length_pos_iff, length_sendZoneLoads]
  constructor
  · intro positive
    rw [← Std.ExtTreeMap.length_toList] at positive
    rcases List.exists_mem_of_length_pos positive with ⟨⟨zone, handler⟩, listed⟩
    have hosted := Std.ExtTreeMap.mem_toList_iff_getElem?_eq_some.mp listed
    exact ⟨zone, Std.ExtTreeMap.mem_iff_isSome_getElem?.mpr (hosted ▸ rfl)⟩
  · rintro ⟨zone, hosted⟩
    rcases Option.isSome_iff_exists.mp (Std.ExtTreeMap.mem_iff_isSome_getElem?.mp hosted) with
      ⟨handler, found⟩
    rw [← Std.ExtTreeMap.length_toList]
    exact List.length_pos_of_mem (Std.ExtTreeMap.mem_toList_iff_getElem?_eq_some.mpr found)

/-- A game server answers a request completely if and only if it hosts a zone
and its id is the position of a bit. -/
theorem completeAnswer_iff (gameServer : GameServer D) :
    CompleteAnswer gameServer ↔
      (∃ zone, gameServer.Hosts zone) ∧ HasBit gameServer.mServerId := by
  constructor
  · intro complete
    refine ⟨exists_answer_iff.mp complete.answered, ?_⟩
    rcases List.exists_mem_of_ne_nil _ complete.answered with ⟨answer, _⟩
    let server : Server D :=
      { address := 0, id := gameServer.mServerId, distribution := [],
        totalLoad := answer.mZoneLoad, online := true }
    rcases (complete.clears [server] 0 (List.mem_singleton_self _)).2 with ⟨_, _, _, clears⟩
    unfold clearBit at clears
    split at clears
    · next inside => exact inside
    · cases clears
  · rintro ⟨hosts, inside⟩
    have answered := exists_answer_iff.mpr hosts
    refine ⟨answered, nodup_sendZoneLoads gameServer, fun _ _ => mem_sendZoneLoads_iff, ?_, ?_, ?_⟩
    · intro i answer next found foundNext
      have count := (count_of_getElem? found).1
      have countNext := (count_of_getElem? foundNext).1
      omega
    · intro i answer found
      have count := (count_of_getElem? found).1
      have within := (List.getElem?_eq_some_iff.mp found).1
      omega
    · intro servers mask listed
      constructor
      · intro count before
        rcases handle_before_last before servers mask with ⟨left, handled, _⟩
        exact ⟨left, handled⟩
      · rcases exists_clearBit inside mask with ⟨cleared, clears, _⟩
        rcases handle_all answered listed clears with ⟨left, handled⟩
        exact ⟨left, cleared, handled, clears⟩

/-- A game server that Control has named 2 and given no zones. -/
def idleServer : GameServer ℚ where
  mServerId := 2
  mZones := ∅
  mClients := ∅
  mRouters := []

theorem idleServer_silent : ¬ CompleteAnswer idleServer := by
  intro complete
  have count := length_sendZoneLoads idleServer
  rw [idleServer, Std.ExtTreeMap.size_empty, List.length_eq_zero_iff] at count
  exact complete.answered count

end GameServer
end Pxc
