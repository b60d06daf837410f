import Pxc.Control.ZoneAssignment

namespace Pxc
namespace Control

open General

/-!
# Which zones are assigned

Both loops give zones in increasing order, and everything a call changes can
be read off the messages it has sent.  The first zone is 0 when the first loop
gives any, and the number of the zones that the first loop leaves out when it
gives none.  So the zones that the first loop leaves out are never given, and
all the others are.
-/

variable {D : Type} [Zero D] {nzones : Nat}

/-- The zones of the messages sent to one server, in order. -/
def zonesSentTo (sent : List (Address × SetZoneToServer)) (address : Address) : List Int :=
  (sent.filter fun message => message.1 = address).map fun message => message.2.idZone

/-- A server with the zones that were sent to it. -/
def Server.loaded (sent : List (Address × SetZoneToServer)) (server : Server D) : Server D :=
  (zonesSentTo sent server.address).foldl Server.pushZone server

theorem zonesSentTo_concat (sent : List (Address × SetZoneToServer))
    (message : Address × SetZoneToServer) (address : Address) :
    zonesSentTo (sent ++ [message]) address =
      if message.1 = address then zonesSentTo sent address ++ [message.2.idZone]
      else zonesSentTo sent address := by
  unfold zonesSentTo
  rw [List.filter_append, List.map_append]
  by_cases same : message.1 = address
  · rw [if_pos same, List.filter_singleton, decide_eq_true same]
    rfl
  · rw [if_neg same, List.filter_singleton, decide_eq_false same]
    exact List.append_nil _

/-- What a server keeps when zones are given to it. -/
theorem Server.foldl_pushZone_fields (zones : List Int) (server : Server D) :
    (zones.foldl Server.pushZone server).address = server.address ∧
      (zones.foldl Server.pushZone server).id = server.id ∧
      (zones.foldl Server.pushZone server).online = server.online ∧
      (zones.foldl Server.pushZone server).distribution =
        server.distribution ++ zones.map fun zone => ⟨zone, 0⟩ := by
  induction zones generalizing server with
  | nil => exact ⟨rfl, rfl, rfl, (List.append_nil _).symm⟩
  | cons zone rest inductionHypothesis =>
      rcases inductionHypothesis (server.pushZone zone) with ⟨address, id, online, distribution⟩
      refine ⟨address, id, online, ?_⟩
      rw [List.foldl_cons, distribution, pushZone, List.append_assoc, List.map_cons]
      rfl

@[simp] theorem Server.loaded_address (sent : List (Address × SetZoneToServer))
    (server : Server D) : (server.loaded sent).address = server.address :=
  (foldl_pushZone_fields _ server).1

@[simp] theorem Server.loaded_id (sent : List (Address × SetZoneToServer))
    (server : Server D) : (server.loaded sent).id = server.id :=
  (foldl_pushZone_fields _ server).2.1

@[simp] theorem Server.loaded_online (sent : List (Address × SetZoneToServer))
    (server : Server D) : (server.loaded sent).online = server.online :=
  (foldl_pushZone_fields _ server).2.2.1

theorem Server.loaded_distribution (sent : List (Address × SetZoneToServer))
    (server : Server D) : (server.loaded sent).distribution =
      server.distribution ++ (zonesSentTo sent server.address).map fun zone => ⟨zone, 0⟩ :=
  (foldl_pushZone_fields _ server).2.2.2

theorem Server.loaded_concat (sent : List (Address × SetZoneToServer))
    (message : Address × SetZoneToServer) (server : Server D) :
    server.loaded (sent ++ [message]) =
      if server.address = message.1 then (server.loaded sent).pushZone message.2.idZone
      else server.loaded sent := by
  unfold loaded
  rw [zonesSentTo_concat]
  by_cases same : message.1 = server.address
  · rw [if_pos same, if_pos same.symm, List.foldl_concat]
  · rw [if_neg same, if_neg (Ne.symm same)]

/-- Everything a call has changed, as the messages sent say it.  The zones
given so far follow each other from the first one on. -/
structure Recorded (fleet : Fleet D nzones) (first : Nat) (s : Assignment D nzones) : Prop where
  servers : s.servers = fleet.servers.map (Server.loaded s.sent)
  recipients : ∀ message ∈ s.sent, ∃ server ∈ fleet.servers, server.online = true ∧
    message.1 = server.address ∧ message.2.idServer = server.id
  zones : s.sent.map (fun message => message.2.idZone) =
    (List.range' first s.sent.length).map Int.ofNat
  table : ∀ message ∈ s.sent, ∀ zone : Fin nzones, message.2.idZone = (zone : Nat) →
    s.zoneServer zone = some message.1

theorem recorded_begin (fleet : Fleet D nzones) (first : Nat) :
    Recorded fleet first fleet.begin where
  servers := (List.map_id' fleet.servers).symm
  recipients := by
    intro message member
    cases member
  zones := rfl
  table := by
    intro message member
    cases member

theorem Recorded.zone_lt {fleet : Fleet D nzones} {first : Nat} {s : Assignment D nzones}
    (recorded : Recorded fleet first s) {message : Address × SetZoneToServer}
    (member : message ∈ s.sent) :
    ∃ zone : Nat, message.2.idZone = zone ∧ first ≤ zone ∧ zone < first + s.sent.length := by
  have listed : message.2.idZone ∈ s.sent.map fun message => message.2.idZone :=
    List.mem_map_of_mem member
  rw [recorded.zones] at listed
  rcases List.mem_map.mp listed with ⟨zone, within, same⟩
  exact ⟨zone, same.symm, List.mem_range'_1.mp within⟩

/-- The next zone given to a server keeps the record. -/
theorem Recorded.give {fleet : Fleet D nzones} {first : Nat} {s next : Assignment D nzones}
    (recorded : Recorded fleet first s) {server : Server D} (member : server ∈ fleet.servers)
    (online : server.online = true)
    (given : s.give (first + s.sent.length) server = some next) :
    Recorded fleet first next ∧
      next.sent = s.sent ++ [(server.address, ⟨(first + s.sent.length : Nat), server.id⟩)] ∧
      next.zonesRestants = s.zonesRestants ∧ next.zoneIndex = s.zoneIndex ∧
      next.returned = s.returned := by
  unfold Assignment.give at given
  split at given
  · next inside =>
    cases given
    refine ⟨⟨?_, ?_, ?_, ?_⟩, rfl, rfl, rfl, rfl⟩
    · rw [recorded.servers, List.map_map]
      apply List.map_congr_left
      intro other _
      rw [Server.loaded_concat]
      exact if_congr (by rw [Server.loaded_address]) rfl rfl
    · intro message sent
      rcases List.mem_append.mp sent with earlier | latest
      · exact recorded.recipients message earlier
      · cases List.mem_singleton.mp latest
        exact ⟨server, member, online, rfl, rfl⟩
    · rw [List.map_append, recorded.zones, List.length_append, List.length_singleton,
        List.range'_concat, List.map_append, Nat.one_mul]
      rfl
    · intro message sent zone same
      rcases List.mem_append.mp sent with earlier | latest
      · rcases recorded.zone_lt earlier with ⟨position, found, _, below⟩
        have different : zone ≠ ⟨first + s.sent.length, inside⟩ := by
          intro equal
          have values : (zone : Nat) = first + s.sent.length := congrArg Fin.val equal
          rw [found] at same
          have positions : position = zone := Int.ofNat_inj.mp same
          omega
        exact (Function.update_of_ne different _ _).trans
          (recorded.table message earlier zone same)
      · cases List.mem_singleton.mp latest
        have equal : zone = ⟨first + s.sent.length, inside⟩ := by
          ext
          exact (Int.ofNat_inj.mp same).symm
        rw [equal]
        exact Function.update_self _ _ _
  · cases given

theorem exists_give (s : Assignment D nzones) {zone : Nat} (inside : zone < nzones)
    (server : Server D) : ∃ next, s.give zone server = some next := by
  rw [Assignment.give, dif_pos inside]
  exact ⟨_, rfl⟩

/-! ## The first loop -/

/-- What the first loop has done before its iteration `i`, when the server it
works on is online. -/
structure Dealt (fleet : Fleet D nzones) (server : Server D) (i : Nat)
    (s : Assignment D nzones) : Prop extends Recorded fleet 0 s where
  count : s.sent.length = i
  recipient : ∀ message ∈ s.sent, message.1 = server.address
  left : s.zonesRestants = nzones - i
  index : s.zoneIndex = fleet.modZonesPerServer
  unreturned : s.returned = false

theorem dealt_begin (fleet : Fleet D nzones) (server : Server D) :
    Dealt fleet server 0 fleet.begin where
  toRecorded := recorded_begin fleet 0
  count := rfl
  recipient := by
    intro message member
    cases member
  left := (Int.sub_zero _).symm
  index := rfl
  unreturned := rfl

theorem Dealt.giveRemainder {fleet : Fleet D nzones} {server : Server D} {i : Nat}
    {s : Assignment D nzones} (dealt : Dealt fleet server i s) (inside : i < nzones)
    (member : server ∈ fleet.servers) (online : server.online = true) :
    ∃ next, giveRemainder server s i = some next ∧ Dealt fleet server (i + 1) next := by
  have position : 0 + s.sent.length = i := by rw [Nat.zero_add, dealt.count]
  rcases exists_give s inside server with ⟨given, gives⟩
  rcases dealt.toRecorded.give member online (by rw [position]; exact gives) with
    ⟨recorded, sent, left, index, returned⟩
  refine ⟨{ given with zonesRestants := given.zonesRestants - 1 }, ?_, ⟨recorded.1, recorded.2,
    recorded.3, recorded.4⟩, ?_, ?_, ?_, ?_, ?_⟩
  · rw [Control.giveRemainder, if_pos online, gives]
    rfl
  · change given.sent.length = i + 1
    rw [sent, List.length_append, dealt.count]
    rfl
  · intro message isSent
    change message ∈ given.sent at isSent
    rw [sent] at isSent
    rcases List.mem_append.mp isSent with earlier | latest
    · exact dealt.recipient message earlier
    · rw [List.mem_singleton.mp latest]
  · change given.zonesRestants - 1 = _
    rw [left, dealt.left]
    omega
  · exact index.trans dealt.index
  · exact returned.trans dealt.unreturned

/-- The first loop when its server is online: it deals the first zones. -/
theorem exists_dealt {fleet : Fleet D nzones} {server : Server D}
    (member : server ∈ fleet.servers) (online : server.online = true) {count : Nat}
    (inside : count ≤ nzones) :
    ∃ s, (List.range count).foldlM (giveRemainder server) fleet.begin = some s ∧
      Dealt fleet server count s := by
  induction count with
  | zero => exact ⟨fleet.begin, rfl, dealt_begin fleet server⟩
  | succ count inductionHypothesis =>
      rcases inductionHypothesis (Nat.le_of_succ_le inside) with ⟨s, done, dealt⟩
      rcases dealt.giveRemainder inside member online with ⟨next, given, dealtNext⟩
      refine ⟨next, ?_, dealtNext⟩
      rw [List.range_succ, foldlM_concat, done]
      exact given

/-- The first loop when its server is offline: it does nothing. -/
theorem giveRemainder_offline {fleet : Fleet D nzones} {server : Server D}
    (offline : server.online = false) (count : Nat) :
    (List.range count).foldlM (giveRemainder server) fleet.begin = some fleet.begin := by
  induction count with
  | zero => rfl
  | succ count inductionHypothesis =>
      rw [List.range_succ, foldlM_concat, inductionHypothesis]
      change giveRemainder server fleet.begin count = _
      rw [giveRemainder, offline]
      rfl

/-! ## The second loop -/

/-- A record whose last zone is the one before `zoneIndex`. -/
structure Indexed (fleet : Fleet D nzones) (first : Nat) (s : Assignment D nzones) : Prop
    extends Recorded fleet first s where
  index : s.zoneIndex = first + s.sent.length

theorem visit_returned {s : Assignment D nzones} (returned : s.returned = true)
    (server : Server D) : visit s server = some s :=
  if_pos returned

theorem visit_offline {s : Assignment D nzones} {server : Server D}
    (offline : server.online = false) : visit s server = some s := by
  rw [visit, offline]
  split <;> rfl

theorem visit_loaded (sent : List (Address × SetZoneToServer)) (s : Assignment D nzones)
    (server : Server D) : visit s (server.loaded sent) = visit s server := by
  simp only [visit, Assignment.give, Server.loaded_online, Server.loaded_address,
    Server.loaded_id]

theorem Recorded.goRound_eq {fleet : Fleet D nzones} {first : Nat} {s : Assignment D nzones}
    (recorded : Recorded fleet first s) : goRound s = fleet.servers.foldlM visit s := by
  rw [goRound, recorded.servers, List.foldlM_map]
  congr 1
  funext state server
  exact visit_loaded _ state server

/-- What a visit does to a server that is online. -/
theorem Indexed.visit {fleet : Fleet D nzones} {first : Nat} {s next : Assignment D nzones}
    (indexed : Indexed fleet first s) {server : Server D} (member : server ∈ fleet.servers)
    (online : server.online = true) (unreturned : s.returned = false)
    (visited : visit s server = some next) :
    Indexed fleet first next ∧
      next.sent = s.sent ++ [(server.address, ⟨s.zoneIndex, server.id⟩)] ∧
      (if s.zoneIndex + 1 = nzones then next.returned = true
        else next.returned = false ∧ next.zonesRestants = s.zonesRestants - 1) := by
  rw [Control.visit, unreturned, online] at visited
  simp only [Bool.false_eq_true, if_false, if_true] at visited
  rcases Option.map_eq_some_iff.mp visited with ⟨given, gives, done⟩
  rw [indexed.index] at gives
  rcases indexed.toRecorded.give member online gives with
    ⟨recorded, sent, left, index, returned⟩
  rw [← indexed.index] at sent
  have length : first + given.sent.length = s.zoneIndex + 1 := by
    rw [sent, List.length_append, indexed.index]
    exact (Nat.add_assoc _ _ _).symm
  by_cases last : s.zoneIndex + 1 = nzones
  · rw [index, if_pos last] at done
    rw [if_pos last, ← done]
    refine ⟨⟨⟨recorded.1, recorded.2, recorded.3, recorded.4⟩, length.symm⟩, sent, rfl⟩
  · rw [index, if_neg last] at done
    rw [if_neg last, ← done]
    refine ⟨⟨⟨recorded.1, recorded.2, recorded.3, recorded.4⟩, length.symm⟩, sent,
      returned.trans unreturned, ?_⟩
    change given.zonesRestants - 1 = _
    rw [left]

theorem Indexed.of_visit {fleet : Fleet D nzones} {first : Nat} {s next : Assignment D nzones}
    (indexed : Indexed fleet first s) {server : Server D} (member : server ∈ fleet.servers)
    (visited : Control.visit s server = some next) : Indexed fleet first next := by
  by_cases returned : s.returned = true
  · rw [visit_returned returned] at visited
    cases visited
    exact indexed
  · by_cases online : server.online = true
    · exact (indexed.visit member online (Bool.eq_false_of_not_eq_true returned) visited).1
    · rw [visit_offline (Bool.eq_false_of_not_eq_true online)] at visited
      cases visited
      exact indexed

theorem Indexed.of_ends {fleet : Fleet D nzones} {first : Nat} {s final : Assignment D nzones}
    (indexed : Indexed fleet first s) (ended : Ends Remaining goRound s final) :
    Indexed fleet first final := by
  refine (ended.invariant (Indexed fleet first) ?_ indexed).1
  intro state next held _ rounded
  rw [held.goRound_eq] at rounded
  refine foldlM_invariant (fun _ s => Indexed fleet first s) fleet.servers held ?_ rounded
  intro before server after s next split held visited
  have member : server ∈ fleet.servers := by
    rw [split]
    exact List.mem_append_right _ List.mem_cons_self
  exact held.of_visit member visited

/-- The second loop when no zone has been left out: the zones left are those
from `zoneIndex` on. -/
structure Rounding (fleet : Fleet D nzones) (s : Assignment D nzones) : Prop
    extends Indexed fleet 0 s where
  left : s.returned = false → s.zonesRestants + s.zoneIndex = nzones
  within : s.zoneIndex ≤ nzones
  ended : s.returned = true → s.zoneIndex = nzones

/-- A visit is defined as long as zones are left, and gives one when the
server is online. -/
theorem Rounding.visit {fleet : Fleet D nzones} {s : Assignment D nzones}
    (rounding : Rounding fleet s) (below : s.returned = false → s.zoneIndex < nzones)
    {server : Server D} (member : server ∈ fleet.servers) :
    ∃ next, Control.visit s server = some next ∧ Rounding fleet next ∧
      (next.returned = false → next.zoneIndex < nzones) ∧ s.zoneIndex ≤ next.zoneIndex ∧
      (s.returned = false → server.online = true → s.zoneIndex < next.zoneIndex) := by
  by_cases returned : s.returned = true
  · refine ⟨s, visit_returned returned server, rounding, below, Nat.le_refl _, ?_⟩
    intro unreturned
    rw [returned] at unreturned
    cases unreturned
  · have unreturned := Bool.eq_false_of_not_eq_true returned
    by_cases online : server.online = true
    · rcases exists_give s (below unreturned) server with ⟨given, gives⟩
      cases visited : Control.visit s server with
      | none =>
          rw [Control.visit, unreturned, online] at visited
          simp only [Bool.false_eq_true, if_false, if_true, gives] at visited
          cases visited
      | some next =>
          rcases rounding.toIndexed.visit member online unreturned visited with
            ⟨indexed, sent, counters⟩
          have index : next.zoneIndex = s.zoneIndex + 1 := by
            rw [indexed.index, sent, rounding.index, List.length_append]
            rfl
          have before := below unreturned
          have left := rounding.left unreturned
          refine ⟨next, rfl, ⟨indexed, ?_, ?_, ?_⟩, ?_, ?_, ?_⟩
          all_goals split at counters
          all_goals grind
    · refine ⟨s, visit_offline (Bool.eq_false_of_not_eq_true online), rounding, below,
        Nat.le_refl _, ?_⟩
      intro _ isOnline
      exact absurd isOnline online

/-- One round gives at least one zone. -/
theorem Rounding.goRound {fleet : Fleet D nzones} {s : Assignment D nzones}
    (rounding : Rounding fleet s) (remaining : Remaining s)
    (someOnline : ∃ server ∈ fleet.servers, server.online = true) :
    ∃ next, Control.goRound s = some next ∧ Rounding fleet next ∧
      s.zoneIndex < next.zoneIndex := by
  have below : s.zoneIndex < nzones := by
    have left := rounding.left remaining.2
    have positive := remaining.1
    omega
  let holds : List (Server D) → Assignment D nzones → Prop := fun before t =>
    Rounding fleet t ∧ (t.returned = false → t.zoneIndex < nzones) ∧
      s.zoneIndex ≤ t.zoneIndex ∧
      ((∃ server ∈ before, server.online = true) → s.zoneIndex < t.zoneIndex)
  have starts : holds [] s := by
    refine ⟨rounding, fun _ => below, Nat.le_refl _, ?_⟩
    rintro ⟨server, member, _⟩
    cases member
  have visits : ∀ before server after t, fleet.servers = before ++ server :: after →
      holds before t → ∃ next, Control.visit t server = some next ∧
        holds (before ++ [server]) next := by
    rintro before server after t split ⟨held, belowHere, least, advanced⟩
    have member : server ∈ fleet.servers := by
      rw [split]
      exact List.mem_append_right _ List.mem_cons_self
    rcases held.visit belowHere member with ⟨next, visited, kept, belowNext, more, gave⟩
    refine ⟨next, visited, kept, belowNext, Nat.le_trans least more, ?_⟩
    rintro ⟨other, among, online⟩
    rcases List.mem_append.mp among with earlier | latest
    · exact Nat.lt_of_lt_of_le (advanced ⟨other, earlier, online⟩) more
    · cases List.mem_singleton.mp latest
      by_cases returned : t.returned = true
      · have full := held.ended returned
        omega
      · exact Nat.lt_of_le_of_lt least (gave (Bool.eq_false_of_not_eq_true returned) online)
  rcases exists_foldlM holds fleet.servers starts visits with
    ⟨next, visited, kept, _, _, advanced⟩
  exact ⟨next, rounding.goRound_eq.trans visited, kept, advanced someOnline⟩

/-- A loop that has stopped has given every zone. -/
theorem Rounding.zoneIndex_eq {fleet : Fleet D nzones} {s : Assignment D nzones}
    (rounding : Rounding fleet s) (stopped : ¬ Remaining s) : s.zoneIndex = nzones := by
  by_cases returned : s.returned = true
  · exact rounding.ended returned
  · have unreturned := Bool.eq_false_of_not_eq_true returned
    have left := rounding.left unreturned
    have within := rounding.within
    have none : ¬ 0 < s.zonesRestants := fun some => stopped ⟨some, unreturned⟩
    omega

/-- The second loop returns, and has then given every zone. -/
theorem Rounding.exists_ends {fleet : Fleet D nzones} {s : Assignment D nzones}
    (rounding : Rounding fleet s)
    (someOnline : ∃ server ∈ fleet.servers, server.online = true) :
    ∃ final, Ends Remaining Control.goRound s final ∧ Recorded fleet 0 final ∧
      final.sent.length = nzones := by
  have iterates : ∀ t, Rounding fleet t → Remaining t → ∃ next, Control.goRound t = some next ∧
      Rounding fleet next ∧ nzones - next.zoneIndex < nzones - t.zoneIndex := by
    intro t held remaining
    rcases held.goRound remaining someOnline with ⟨next, rounded, kept, advanced⟩
    refine ⟨next, rounded, kept, ?_⟩
    have within := kept.within
    omega
  rcases General.exists_ends (Rounding fleet) (fun t => nzones - t.zoneIndex) iterates rounding
    with ⟨final, ended, kept, stopped⟩
  refine ⟨final, ended, kept.toRecorded, ?_⟩
  have length : final.zoneIndex = final.sent.length := kept.index.trans (Nat.zero_add _)
  rw [← length]
  exact kept.zoneIndex_eq stopped

omit [Zero D] in
theorem StartUp.modZonesPerServer_eq {fleet : Fleet D nzones} (startUp : StartUp fleet) :
    fleet.modZonesPerServer = nzones % fleet.servers.length := by
  rw [Fleet.modZonesPerServer, startUp.counted, ← Int.ofNat_tmod]
  rfl

omit [Zero D] in
theorem StartUp.modZonesPerServer_le {fleet : Fleet D nzones} (startUp : StartUp fleet) :
    fleet.modZonesPerServer ≤ nzones := by
  rw [startUp.modZonesPerServer_eq]
  exact Nat.mod_le _ _

theorem StartUp.assigns_iff {fleet : Fleet D nzones} (startUp : StartUp fleet)
    {server : Server D} (first : fleet.servers.head? = some server)
    {final : Assignment D nzones} :
    Assigns fleet final ↔
      ∃ s, (List.range fleet.modZonesPerServer).foldlM (giveRemainder server) fleet.begin = some s ∧
        Ends Remaining goRound s final := by
  have some : fleet.numberServers ≠ 0 := by
    have length := List.length_pos_iff.mpr startUp.nonempty
    have counted := startUp.counted
    omega
  simp only [Assigns, zoneAssignment, first, if_neg some, Option.bind_eq_some_iff, Ends]
  constructor
  · rintro ⟨bound, s, dealt, ended⟩
    exact ⟨s, dealt, bound, ended⟩
  · rintro ⟨s, dealt, bound, ended⟩
    exact ⟨bound, s, dealt, ended⟩

theorem Assigns.unique {fleet : Fleet D nzones} {final other : Assignment D nzones}
    (assigned : Assigns fleet final) (also : Assigns fleet other) : final = other := by
  rcases assigned with ⟨bound, done⟩
  rcases also with ⟨boundToo, doneToo⟩
  unfold zoneAssignment at done doneToo
  cases first : fleet.servers.head? with
  | none =>
      rw [first] at done
      cases done
  | some server =>
      rw [first] at done doneToo
      by_cases zero : fleet.numberServers = 0
      · simp only [if_pos zero, reduceCtorEq] at done
      · simp only [if_neg zero] at done doneToo
        rcases Option.bind_eq_some_iff.mp done with ⟨s, dealt, ended⟩
        rcases Option.bind_eq_some_iff.mp doneToo with ⟨t, dealtToo, endedToo⟩
        cases Option.mem_unique dealt dealtToo
        exact Ends.unique ⟨bound, ended⟩ ⟨boundToo, endedToo⟩

/-- The first loop leaves out no zone when its server is online, or no zone is
left over. -/
theorem StartUp.exists_dealt {fleet : Fleet D nzones} (startUp : StartUp fleet)
    {server : Server D} (first : fleet.servers.head? = some server)
    (dealt : server.online = true ∨ nzones % fleet.servers.length = 0) :
    ∃ s, (List.range fleet.modZonesPerServer).foldlM (giveRemainder server) fleet.begin = some s ∧
      Dealt fleet server fleet.modZonesPerServer s := by
  rcases dealt with online | none
  · exact Control.exists_dealt (List.mem_of_mem_head? first) online startUp.modZonesPerServer_le
  · rw [startUp.modZonesPerServer_eq, none]
    exact ⟨fleet.begin, rfl, dealt_begin fleet server⟩

theorem StartUp.rounding {fleet : Fleet D nzones} (startUp : StartUp fleet) {server : Server D}
    {s : Assignment D nzones} (dealt : Dealt fleet server fleet.modZonesPerServer s) :
    Rounding fleet s := by
  have below := startUp.modZonesPerServer_le
  have index := dealt.index
  have count := dealt.count
  have left := dealt.left
  refine ⟨⟨dealt.toRecorded, ?_⟩, ?_, ?_, ?_⟩
  · omega
  · intro _
    omega
  · omega
  · intro returned
    rw [dealt.unreturned] at returned
    cases returned

/-- A call that leaves out no zone returns, and has then given every zone in
order. -/
theorem StartUp.exists_assigns {fleet : Fleet D nzones} (startUp : StartUp fleet)
    (someOnline : ∃ server ∈ fleet.servers, server.online = true) {server : Server D}
    (first : fleet.servers.head? = some server)
    (dealt : server.online = true ∨ nzones % fleet.servers.length = 0) :
    ∃ final, Assigns fleet final ∧ Recorded fleet 0 final ∧ final.sent.length = nzones := by
  rcases startUp.exists_dealt first dealt with ⟨s, done, held⟩
  rcases (startUp.rounding held).exists_ends someOnline with ⟨final, ended, recorded, length⟩
  exact ⟨final, (startUp.assigns_iff first).mpr ⟨s, done, ended⟩, recorded, length⟩

/-- Whichever zones a call has given, its messages say what it has changed. -/
theorem StartUp.exists_recorded {fleet : Fleet D nzones} (startUp : StartUp fleet)
    {final : Assignment D nzones} (assigned : Assigns fleet final) :
    ∃ first, Recorded fleet first final := by
  have first := List.head?_eq_some_head startUp.nonempty
  rcases (startUp.assigns_iff first).mp assigned with ⟨s, done, ended⟩
  by_cases online : (fleet.servers.head startUp.nonempty).online = true
  · rcases startUp.exists_dealt first (Or.inl online) with ⟨t, dealt, held⟩
    cases Option.mem_unique done dealt
    exact ⟨0, ((startUp.rounding held).toIndexed.of_ends ended).toRecorded⟩
  · rw [giveRemainder_offline (Bool.eq_false_of_not_eq_true online)] at done
    cases done
    have indexed : Indexed fleet fleet.modZonesPerServer fleet.begin :=
      ⟨recorded_begin fleet _, rfl⟩
    exact ⟨_, (indexed.of_ends ended).toRecorded⟩

/-- A zone is held by one server only, which is online, is the one that the
table names, and is the only one that has been told to start the zone, once. -/
def Assignment.AssignsZone (final : Assignment D nzones) (zone : Fin nzones) : Prop :=
  ∃ server ∈ final.servers, server.online = true ∧
    (∀ other ∈ final.servers, other.Holds (zone : Nat) ↔ other = server) ∧
    final.zoneServer zone = some server.address ∧
    final.sent.filter (fun message => message.2.idZone = ((zone : Nat) : Int)) =
      [(server.address, ⟨(zone : Nat), server.id⟩)]

/-- What a call is for: it returns, and has then assigned every zone. -/
def CoversEveryZone (fleet : Fleet D nzones) : Prop :=
  ∃ final, Assigns fleet final ∧ ∀ zone, final.AssignsZone zone

theorem Recorded.nodup_zones {fleet : Fleet D nzones} {first : Nat} {s : Assignment D nzones}
    (recorded : Recorded fleet first s) :
    (s.sent.map fun message => message.2.idZone).Nodup := by
  rw [recorded.zones]
  exact (List.nodup_range').map fun _ _ => Int.ofNat.inj

theorem Recorded.nodup_distribution {fleet : Fleet D nzones} {first : Nat}
    {s : Assignment D nzones} (recorded : Recorded fleet first s) (startUp : StartUp fleet)
    {server : Server D} (member : server ∈ s.servers) :
    (server.distribution.map ZoneLoad.zone).Nodup := by
  rw [recorded.servers] at member
  rcases List.mem_map.mp member with ⟨original, listed, rfl⟩
  have zones : (original.loaded s.sent).distribution.map ZoneLoad.zone =
      zonesSentTo s.sent original.address := by
    rw [Server.loaded_distribution, startUp.fresh original listed, List.nil_append, List.map_map]
    exact List.map_id _
  rw [zones]
  exact recorded.nodup_zones.sublist (List.filter_sublist.map _)

theorem Recorded.ids {fleet : Fleet D nzones} {first : Nat} {s : Assignment D nzones}
    (recorded : Recorded fleet first s) :
    s.servers.map Server.id = fleet.servers.map Server.id := by
  rw [recorded.servers, List.map_map]
  exact List.map_congr_left fun server _ => server.loaded_id s.sent

/-- The zones that a server holds after a call are those sent to it. -/
theorem StartUp.holds_iff {fleet : Fleet D nzones} (startUp : StartUp fleet)
    {server : Server D} (member : server ∈ fleet.servers)
    {sent : List (Address × SetZoneToServer)} {zone : Int} :
    (server.loaded sent).Holds zone ↔
      ∃ message ∈ sent, message.1 = server.address ∧ message.2.idZone = zone := by
  rw [Server.Holds, Server.loaded_distribution, startUp.fresh server member, List.nil_append]
  constructor
  · rintro ⟨entry, listed, same⟩
    rcases List.mem_map.mp listed with ⟨given, among, rfl⟩
    rcases List.mem_map.mp among with ⟨message, chosen, rfl⟩
    rcases List.mem_filter.mp chosen with ⟨isSent, received⟩
    exact ⟨message, isSent, of_decide_eq_true received, same⟩
  · rintro ⟨message, isSent, received, same⟩
    refine ⟨⟨zone, 0⟩, List.mem_map.mpr ⟨zone, List.mem_map.mpr ⟨message, ?_, same⟩, rfl⟩, rfl⟩
    exact List.mem_filter.mpr ⟨isSent, decide_eq_true received⟩

/-- A message about a zone is the only one. -/
theorem Recorded.filter_zone {fleet : Fleet D nzones} {first : Nat} {s : Assignment D nzones}
    (recorded : Recorded fleet first s) {message : Address × SetZoneToServer}
    (member : message ∈ s.sent) :
    s.sent.filter (fun other => other.2.idZone = message.2.idZone) = [message] := by
  have once : (s.sent.filter fun other => other.2.idZone = message.2.idZone).length = 1 := by
    have counted : s.sent.countP (fun other => other.2.idZone = message.2.idZone) =
        (s.sent.map fun other => other.2.idZone).count message.2.idZone := by
      rw [List.count, List.countP_map]
      apply List.countP_congr
      intro other _
      simp only [decide_eq_true_eq, Function.comp_apply, beq_iff_eq]
    rw [← List.countP_eq_length_filter, counted]
    exact List.count_eq_one_of_mem recorded.nodup_zones (List.mem_map_of_mem member)
  rcases List.length_eq_one_iff.mp once with ⟨only, single⟩
  have listed : message ∈ s.sent.filter fun other => other.2.idZone = message.2.idZone :=
    List.mem_filter.mpr ⟨member, decide_eq_true rfl⟩
  rw [single] at listed ⊢
  rw [List.mem_singleton.mp listed]

/-- A call that has sent every zone has assigned every zone. -/
theorem StartUp.covers_of_recorded {fleet : Fleet D nzones} (startUp : StartUp fleet)
    {final : Assignment D nzones} (recorded : Recorded fleet 0 final)
    (all : final.sent.length = nzones) (zone : Fin nzones) : final.AssignsZone zone := by
  have listed : ((zone : Nat) : Int) ∈ final.sent.map fun message => message.2.idZone := by
    rw [recorded.zones, all]
    exact List.mem_map.mpr ⟨zone, List.mem_range'_1.mpr ⟨Nat.zero_le _, by omega⟩, rfl⟩
  rcases List.mem_map.mp listed with ⟨message, isSent, same⟩
  rcases recorded.recipients message isSent with ⟨server, member, online, received, named⟩
  have entry : server.loaded final.sent ∈ final.servers := by
    rw [recorded.servers]
    exact List.mem_map_of_mem member
  refine ⟨server.loaded final.sent, entry, (server.loaded_online _).trans online, ?_, ?_, ?_⟩
  · intro other among
    rw [recorded.servers] at among
    rcases List.mem_map.mp among with ⟨original, memberToo, rfl⟩
    rw [startUp.holds_iff memberToo]
    constructor
    · rintro ⟨otherMessage, isSentToo, receivedToo, sameToo⟩
      have oneMessage : otherMessage = message :=
        List.inj_on_of_nodup_map recorded.nodup_zones isSentToo isSent (sameToo.trans same.symm)
      have oneServer : original = server :=
        List.inj_on_of_nodup_map startUp.distinct memberToo member
          (by rw [← receivedToo, oneMessage, received])
      rw [oneServer]
    · intro equal
      refine ⟨message, isSent, ?_, same⟩
      rw [received, ← server.loaded_address final.sent, ← equal, original.loaded_address]
  · rw [Server.loaded_address, ← received]
    exact recorded.table message isSent zone same
  · have single := recorded.filter_zone isSent
    rw [same] at single
    rw [single, Server.loaded_address, Server.loaded_id, ← received, ← named, ← same]

/-- A zone that the first loop has left out stays without a server. -/
theorem Recorded.not_assignsZone {fleet : Fleet D nzones} {first : Nat}
    {final : Assignment D nzones} (recorded : Recorded fleet first final) {zone : Fin nzones}
    (leftOut : (zone : Nat) < first) : ¬ final.AssignsZone zone := by
  rintro ⟨server, _, _, _, _, once⟩
  have chosen : (server.address, (⟨(zone : Nat), server.id⟩ : SetZoneToServer)) ∈
      final.sent.filter fun message => message.2.idZone = ((zone : Nat) : Int) := by
    rw [once]
    exact List.mem_singleton_self _
  rcases recorded.zone_lt (List.mem_filter.mp chosen).1 with ⟨position, same, least, _⟩
  have equal : (zone : Nat) = position := Int.ofNat_inj.mp same
  omega

/-- When the first server is offline, the zones left over stay without a
server. -/
theorem StartUp.not_covers {fleet : Fleet D nzones} (startUp : StartUp fleet)
    {server : Server D} (first : fleet.servers.head? = some server)
    (offline : server.online = false) (leftOver : 0 < nzones % fleet.servers.length) :
    ¬ CoversEveryZone fleet := by
  rintro ⟨final, assigned, all⟩
  rcases (startUp.assigns_iff first).mp assigned with ⟨s, done, ended⟩
  rw [giveRemainder_offline offline] at done
  cases done
  have indexed : Indexed fleet fleet.modZonesPerServer fleet.begin :=
    ⟨recorded_begin fleet _, rfl⟩
  rw [← startUp.modZonesPerServer_eq] at leftOver
  exact (indexed.of_ends ended).toRecorded.not_assignsZone leftOver (all ⟨0, startUp.zones⟩)

/-- A call covers every zone exactly when the server that the left over zones
would go to is online, or no zone is left over. -/
theorem coversEveryZone_iff (fleet : Fleet D nzones) (startUp : StartUp fleet)
    (someOnline : ∃ server ∈ fleet.servers, server.online = true) :
    CoversEveryZone fleet ↔
      (∃ server, fleet.servers.head? = some server ∧ server.online = true) ∨
        nzones % fleet.servers.length = 0 := by
  have first := List.head?_eq_some_head startUp.nonempty
  constructor
  · intro covered
    by_contra neither
    rcases not_or.mp neither with ⟨noneOnline, leftOver⟩
    have offline : (fleet.servers.head startUp.nonempty).online = false := by
      apply Bool.eq_false_of_not_eq_true
      intro online
      exact noneOnline ⟨_, first, online⟩
    exact startUp.not_covers first offline (Nat.pos_of_ne_zero leftOver) covered
  · intro dealt
    have dealtFirst : (fleet.servers.head startUp.nonempty).online = true ∨
        nzones % fleet.servers.length = 0 := by
      rcases dealt with ⟨server, found, online⟩ | none
      · left
        rw [Option.mem_unique first found]
        exact online
      · exact Or.inr none
    rcases startUp.exists_assigns someOnline first dealtFirst with
      ⟨final, assigned, recorded, length⟩
    exact ⟨final, assigned, startUp.covers_of_recorded recorded length⟩

/-- Three servers for the four zones, the first with this link. -/
def threeServers (online : Bool) : Fleet ℚ NZONES where
  servers := [⟨10, 0, [], 0, online⟩, ⟨11, 1, [], 0, true⟩, ⟨12, 2, [], 0, true⟩]
  numberServers := 3
  zoneServer := fun _ => none

theorem threeServers_startUp (online : Bool) : StartUp (threeServers online) where
  zones := by decide
  nonempty := List.cons_ne_nil _ _
  counted := rfl
  distinct := by
    change [10, 11, 12].Nodup
    decide
  fresh := by
    intro server member
    simp only [threeServers, List.mem_cons, List.not_mem_nil, or_false] at member
    rcases member with rfl | rfl | rfl <;> rfl

theorem threeServers_online : ∀ server ∈ (threeServers true).servers, server.online = true := by
  intro server member
  simp only [threeServers, List.mem_cons, List.not_mem_nil, or_false] at member
  rcases member with rfl | rfl | rfl <;> rfl

theorem coversEveryZone_threeServers : CoversEveryZone (threeServers true) := by
  refine (coversEveryZone_iff (threeServers true) (threeServers_startUp true) ?_).mpr ?_
  · exact ⟨_, List.mem_cons_self, rfl⟩
  · exact Or.inl ⟨_, rfl, rfl⟩

/-- The first of three servers is offline: one zone is left over, and no
server gets it. -/
theorem coversEveryZone_fails :
    ¬ ∀ (nzones : Nat) (fleet : Fleet ℚ nzones), StartUp fleet →
      (∃ server ∈ fleet.servers, server.online = true) → CoversEveryZone fleet := by
  intro always
  have startUp := threeServers_startUp false
  have someOnline : ∃ server ∈ (threeServers false).servers, server.online = true :=
    ⟨_, List.mem_cons_of_mem _ List.mem_cons_self, rfl⟩
  exact startUp.not_covers rfl rfl (by decide) (always NZONES _ startUp someOnline)

end Control
end Pxc
