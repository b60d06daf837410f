import Pxc.Control.ZoneCoverage
import Pxc.General.Channels
import Pxc.GameServer.Server

namespace Pxc
namespace Control

open General

/-!
# The initial zones at the game servers

Each message of the assignment is executed by the game server it was sent to.
A game server takes its id from the first of them, and starts a zone for every
message that bears this id.  Control puts the id of the receiving server into
each message, so a game server starts all the zones sent to it, whatever the
order in which the connections deliver.
-/

variable {D : Type} [Zero D] {nzones : Nat}

/-- A game server executes a message of the assignment. -/
def handleSetZone (gameServer : GameServer D) (message : SetZoneToServer) : GameServer D :=
  gameServer.execSetZoneToServer message.idZone message.idServer

/-- The connections to the game servers when Control begins to send, and the
game servers at their other ends, all just started. -/
def delivery (sent : List (Address × SetZoneToServer)) :
    Network Address SetZoneToServer (GameServer D) :=
  Network.opening sent fun _ => GameServer.fresh

/-- A game server that executes messages with one id has the zones they name. -/
theorem foldl_handleSetZone {id : Int} (messages : List SetZoneToServer)
    (oneId : ∀ message ∈ messages, message.idServer = id) (gameServer : GameServer D)
    (own : gameServer.mServerId = -1 ∨ gameServer.mServerId = id) :
    (messages ≠ [] → (messages.foldl handleSetZone gameServer).mServerId = id) ∧
      ∀ zone, (messages.foldl handleSetZone gameServer).Hosts zone ↔
        (∃ message ∈ messages, message.idZone = zone) ∨ gameServer.Hosts zone := by
  induction messages generalizing gameServer with
  | nil =>
      refine ⟨fun some => absurd rfl some, ?_⟩
      intro zone
      constructor
      · exact Or.inr
      · rintro (⟨message, member, _⟩ | already)
        · cases member
        · exact already
  | cons message rest inductionHypothesis =>
      have sameId := oneId message List.mem_cons_self
      rw [← sameId] at own
      rcases GameServer.execSetZoneToServer_own own message.idZone with ⟨named, hosts⟩
      have restId : ∀ other ∈ rest, other.idServer = id :=
        fun other member => oneId other (List.mem_cons_of_mem _ member)
      have namedNow : (handleSetZone gameServer message).mServerId = id := named.trans sameId
      rcases inductionHypothesis restId (handleSetZone gameServer message) (Or.inr namedNow) with
        ⟨namedAfter, hostsAfter⟩
      constructor
      · intro _
        by_cases last : rest = []
        · rw [last]
          exact namedNow
        · exact namedAfter last
      · intro zone
        rw [List.foldl_cons, hostsAfter, List.exists_mem_cons_iff]
        change _ ∨ (gameServer.execSetZoneToServer message.idZone message.idServer).Hosts zone ↔ _
        rw [hosts zone, or_assoc, or_left_comm]

/-- Control and the game servers agree: every game server hosts the zones of
its distribution; every zone is hosted by one game server, which the table
names; and a game server that has a zone knows its id. -/
structure Agrees (final : Assignment D nzones) (games : Address → GameServer D) : Prop where
  distributions : ∀ server ∈ final.servers, ∀ zone : Int,
    (games server.address).Hosts zone ↔ server.Holds zone
  once : ∀ zone : Fin nzones, ∃ server ∈ final.servers,
    (∀ other ∈ final.servers, (games other.address).Hosts (zone : Nat) ↔ other = server) ∧
      final.zoneServer zone = some server.address
  named : ∀ server ∈ final.servers, server.distribution ≠ [] →
    (games server.address).mServerId = server.id

/-- What a game server has become when the messages sent to it have been
executed. -/
theorem Recorded.received {fleet : Fleet D nzones} (startUp : StartUp fleet)
    {final : Assignment D nzones} (recorded : Recorded fleet 0 final) {server : Server D}
    (member : server ∈ fleet.servers) :
    ((server.loaded final.sent).distribution ≠ [] →
      ((Network.messagesTo server.address final.sent).foldl handleSetZone
        (GameServer.fresh : GameServer D)).mServerId = server.id) ∧
      ∀ zone, ((Network.messagesTo server.address final.sent).foldl handleSetZone
        (GameServer.fresh : GameServer D)).Hosts zone ↔ (server.loaded final.sent).Holds zone := by
  have oneId : ∀ message ∈ Network.messagesTo server.address final.sent,
      message.idServer = server.id := by
    intro message listed
    rcases recorded.recipients _ (Network.mem_messagesTo.mp listed) with
      ⟨other, among, _, received, named⟩
    have same : server = other := List.inj_on_of_nodup_map startUp.distinct member among received
    rw [same]
    exact named
  rcases foldl_handleSetZone _ oneId (GameServer.fresh : GameServer D) (Or.inl rfl) with
    ⟨named, hosts⟩
  constructor
  · intro given
    apply named
    intro nothing
    rw [Server.loaded_distribution, startUp.fresh server member, List.nil_append] at given
    apply given
    have empty : zonesSentTo final.sent server.address =
        (Network.messagesTo server.address final.sent).map SetZoneToServer.idZone := by
      rw [Network.messagesTo, List.map_map]
      rfl
    rw [empty, nothing]
    rfl
  · intro zone
    rw [hosts, startUp.holds_iff member]
    constructor
    · rintro (⟨message, listed, same⟩ | already)
      · exact ⟨_, Network.mem_messagesTo.mp listed, rfl, same⟩
      · exact absurd already (Std.ExtTreeMap.not_mem_empty)
    · rintro ⟨⟨address, message⟩, isSent, received, same⟩
      cases received
      exact Or.inl ⟨message, Network.mem_messagesTo.mpr isSent, same⟩

/-- Whatever the order of delivery, Control and the game servers agree on the
zones when everything has been delivered. -/
theorem zoneAssignment_agrees (fleet : Fleet D nzones) (startUp : StartUp fleet)
    (allOnline : ∀ server ∈ fleet.servers, server.online = true) :
    ∃ final, Assigns fleet final ∧
      ∀ moves network, run (Network.step handleSetZone) (delivery final.sent) moves = some network →
        network.Finished → Agrees final network.states := by
  have member := List.head_mem startUp.nonempty
  have online := allOnline _ member
  rcases startUp.exists_assigns ⟨_, member, online⟩ (List.head?_eq_some_head startUp.nonempty)
    (Or.inl online) with ⟨final, assigned, recorded, length⟩
  refine ⟨final, assigned, ?_⟩
  intro moves network ran finished
  have received : ∀ server ∈ final.servers,
      (server.distribution ≠ [] → (network.states server.address).mServerId = server.id) ∧
        ∀ zone, (network.states server.address).Hosts zone ↔ server.Holds zone := by
    intro server among
    rw [recorded.servers] at among
    rcases List.mem_map.mp among with ⟨original, listed, rfl⟩
    rw [Server.loaded_address, Server.loaded_id, Network.states_of_finished _ ran finished]
    exact recorded.received startUp listed
  refine ⟨fun server among => (received server among).2, ?_,
    fun server among => (received server among).1⟩
  intro zone
  rcases startUp.covers_of_recorded recorded length zone with
    ⟨server, among, _, holds, table, _⟩
  refine ⟨server, among, ?_, table⟩
  intro other amongToo
  rw [(received other amongToo).2]
  exact holds other amongToo

variable (D) in
/-- Some order of delivery delivers everything. -/
theorem exists_delivered (sent : List (Address × SetZoneToServer)) :
    ∃ moves network, run (Network.step handleSetZone)
      (delivery sent : Network _ _ (GameServer D)) moves = some network ∧ network.Finished :=
  Network.exists_finished handleSetZone sent _

/-- Three servers, of which the first hosts two zones. -/
theorem zoneAssignment_agrees_threeServers :
    ∃ final, Assigns (threeServers true) final ∧
      ∃ games : Address → GameServer ℚ, Agrees final games := by
  rcases zoneAssignment_agrees (threeServers true) (threeServers_startUp true)
    threeServers_online with ⟨final, assigned, agrees⟩
  rcases exists_delivered ℚ final.sent with ⟨moves, network, ran, finished⟩
  exact ⟨final, assigned, network.states, agrees moves network ran finished⟩

end Control
end Pxc
