import Pxc.Control.Balance
import Pxc.Control.StartUp

namespace Pxc
namespace LoadCollection

open General Control

/-!
# Whether the total is the sum of the loads

Control sets a server's total to zero when it asks for the loads, and adds
each load as it arrives.  The total is the sum of the loads when the last
reply has been handled, as long as all replies since the reset belong to one
request.  A reply of an earlier round that arrives after the reset is counted
as well, although the load it reported is overwritten by the later reply.

The sum is taken in the order of the distribution, from zero, which is the
order in which the replies arrive.  No law of addition is used, so the result
holds of rounded arithmetic too.
-/

variable {D : Type}

/-- The sum of the loads, in their order. -/
def sumLoads [Zero D] [Add D] (distribution : List (ZoneLoad D)) : D :=
  distribution.foldl (fun sum entry => sum + entry.load) 0

theorem sumLoads_concat [Zero D] [Add D] (distribution : List (ZoneLoad D)) (entry : ZoneLoad D) :
    sumLoads (distribution ++ [entry]) = sumLoads distribution + entry.load := by
  unfold sumLoads
  rw [List.foldl_append]
  rfl

/-- If the last reply of the server arrives here, it is handled, and the
server's total is then the sum of its loads. -/
def AccountsLast [Zero D] [Add D] [Arithmetic D] [LT D] [DecidableLT D] (id : Int)
    (world : LoadCollection D) (event : Happening D) : Prop :=
  event = .deliver id → ∀ reply later, world.replies id = reply :: later →
    reply.remainingZones = 0 → ∃ next, step world event = some next ∧
      ∀ server ∈ next.control.servers, server.id = id →
        server.totalLoad = sumLoads server.distribution

/-- A request to the server is sent with nothing of an earlier one on its way. -/
def AsksQuiet (id : Int) (world : LoadCollection D) (event : Happening D) : Prop :=
  world.Requests event id → world.Quiet id

/-- What the assignment of the zones leaves: the servers' ids differ, and no
server has a zone twice. -/
structure Assigned (control : Control D) : Prop where
  ids : (control.servers.map Server.id).Nodup
  zones : ∀ server ∈ control.servers, (server.distribution.map ZoneLoad.zone).Nodup

/-- Control as `zoneAssignment` leaves it for the main loop. -/
def assignedControl (final : Assignment D NZONES) : Control D where
  servers := final.servers
  numberServers := final.numberServers
  zoneServer := final.zoneServer

/-- Whichever servers connect, and whichever zones are given to them, this is
what `main` enters its loop with. -/
theorem assigned_of_assigns [Zero D] {connects : Nat → Bool} {allocated : Nat → Control.Address}
    {memory : Nat → D} {numberServers : Nat} (distinct : Function.Injective allocated)
    (somebody : connected connects numberServers ≠ []) {final : Assignment D NZONES}
    (assigns : Assigns (connectedFleet connects (newServer allocated memory) numberServers)
      final) : Assigned (assignedControl final) := by
  have startUp : StartUp (connectedFleet connects (newServer allocated memory) numberServers) :=
    connectedFleet_startUp distinct somebody
  rcases startUp.exists_recorded assigns with ⟨first, recorded⟩
  refine ⟨?_, fun server member => recorded.nodup_distribution startUp member⟩
  change (final.servers.map Server.id).Nodup
  rw [recorded.ids, connectedFleet_ids]
  exact (List.nodup_range.filter _).map fun _ _ => Int.ofNat.inj

section Reply

variable {entries : List (ZoneLoad D)} {zone : Int}

private theorem report_absent (absent : zone ∉ entries.map ZoneLoad.zone) (zoneLoad : D) :
    (entries.map fun entry =>
        if entry.zone = zone then { entry with load := zoneLoad } else entry) =
      entries := by
  have same : ∀ entry ∈ entries,
      (if entry.zone = zone then { entry with load := zoneLoad } else entry) = entry := by
    intro entry member
    have different : entry.zone ≠ zone := by
      rintro rfl
      exact absent (List.mem_map_of_mem member)
    exact if_neg different
  exact (List.map_congr_left same).trans (List.map_id' entries)

private theorem add_absent [Add D] (absent : zone ∉ entries.map ZoneLoad.zone)
    (zoneLoad total : D) :
    entries.foldl (fun total entry => if entry.zone = zone then total + zoneLoad else total) total =
      total := by
  induction entries with
  | nil => rfl
  | cons entry rest inductionHypothesis =>
      rw [List.map_cons, List.mem_cons, not_or] at absent
      rw [List.foldl_cons, if_neg (Ne.symm absent.1)]
      exact inductionHypothesis absent.2

theorem report_of_split [Add D] {server : Server D} {done later : List (ZoneLoad D)}
    {entry : ZoneLoad D} (split : server.distribution = done ++ entry :: later)
    (distinct : (server.distribution.map ZoneLoad.zone).Nodup) (zoneLoad : D) :
    server.report entry.zone zoneLoad = { server with
      distribution := done ++ { entry with load := zoneLoad } :: later
      totalLoad := server.totalLoad + zoneLoad } := by
  rw [split, List.map_append, List.map_cons, List.nodup_middle, List.nodup_cons, List.mem_append,
    not_or] at distinct
  rcases distinct with ⟨⟨notDone, notLater⟩, _⟩
  simp only [Server.report, split, List.map_append, List.map_cons, if_true,
    report_absent notDone, report_absent notLater, List.foldl_append, List.foldl_cons,
    add_absent notDone, add_absent notLater]

theorem report_zones [Add D] (server : Server D) (idZone : Int) (zoneLoad : D) :
    (server.report idZone zoneLoad).distribution.map ZoneLoad.zone =
      server.distribution.map ZoneLoad.zone := by
  simp only [Server.report, List.map_map]
  apply List.map_congr_left
  intro entry _
  simp only [Function.comp_apply]
  split <;> rfl

/-- Handling a reply changes the one server that it names. -/
theorem exec_servers [Add D] {message : ServerLoad D} {servers left : List (Server D)}
    {mask cleared : BitVec 32} (distinct : (servers.map Server.id).Nodup)
    (done : ServerLoadRcvd.exec message servers mask = some (left, cleared)) :
    left = servers.map fun server =>
      if server.id = message.idServer then server.report message.idZone message.zoneLoad
      else server := by
  induction servers generalizing left with
  | nil =>
      cases done
      rfl
  | cons server rest inductionHypothesis =>
      rw [List.map_cons, List.nodup_cons] at distinct
      rw [ServerLoadRcvd.exec] at done
      rw [List.map_cons]
      split at done
      · next found =>
        rw [if_pos found]
        split at done
        · rcases Option.map_eq_some_iff.mp done with ⟨_, _, same⟩
          cases same
          have others : ∀ other ∈ rest, (if other.id = message.idServer then
              other.report message.idZone message.zoneLoad else other) = other := by
            intro other member
            refine if_neg fun named => distinct.1 ?_
            rw [found, ← named]
            exact List.mem_map_of_mem member
          rw [(List.map_congr_left others).trans (List.map_id' rest)]
        · rcases Option.map_eq_some_iff.mp done with ⟨⟨_, _⟩, later, same⟩
          cases same
          rw [inductionHypothesis distinct.2 later]
      · next other =>
        rcases Option.map_eq_some_iff.mp done with ⟨⟨_, _⟩, later, same⟩
        cases same
        rw [if_neg other, inductionHypothesis distinct.2 later]

end Reply

/-! ## The invariant -/

/-- How far the last request to a server has come. -/
inductive Stage [Zero D] [Add D] (requests : List Nat) (replies : List (ServerLoad D))
    (server : Server D) : Prop where
  | idle (served : requests = []) (delivered : replies = [])
  | requested (round : Nat) (sent : requests = [round]) (delivered : replies = [])
      (reset : server.totalLoad = 0)
  | replying (round : Nat) (getLoad : Int → D) (done later : List (ZoneLoad D))
      (served : requests = [])
      (pending : replies =
        sendZoneLoads server.id round getLoad (later.map ZoneLoad.zone))
      (split : server.distribution = done ++ later)
      (total : server.totalLoad = sumLoads done)

/-- The invariant of one server's loads: what the assignment left, and the
stage of the last request. -/
structure Accounting [Zero D] [Add D] (id : Int) (world : LoadCollection D) : Prop where
  ids : (world.control.servers.map Server.id).Nodup
  senders : ∀ other, ∀ reply ∈ world.replies other, reply.idServer = other
  zones : ∀ server ∈ world.control.servers, server.id = id →
    world.zones id = server.distribution.map ZoneLoad.zone
  distinct : ∀ server ∈ world.control.servers, server.id = id →
    (server.distribution.map ZoneLoad.zone).Nodup
  stage : ∀ server ∈ world.control.servers, server.id = id →
    Stage (world.requests id) (world.replies id) server

/-- The stage depends on a server's id, distribution and total only. -/
theorem Stage.congr [Zero D] [Add D] {requests : List Nat} {replies : List (ServerLoad D)}
    {server other : Server D} (stage : Stage requests replies server) (id : other.id = server.id)
    (distribution : other.distribution = server.distribution)
    (total : other.totalLoad = server.totalLoad) : Stage requests replies other := by
  cases stage with
  | idle served delivered => exact .idle served delivered
  | requested round sent delivered reset => exact .requested round sent delivered (total ▸ reset)
  | replying round getLoad done later served pending split sum =>
      exact .replying round getLoad done later served (id ▸ pending) (distribution ▸ split)
        (total ▸ sum)

namespace Accounting

variable {world next : LoadCollection D} {id : Int}

theorem initial [Zero D] [Add D] {control : Control D} (assigned : Assigned control)
    (mask : BitVec 32) (id : Int) : Accounting id (LoadCollection.initial control mask) where
  ids := assigned.ids
  senders := fun _ _ member => absurd member List.not_mem_nil
  zones := by
    rintro server member rfl
    cases found : control.servers.find? fun other => other.id = server.id with
    | none => exact absurd (List.find?_eq_none.mp found server member) (by simp)
    | some other =>
        have sameId : other.id = server.id := by simpa using List.find?_some found
        have same : other = server := List.inj_on_of_nodup_map assigned.ids
          (List.mem_of_find?_eq_some found) member sameId
        subst same
        simp only [LoadCollection.initial, found]
  distinct := fun server member _ => assigned.zones server member
  stage := fun _ _ _ => .idle rfl rfl

/-- A step that changes nothing of the server but its connection. -/
theorem of_same [Zero D] [Add D] (accounting : Accounting id world)
    (ids : (next.control.servers.map Server.id).Nodup)
    (senders : ∀ other, ∀ reply ∈ next.replies other, reply.idServer = other)
    (requests : next.requests id = world.requests id) (replies : next.replies id = world.replies id)
    (zones : next.zones = world.zones)
    (servers : ∀ server ∈ next.control.servers, server.id = id →
      ∃ before ∈ world.control.servers, server.id = before.id ∧
        server.distribution = before.distribution ∧ server.totalLoad = before.totalLoad) :
    Accounting id next where
  ids := ids
  senders := senders
  zones := by
    intro server member found
    rcases servers server member found with ⟨before, memberBefore, sameId, distribution, _⟩
    rw [zones, distribution]
    exact accounting.zones before memberBefore (sameId ▸ found)
  distinct := by
    intro server member found
    rcases servers server member found with ⟨before, memberBefore, sameId, distribution, _⟩
    rw [distribution]
    exact accounting.distinct before memberBefore (sameId ▸ found)
  stage := by
    intro server member found
    rcases servers server member found with ⟨before, memberBefore, sameId, distribution, total⟩
    rw [requests, replies]
    exact (accounting.stage before memberBefore (sameId ▸ found)).congr sameId distribution total

theorem finish [Zero D] [Add D] [Arithmetic D] [LT D] [DecidableLT D]
    (accounting : Accounting id world) (done : world.finish = some next) : Accounting id next := by
  rcases Option.map_eq_some_iff.mp done with ⟨control, balanced, rfl⟩
  have perm : control.servers.Perm world.control.servers :=
    (balance_perm balanced).trans (List.perm_insertionSort _ _)
  exact accounting.of_same ((perm.map Server.id).nodup_iff.mpr accounting.ids) accounting.senders
    rfl rfl rfl fun server member _ => ⟨server, perm.mem_iff.mp member, rfl, rfl, rfl⟩

section Changed

variable {servers : List (Server D)} {changed : Int} {change : Server D → Server D}
  (sameId : ∀ server, (change server).id = server.id)
include sameId

private theorem ids_changed (distinct : (servers.map Server.id).Nodup) :
    ((servers.map fun server => if server.id = changed then change server else server).map
      Server.id).Nodup := by
  have same : (Server.id ∘ fun server : Server D =>
      if server.id = changed then change server else server) = Server.id := by
    funext server
    simp only [Function.comp_apply]
    split
    · exact sameId server
    · rfl
  rw [List.map_map, same]
  exact distinct

private theorem mem_changed {server : Server D}
    (member : server ∈ servers.map fun server =>
      if server.id = changed then change server else server) :
    ∃ before ∈ servers, server.id = before.id ∧
      server = if before.id = changed then change before else before := by
  rcases List.mem_map.mp member with ⟨before, memberBefore, rfl⟩
  refine ⟨before, memberBefore, ?_, rfl⟩
  split
  · exact sameId before
  · rfl

end Changed

theorem offline [Zero D] [Add D] (accounting : Accounting id world) (other : Int) :
    Accounting id { world with
      control := { world.control with
        servers := world.control.servers.map fun server =>
          if server.id = other then { server with online := false } else server } } := by
  have sameId : ∀ server : Server D, { server with online := false }.id = server.id :=
    fun _ => rfl
  refine accounting.of_same (ids_changed sameId accounting.ids) accounting.senders rfl rfl rfl
    fun server member _ => ?_
  rcases mem_changed sameId member with ⟨before, memberBefore, sameBefore, rfl⟩
  refine ⟨before, memberBefore, sameBefore, ?_, ?_⟩ <;> split <;> rfl

theorem ask [Zero D] [Add D] (accounting : Accounting id world) {asked : Int}
    (quiet : asked = id → world.Online asked → world.Quiet asked) :
    Accounting id (world.ask asked) := by
  unfold LoadCollection.ask
  split
  · next online =>
    have sameId : ∀ server : Server D, { server with totalLoad := 0 }.id = server.id :=
      fun _ => rfl
    have ids : ((world.control.servers.map fun server =>
        if server.id = asked then { server with totalLoad := 0 }
        else server).map Server.id).Nodup :=
      ids_changed sameId accounting.ids
    by_cases same : asked = id
    · subst same
      rcases quiet rfl online with ⟨noRequests, noReplies⟩
      have reset : ∀ server ∈ world.control.servers.map fun server =>
          if server.id = asked then { server with totalLoad := 0 } else server,
          server.id = asked → ∃ before ∈ world.control.servers, before.id = asked ∧
            server = { before with totalLoad := 0 } := by
        intro server member found
        rcases mem_changed sameId member with ⟨before, memberBefore, sameBefore, changed⟩
        have foundBefore : before.id = asked := sameBefore.symm.trans found
        rw [if_pos foundBefore] at changed
        exact ⟨before, memberBefore, foundBefore, changed⟩
      refine ⟨ids, accounting.senders, ?_, ?_, ?_⟩
      · intro server member found
        rcases reset server member found with ⟨before, memberBefore, foundBefore, rfl⟩
        exact accounting.zones before memberBefore foundBefore
      · intro server member found
        rcases reset server member found with ⟨before, memberBefore, foundBefore, rfl⟩
        exact accounting.distinct before memberBefore foundBefore
      · intro server member found
        rcases reset server member found with ⟨before, memberBefore, foundBefore, rfl⟩
        refine .requested world.round ?_ noReplies rfl
        simp only [Function.update_self, noRequests, List.nil_append]
    · refine accounting.of_same ids accounting.senders
        (Function.update_of_ne (Ne.symm same) _ _) rfl
        rfl fun server member found => ?_
      rcases mem_changed sameId member with ⟨before, memberBefore, sameBefore, changed⟩
      rw [if_neg fun isAsked => same (isAsked.symm.trans (sameBefore.symm.trans found))] at changed
      subst changed
      exact ⟨server, memberBefore, rfl, rfl, rfl⟩
  · exact accounting

theorem serve [Zero D] [Add D] (accounting : Accounting id world) {server : Int}
    {getLoad : Int → D} (done : world.serve server getLoad = some next) : Accounting id next := by
  unfold LoadCollection.serve at done
  split at done
  · cases done
  · next round later pending =>
    cases done
    have senders : ∀ other, ∀ reply ∈ Function.update world.replies server
        (world.replies server ++ sendZoneLoads server round getLoad (world.zones server)) other,
        reply.idServer = other := by
      intro other reply member
      by_cases same : other = server
      · subst same
        rw [Function.update_self, List.mem_append] at member
        rcases member with before | new
        · exact accounting.senders other reply before
        · exact (mem_sendZoneLoads new).1
      · rw [Function.update_of_ne same] at member
        exact accounting.senders other reply member
    by_cases same : id = server
    · subst same
      refine ⟨accounting.ids, senders, accounting.zones, accounting.distinct, ?_⟩
      intro found member isServer
      simp only [Function.update_self]
      cases accounting.stage found member isServer with
      | idle served => rw [served] at pending; cases pending
      | replying _ _ _ _ served => rw [served] at pending; cases pending
      | requested round' sent delivered reset =>
          rw [sent] at pending
          cases pending
          refine .replying round getLoad [] found.distribution rfl ?_ rfl reset
          rw [delivered, List.nil_append, accounting.zones found member isServer, isServer]
    · exact accounting.of_same accounting.ids senders (Function.update_of_ne same _ _)
        (Function.update_of_ne same _ _) rfl fun found member _ => ⟨found, member, rfl, rfl, rfl⟩

/-- What handling a reply of the server does to it: one more zone is counted,
and the zones that are left are those of the replies that are left. -/
theorem handled [Zero D] [Add D] (accounting : Accounting id world) {reply : ServerLoad D}
    {later : List (ServerLoad D)} (pending : world.replies id = reply :: later)
    {servers : List (Server D)} {cleared : BitVec 32}
    (done : ServerLoadRcvd.exec reply world.control.servers world.recievedConnectionMask =
      some (servers, cleared)) {server : Server D} (member : server ∈ servers)
    (isServer : server.id = id) :
    ∃ round getLoad counted entry left, world.requests id = [] ∧
      later = sendZoneLoads server.id round getLoad (left.map ZoneLoad.zone) ∧
      reply.remainingZones = (left.length : Int) ∧
      server.distribution = counted ++ entry :: left ∧
      server.totalLoad = sumLoads (counted ++ [entry]) := by
  have sender : reply.idServer = id :=
    accounting.senders id reply (pending ▸ List.mem_cons_self)
  rw [exec_servers accounting.ids done, sender] at member
  have keepsId : ∀ server : Server D,
      (server.report reply.idZone reply.zoneLoad).id = server.id := fun _ => rfl
  rcases mem_changed keepsId member with ⟨before, memberBefore, sameId, changed⟩
  have isBefore : before.id = id := sameId.symm.trans isServer
  rw [if_pos isBefore] at changed
  cases accounting.stage before memberBefore isBefore with
  | idle _ delivered => rw [delivered] at pending; cases pending
  | requested _ _ delivered => rw [delivered] at pending; cases pending
  | replying round getLoad counted later' served sent split total =>
      rw [sent] at pending
      cases later' with
      | nil => cases pending
      | cons entry left =>
          cases pending
          rw [report_of_split split (accounting.distinct before memberBefore isBefore)] at changed
          subst changed
          refine ⟨round, getLoad, counted, { entry with load := getLoad entry.zone }, left, served,
            rfl,
            ?_, rfl, ?_⟩
          · simp only [List.length_map]
          · rw [sumLoads_concat, ← total]

theorem deliver [Zero D] [Add D] (accounting : Accounting id world) {sender : Int}
    (done : world.deliver sender = some next) : Accounting id next := by
  unfold LoadCollection.deliver at done
  split at done
  · cases done
  · next reply later pending =>
    rcases Option.map_eq_some_iff.mp done with ⟨⟨servers, cleared⟩, exec, rfl⟩
    have from_sender : reply.idServer = sender :=
      accounting.senders sender reply (pending ▸ List.mem_cons_self)
    have servers_eq := exec_servers accounting.ids exec
    have sameId : ∀ server : Server D,
        (server.report reply.idZone reply.zoneLoad).id = server.id := fun _ => rfl
    have ids : (servers.map Server.id).Nodup := servers_eq ▸ ids_changed sameId accounting.ids
    have senders : ∀ other, ∀ message ∈ Function.update world.replies sender later other,
        message.idServer = other := by
      intro other message member
      by_cases same : other = sender
      · subst same
        rw [Function.update_self] at member
        exact accounting.senders other message (pending ▸ List.mem_cons_of_mem reply member)
      · rw [Function.update_of_ne same] at member
        exact accounting.senders other message member
    have origin : ∀ server ∈ servers, ∃ before ∈ world.control.servers, server.id = before.id ∧
        server = if before.id = sender then before.report reply.idZone reply.zoneLoad
          else before := by
      intro server member
      rw [servers_eq, from_sender] at member
      exact mem_changed sameId member
    by_cases same : id = sender
    · subst same
      have reported : ∀ server ∈ servers, server.id = id →
          ∃ before ∈ world.control.servers, before.id = id ∧
            server.distribution.map ZoneLoad.zone = before.distribution.map ZoneLoad.zone := by
        intro server member isServer
        rcases origin server member with ⟨before, memberBefore, sameBefore, changed⟩
        have isBefore := sameBefore.symm.trans isServer
        rw [if_pos isBefore] at changed
        exact ⟨before, memberBefore, isBefore, changed ▸ report_zones _ _ _⟩
      refine ⟨ids, senders, ?_, ?_, ?_⟩
      · intro server member isServer
        rcases reported server member isServer with ⟨before, memberBefore, isBefore, zones⟩
        rw [zones]
        exact accounting.zones before memberBefore isBefore
      · intro server member isServer
        rcases reported server member isServer with ⟨before, memberBefore, isBefore, zones⟩
        rw [zones]
        exact accounting.distinct before memberBefore isBefore
      · intro server member isServer
        rcases accounting.handled pending exec member isServer with
          ⟨round, getLoad, counted, entry, left, served, rest, _, split, total⟩
        refine .replying round getLoad (counted ++ [entry]) left served ?_ ?_ total
        · simp only [Function.update_self]
          exact rest
        · rw [split, List.append_assoc, List.singleton_append]
    · refine accounting.of_same ids senders rfl (Function.update_of_ne same _ _) rfl
        fun server member isServer => ?_
      rcases origin server member with ⟨before, memberBefore, sameBefore, changed⟩
      have isOther : before.id ≠ sender :=
        fun isSender => same (isServer.symm.trans (sameBefore.trans isSender))
      rw [if_neg isOther] at changed
      subst changed
      exact ⟨server, memberBefore, rfl, rfl, rfl⟩

theorem step [Zero D] [Add D] [Arithmetic D] [LT D] [DecidableLT D]
    (accounting : Accounting id world) {event : Happening D} (quiet : AsksQuiet id world event)
    (stepped : LoadCollection.step world event = some next) : Accounting id next := by
  cases event with
  | ask =>
      simp only [LoadCollection.step] at stepped
      split at stepped
      · next asked left phase =>
        cases stepped
        have askedNext : Accounting id (world.ask asked) := accounting.ask (by
          rintro rfl online
          exact quiet ⟨rfl, ⟨left, phase⟩, online⟩)
        exact ⟨askedNext.ids, askedNext.senders, askedNext.zones, askedNext.distinct,
          askedNext.stage⟩
      · cases stepped
  | endByMask =>
      simp only [LoadCollection.step, Option.ite_none_right_eq_some] at stepped
      exact accounting.finish stepped.2
  | endByTimeout =>
      simp only [LoadCollection.step, Option.ite_none_right_eq_some] at stepped
      exact accounting.finish stepped.2
  | newRound =>
      simp only [LoadCollection.step, Option.ite_none_right_eq_some, Option.some.injEq] at stepped
      rcases stepped with ⟨_, rfl⟩
      exact ⟨accounting.ids, accounting.senders, accounting.zones, accounting.distinct,
        accounting.stage⟩
  | serve server getLoad => exact accounting.serve stepped
  | deliver sender => exact accounting.deliver stepped
  | offline other =>
      cases stepped
      exact accounting.offline other

theorem accountsLast [Zero D] [Add D] [Arithmetic D] [LT D] [DecidableLT D]
    (accounting : Accounting id world) (inside : HasBit id) (event : Happening D) :
    AccountsLast id world event := by
  rintro rfl reply later pending last
  have sender : reply.idServer = id :=
    accounting.senders id reply (pending ▸ List.mem_cons_self)
  rcases exists_exec world.control.servers (sender.symm ▸ inside) world.recievedConnectionMask with
    ⟨servers, cleared, exec⟩
  simp only [LoadCollection.step, LoadCollection.deliver, pending, exec, Option.map_some]
  refine ⟨_, rfl, fun server member isServer => ?_⟩
  rcases accounting.handled pending exec member isServer with
    ⟨_, _, counted, entry, left, _, _, remaining, split, total⟩
  have none : left = [] := by
    rw [last] at remaining
    exact List.length_eq_zero_iff.mp (Int.ofNat_inj.mp remaining.symm)
  rw [total, split, none]

end Accounting

/-- From every start with 1 to 32 servers, for which the mask is defined, along
every run in which a server with a bit in the mask is only asked with nothing
of an earlier request to it on its way, its last reply is handled whenever it
arrives, and its total is then the sum of its loads. -/
theorem total_is_sum_of_quiet [Zero D] [Add D] [Arithmetic D] [LT D] [DecidableLT D]
    {control : Control D} (assigned : Assigned control) (positive : 1 ≤ control.numberServers)
    (fits : control.numberServers ≤ 32) {id : Int} (inside : HasBit id)
    {events : List (Happening D)} :
    ∃ mask, startMask control.numberServers = some mask ∧
      (AtEach step (fun _ world event => AsksQuiet id world event) (initial control mask) events →
        AtEach step (fun _ world event => AccountsLast id world event) (initial control mask)
          events) := by
  rcases exists_startMask positive fits with ⟨mask, started⟩
  refine ⟨mask, started, fun quiet => ?_⟩
  refine atEach_of_invariant (fun _ => True) (fun _ world => Accounting id world)
    (fun _ _ _ => trivial) (Accounting.initial assigned mask id) ?_ ?_ trivial quiet
  · intro before world event next _ accounting asks stepped
    exact accounting.step asks stepped
  · intro before world event _ accounting _
    exact accounting.accountsLast inside event

theorem total_is_sum_after_answeredRound :
    AtEach step (fun _ world event => AccountsLast 0 world event) (initial oneServer 1)
      answeredRound := by
  have assigned : Assigned oneServer := ⟨by decide, by decide⟩
  have inside : HasBit 0 := ⟨by decide, by decide⟩
  rcases total_is_sum_of_quiet assigned (by decide) (by decide) inside with
    ⟨mask, started, accounts⟩
  cases started
  apply accounts
  intro before event after world split reached requests
  rcases answeredRound_requests split reached requests with ⟨_, rfl⟩
  exact ⟨rfl, rfl⟩

/-- Two rounds, the first of which ends by the timer.  Its answers arrive
after the second request was sent. -/
def lateAnswers : List (Happening ℚ) :=
  [.ask, .endByTimeout, .newRound, .ask, .serve 0 fun _ => 1 / 8, .deliver 0, .deliver 0,
    .deliver 0, .deliver 0, .serve 0 fun _ => 1 / 8, .deliver 0, .deliver 0, .deliver 0]

/-- The total counts both rounds, the loads are those of the second. -/
theorem total_counts_late_answers :
    Assigned oneServer ∧ startMask oneServer.numberServers = some 1 ∧
      ¬ AtEach step (fun _ world event => AccountsLast 0 world event) (initial oneServer 1)
        (lateAnswers ++ [.deliver 0]) := by
  refine ⟨⟨by decide, by decide⟩, by decide, fun held => ?_⟩
  have before : (run step (initial oneServer 1) lateAnswers).map
      (fun world => (world.replies 0).map ServerLoad.remainingZones) = some [0] := by
    decide +kernel
  have after : (run step (initial oneServer 1) (lateAnswers ++ [.deliver 0])).map
      (fun world => world.control.servers.map fun server =>
        (server.id, decide (server.totalLoad = sumLoads server.distribution))) =
      some [(0, false)] := by
    decide +kernel
  rcases Option.map_eq_some_iff.mp after with ⟨next, reachedNext, totals⟩
  rcases (run_concat_eq_some_iff _ _ _ _).mp reachedNext with ⟨world, reached, stepped⟩
  rw [reached, Option.map_some, Option.some.injEq] at before
  rcases List.map_eq_singleton_iff.mp before with ⟨reply, pending, last⟩
  rcases List.map_eq_singleton_iff.mp totals with ⟨server, only, fields⟩
  rcases Prod.mk.inj fields with ⟨isServer, differs⟩
  rcases held.last reached rfl reply [] pending last with ⟨next', stepped', sums⟩
  cases Option.mem_unique stepped stepped'
  have total := sums server (only ▸ List.mem_singleton_self _) isServer
  exact of_decide_eq_false differs total

end LoadCollection
end Pxc
