import Pxc.Messaging.Listeners
import Pxc.Messaging.Reception
import Pxc.Router.Reachability

namespace Pxc
namespace Router

open General

/-!
# The address of a server

Control answers the router's question for a server with the server's address,
and the router is to build a link to that server.  The handler makes a new
connection, and passes it on to the router's own operation; but it calls
`connect` on the connection the answer came on, which is the link to Control.
The new connection stays offline, and what is sent on it goes nowhere.

The texts of the address are read as strings from two arrays, one behind the
other.  Neither has room for a terminator behind a text of full length, so
that the address runs on into the port, and the port into what lies behind.
-/

/-! ## The handler -/

/-- The router, and every `TCPConnectionSecurity` that was made, with the
state of its link.  Which of them were deleted, the router knows. -/
structure Network where
  router : Router
  links : Heap Messaging.Link

/-- What a handler does to connections: `connect` with its two texts and its
result, or what the router's operations do. -/
inductive Call where
  | connect (connection : Connection) (ipAddr port : List UInt8) (succeeded : Bool)
  | operation (output : Output)
  deriving DecidableEq, Repr

/-- The fields of `GetServerIpRvcd`. -/
structure GetServerIpRvcd where
  mServerId : Int
  mIpServer : Vector UInt8 16
  mPortServer : Vector UInt8 5

/-- `new TCPConnectionSecurity()`. -/
def Network.newConnection (network : Network) : Network × Connection :=
  ({ network with links := network.links.alloc Messaging.constructed }, network.links.next)

/-- `c->connect(..)`: undefined when `c` was never made, or was deleted. -/
def Network.connect (network : Network) (c : Connection) (outcome : Messaging.Outcome) :
    Option Network :=
  if c ∈ network.router.deletedConnections then none
  else do
    let link ← network.links.load c
    let links ← network.links.store c (link.connect outcome)
    return { network with links }

/-- `Router::connectServer`, for a router among its connections. -/
def Network.connectServer (network : Network) (idServer : Int) (c : Connection) :
    Option (Network × List Output) := do
  let (router, outputs) ← network.router.connectServer idServer c
  return ({ network with router }, outputs)

namespace GetServerIpRvcd

/-- `std::string(mIpServer)`, with the memory behind the object. -/
def ipString (received : GetServerIpRvcd) (behind : List UInt8) : List UInt8 :=
  Messaging.readString (received.mIpServer.toList ++ (received.mPortServer.toList ++ behind))

/-- `std::string(mPortServer)`. -/
def portString (received : GetServerIpRvcd) (behind : List UInt8) : List UInt8 :=
  Messaging.readString (received.mPortServer.toList ++ behind)

/-- `GetServerIpRvcd::exec`.  How far `connect` gets is not up to it. -/
def exec (received : GetServerIpRvcd) (behind : List UInt8) (outcome : Messaging.Outcome)
    (network : Network) (c : Connection) : Option (Network × List Call) := do
  let (network, newConn) := network.newConnection
  let network ← network.connect c outcome
  let connected := Call.connect c (received.ipString behind) (received.portString behind)
    (decide (outcome = .succeeds))
  let (network, outputs) ← network.connectServer received.mServerId newConn
  return (network, connected :: outputs.map .operation)

/-- The text that was received as the server's address. -/
def receivedIp (received : GetServerIpRvcd) : List UInt8 :=
  Messaging.readString received.mIpServer.toList

/-- The text that was received as the server's port. -/
def receivedPort (received : GetServerIpRvcd) : List UInt8 :=
  Messaging.readString received.mPortServer.toList

end GetServerIpRvcd

variable {network after : Network} {received : GetServerIpRvcd} {behind : List UInt8}
  {outcome : Messaging.Outcome} {c : Connection} {calls : List Call}

/-- A connection that the handler made. -/
def MadeBetween (network after : Network) (c : Connection) : Prop :=
  network.links.load c = none ∧ ∃ link, after.links.load c = some link

/-- The server has a new connection, which was connected with the address that
was received and, if that succeeded, was sent the announcement. -/
def LinksServer (network after : Network) (received : GetServerIpRvcd) (calls : List Call) :
    Prop :=
  ∃ newConn server succeeded, MadeBetween network after newConn ∧
    after.router.findServer received.mServerId = some server ∧
    server.mConnection = some newConn ∧
    .connect newConn received.receivedIp received.receivedPort succeeded ∈ calls ∧
    (succeeded = true → .operation (.sent newConn .addRouterSend) ∈ calls)

/-- No server has a connection that the handler made. -/
def KeepsNone (network after : Network) : Prop :=
  ∀ newConn, MadeBetween network after newConn → ∀ idServer server,
    after.router.findServer idServer = some server → server.mConnection ≠ some newConn

/-- The link to Control is left alone. -/
def LeavesControl (network after : Network) (c : Connection) (calls : List Call) : Prop :=
  (∀ ipAddr port succeeded, .connect c ipAddr port succeeded ∉ calls) ∧
    after.links.load c = network.links.load c

/-- What handling an address should do. -/
structure BuildsLink (network after : Network) (received : GetServerIpRvcd) (c : Connection)
    (calls : List Call) : Prop where
  known : (∃ server, network.router.findServer received.mServerId = some server) →
    LinksServer network after received calls
  unknown : network.router.findServer received.mServerId = none → KeepsNone network after
  control : LeavesControl network after c calls

/-- The connection that the answer came on is connected again, the new one is
only passed on to the router. -/
theorem exec_eq_some_iff :
    received.exec behind outcome network c = some (after, calls) ↔
      c ∉ network.router.deletedConnections ∧
      ∃ link links router outputs,
        (network.links.alloc Messaging.constructed).load c = some link ∧
        (network.links.alloc Messaging.constructed).store c (link.connect outcome) = some links ∧
        network.router.connectServer received.mServerId network.links.next =
          some (router, outputs) ∧
        after = ⟨router, links⟩ ∧
        calls = .connect c (received.ipString behind) (received.portString behind)
          (decide (outcome = .succeeds)) :: outputs.map .operation := by
  unfold GetServerIpRvcd.exec Network.newConnection Network.connect Network.connectServer
  by_cases deleted : c ∈ network.router.deletedConnections
  · simp only [deleted, if_true, Option.bind_eq_bind, Option.bind_none, reduceCtorEq,
      not_true_eq_false, false_and]
  · simp only [deleted, if_false, not_false_eq_true, true_and, Option.bind_eq_bind,
      Option.bind_eq_some_iff, Option.pure_def, Option.some.injEq, Prod.mk.injEq, Prod.exists]
    constructor
    · intro done
      rcases done with ⟨_, ⟨link, loaded, links, stored, made⟩, _, outputs,
        ⟨router, _, attached, kept, sameOutputs⟩, sameAfter, sameCalls⟩
      subst made kept sameOutputs
      exact ⟨link, links, router, _, loaded, stored, attached, sameAfter.symm, sameCalls.symm⟩
    · intro done
      rcases done with
        ⟨link, links, router, outputs, loaded, stored, attached, sameAfter, sameCalls⟩
      exact ⟨_, ⟨link, loaded, links, stored, rfl⟩, _, outputs,
        ⟨router, outputs, attached, rfl, rfl⟩, sameAfter.symm, sameCalls.symm⟩

/-- No other connection is connected. -/
theorem connect_mem_iff (done : received.exec behind outcome network c = some (after, calls))
    {other : Connection} {ipAddr port : List UInt8} {succeeded : Bool} :
    .connect other ipAddr port succeeded ∈ calls ↔
      other = c ∧ ipAddr = received.ipString behind ∧ port = received.portString behind ∧
        succeeded = decide (outcome = .succeeds) := by
  rcases exec_eq_some_iff.mp done with ⟨_, link, links, router, outputs, _, _, _, _, sameCalls⟩
  rw [sameCalls, List.mem_cons, Call.connect.injEq]
  constructor
  · intro listed
    rcases listed with same | later
    · exact same
    · rcases List.mem_map.mp later with ⟨output, _, impossible⟩
      cases impossible
  · intro same
    exact .inl same

theorem not_leavesControl (done : received.exec behind outcome network c = some (after, calls)) :
    ¬ LeavesControl network after c calls := by
  intro leaves
  exact leaves.1 _ _ _ ((connect_mem_iff done).mpr ⟨rfl, rfl, rfl, rfl⟩)

theorem not_linksServer (done : received.exec behind outcome network c = some (after, calls))
    {link : Messaging.Link} (made : network.links.load c = some link) :
    ¬ LinksServer network after received calls := by
  intro links
  rcases links with ⟨newConn, server, succeeded, between, _, _, connected, _⟩
  have same := ((connect_mem_iff done).mp connected).1
  subst same
  rw [between.1] at made
  cases made

theorem new_link_untouched (done : received.exec behind outcome network c = some (after, calls))
    {link : Messaging.Link} (made : network.links.load c = some link) :
    after.links.load network.links.next = some Messaging.constructed := by
  rcases exec_eq_some_iff.mp done with ⟨_, _, links, router, outputs, _, stored, _, same, _⟩
  rcases Heap.store_eq_some_iff.mp stored with ⟨_, _, loads⟩
  have different : c ≠ network.links.next := Nat.ne_of_lt (Heap.lt_next_of_load made)
  rw [same, loads, if_neg different, Heap.load_alloc, if_pos rfl]

/-- A known server gets the new connection, and the announcement is sent on it
while it is offline. -/
theorem attached_offline (sound : Sound network.router)
    (done : received.exec behind outcome network c = some (after, calls))
    {link : Messaging.Link} (made : network.links.load c = some link) {server : Server}
    (found : network.router.findServer received.mServerId = some server) :
    ∃ server', after.router.findServer received.mServerId = some server' ∧
      server'.mConnection = some network.links.next ∧
      .operation (.sent network.links.next .addRouterSend) ∈ calls ∧
      ∃ newLink, after.links.load network.links.next = some newLink ∧ newLink.online = false := by
  have untouched := new_link_untouched done made
  rcases exec_eq_some_iff.mp done with
    ⟨_, _, links, router, outputs, _, _, attached, sameAfter, sameCalls⟩
  rcases sound.connectServer_known found network.links.next (fun old =>
    sound.serverConnections received.mServerId server old found) with
    ⟨servers, connected, _, finds⟩
  rw [connected] at attached
  split at attached
  · cases attached
  · cases attached
    subst sameAfter sameCalls
    refine ⟨{ server with mConnection := some network.links.next }, ?_, rfl, ?_,
      Messaging.constructed, untouched, rfl⟩
    · rw [findServer, finds, if_pos rfl]
    · exact List.mem_cons_of_mem _ (List.mem_singleton_self _)

/-- When the server is not known, the router stays as it is; the new
connection is left without anyone who could delete it. -/
theorem unknown_left (done : received.exec behind outcome network c = some (after, calls))
    (unknown : network.router.mServers[received.mServerId]? = none) :
    after.router = network.router := by
  rcases exec_eq_some_iff.mp done with ⟨_, _, links, router, outputs, _, _, attached, same, _⟩
  unfold connectServer at attached
  rw [unknown] at attached
  cases attached
  rw [same]

/-! ## The texts of the address -/

/-- An array is read as the text in it, whatever lies behind, exactly when it
has a terminator. -/
theorem readString_alone_iff {array : List UInt8} :
    (∀ behind, Messaging.readString (array ++ behind) = Messaging.readString array) ↔
      0 ∈ array := by
  constructor
  · intro alone
    apply Classical.byContradiction
    intro unterminated
    have longer : 0 ∉ array ++ [1] := by
      rw [List.mem_append, not_or]
      exact ⟨unterminated, by decide⟩
    have same := congrArg List.length (alone [1])
    rw [Messaging.readString_of_no_zero longer, Messaging.readString_of_no_zero unterminated,
      List.length_append] at same
    exact Nat.succ_ne_self array.length same
  · intro terminated behind
    exact Messaging.readString_append_of_zero terminated behind

/-- A port of five digits has no terminator. -/
theorem portString_eq_iff :
    (∀ behind, received.portString behind = received.receivedPort) ↔
      0 ∈ received.mPortServer.toList :=
  readString_alone_iff

/-- In no state, and for no address, does the handler build the link to the
server and leave the one to Control alone. -/
theorem never_builds_link (network : Network) (received : GetServerIpRvcd)
    (behind : List UInt8) (outcome : Messaging.Outcome) (c : Connection) :
    ¬ ∃ after calls, received.exec behind outcome network c = some (after, calls) ∧
      BuildsLink network after received c calls := by
  intro builds
  rcases builds with ⟨after, calls, done, builds⟩
  exact not_leavesControl done builds.control

/-- A router whose only connection is the one to Control, online. -/
private def onlyControl (router : Router) : Network :=
  ⟨router, Heap.empty.alloc ⟨true, true, some 1, [1], 1⟩⟩

/-- Control answers that server 4 is at 10.0.0.2, port 7000. -/
private def addressOfFour : GetServerIpRvcd :=
  ⟨4, #v[49, 48, 46, 48, 46, 48, 46, 50, 0, 0, 0, 0, 0, 0, 0, 0], #v[55, 48, 48, 48, 0]⟩

/-- Server 4 is known, and its link is not built. -/
theorem control_connected_instead :
    ∃ router, run Router.step Router.empty [.addServer 4] = some router ∧
      ¬ ∃ after calls, addressOfFour.exec [] .socketFails (onlyControl router) 0 =
          some (after, calls) ∧
        BuildsLink (onlyControl router) after addressOfFour 0 calls := by
  refine ⟨_, rfl, ?_⟩
  intro builds
  rcases builds with ⟨after, calls, done, builds⟩
  exact not_linksServer done rfl (builds.known ⟨_, rfl⟩)

end Router
end Pxc
