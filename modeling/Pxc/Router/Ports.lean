import Pxc.Router.Instructions
import Pxc.Router.Inversions
import Pxc.Router.ServerAddress

namespace Pxc
namespace Router

open General

/-!
# The two ports of a router

A router listens on two ports.  What comes in on the one for Control is
executed, whatever it is and whoever sent it.  What comes in on the one for
clients is passed on to the users of server -1.

Server -1 is never there: of the messages, only one adds a server, and it
leaves out the invalid id.  So a router does the same, and sends the same, as
if its clients had sent nothing.
-/

/-- The messages whose `exec` is empty. -/
inductive Idle where
  | changeZoneRcvd
  | setAddUserRcvd
  | setDelUserRcvd
  | endZoneTransferRcvd
  deriving DecidableEq, Repr

/-- The type ids of these messages. -/
def Idle.typeId : Idle → Nat
  | .changeZoneRcvd => 5
  | .setAddUserRcvd => 8
  | .setDelUserRcvd => 9
  | .endZoneTransferRcvd => 155

/-- What the creators of `RouterProfile` make.  An address comes with the
memory behind it and with how far `connect` gets. -/
inductive Received where
  | instruction (received : Instruction)
  | serverIp (received : GetServerIpRvcd) (behind : List UInt8) (outcome : Messaging.Outcome)
  | idle (received : Idle)

namespace Received

/-- `Datagram::targetId`, which no message of the router overrides. -/
def targetId (_received : Received) : Int := -1

/-- The message as one that is passed on, known by its type id. -/
def transferable : Received → Transferable
  | .instruction received => received.transferable
  | .serverIp _ _ _ => .given 6
  | .idle received => .given received.typeId

end Received

/-- What leaves the router, in order. -/
inductive Emission where
  | sending (sending : Sending)
  | call (call : Call)
  deriving DecidableEq, Repr

/-- A message that has arrived on a connection of one of the ports; `none` is
a null pointer. -/
inductive Arrival where
  | onControl (received : Option Received) (c : Connection)
  | onClient (received : Option Received) (c : Connection)

def Arrival.fromControl : Arrival → Bool
  | .onControl _ _ => true
  | .onClient _ _ => false

/-- A router among its connections, with all that has left it. -/
structure Station where
  network : Network
  emitted : List Emission

namespace Station

/-- A router that has received nothing yet. -/
def opening (links : Heap Messaging.Link) : Station :=
  ⟨⟨Router.empty, links⟩, []⟩

/-- `exec` of what has arrived. -/
def exec (station : Station) (received : Received) (c : Connection) : Option Station :=
  match received with
  | .instruction received => do
      let (router, sendings) ← received.exec station.network.router c
      return ⟨{ station.network with router }, station.emitted ++ sendings.map .sending⟩
  | .serverIp received behind outcome => do
      let (network, calls) ← received.exec behind outcome station.network c
      return ⟨network, station.emitted ++ calls.map .call⟩
  | .idle _ => some station

/-- `callbackFunction` of `ControlListener` and of `ClientListener`. -/
def step (station : Station) : Arrival → Option Station
  | .onControl none _ => some station
  | .onControl (some received) c => station.exec received c
  | .onClient none _ => some station
  | .onClient (some received) _ => do
      let outputs ← station.network.router.sendToServerUsers received.targetId
        received.transferable
      return ⟨station.network,
        station.emitted ++ outputs.map fun output => .sending (.operation output)⟩

end Station

variable {router next : Router} {station after : Station}

/-! ## Server -1 -/

/-- The invalid id is no server. -/
def NoInvalid (router : Router) : Prop :=
  router.mServers[(-1 : Int)]? = none

theorem NoInvalid.of_same (clean : NoInvalid router) (same : next.mServers = router.mServers) :
    NoInvalid next := by
  rw [NoInvalid, same]
  exact clean

theorem NoInvalid.addServer {idServer : Int} (clean : NoInvalid router) (valid : idServer ≠ -1)
    (done : router.addServer idServer = some next) : NoInvalid next := by
  rcases addServer_cases done with same | ⟨_, same⟩
  · exact same ▸ clean
  · subst same
    change (router.mServers.insert idServer router.servers.next)[(-1 : Int)]? = none
    rw [Std.ExtTreeMap.getElem?_insert, if_neg (mt Std.compare_eq_iff_eq.mp valid)]
    exact clean

theorem NoInvalid.setZoneToServer {mIdServer mIdZone : Int} {c : Connection}
    {sendings : List Sending} (clean : NoInvalid router)
    (done : SetZoneToServerRcvd.exec mIdServer mIdZone router c = some (next, sendings)) :
    NoInvalid next := by
  simp only [SetZoneToServerRcvd.exec, Option.bind_eq_bind, Option.bind_eq_some_iff, Prod.exists,
    Option.pure_def, Option.some.injEq, Prod.mk.injEq] at done
  rcases done with ⟨first, _, added, second, zoned, third, started, fourth, ended, rfl, _⟩
  have afterServer : NoInvalid first := by
    unfold SetZoneToServerRcvd.addAndAsk at added
    split at added
    · next valid =>
      simp only [Option.bind_eq_bind, Option.bind_eq_some_iff, Option.pure_def, Option.some.injEq,
        Prod.mk.injEq] at added
      rcases added with ⟨_, served, _, _, rfl, _⟩
      exact clean.addServer valid served
    · cases added
      exact clean
  have afterZone : NoInvalid second := by
    unfold SetZoneToServerRcvd.addValidZone at zoned
    split at zoned
    · rcases addZone_cases zoned with same | ⟨_, same⟩
      · exact same ▸ afterServer
      · exact afterServer.of_same (same ▸ rfl)
    · cases zoned
      exact afterServer
  have afterStart : NoInvalid third := by
    rcases startZoneToServerTransfer_cases started with same | ⟨_, _, _, _, _, same⟩
    · exact same ▸ afterZone
    · exact afterZone.of_same (same ▸ rfl)
  rcases endZoneToServerTransfer_cases ended with same | ⟨_, _, _, _, _, _, same⟩
  · exact same ▸ afterStart
  · exact afterStart.of_same (same ▸ rfl)

/-- No message from Control adds the invalid id. -/
theorem NoInvalid.exec {received : Instruction} {c : Connection} {sendings : List Sending}
    (clean : NoInvalid router) (done : received.exec router c = some (next, sendings)) :
    NoInvalid next := by
  cases received with
  | setZoneToServerRcvd => exact clean.setZoneToServer done
  | addUserRcvd =>
      rcases Option.map_eq_some_iff.mp done with ⟨_, executed, same⟩
      cases same
      rcases Option.bind_eq_some_iff.mp executed with ⟨between, added, moved⟩
      have afterUser : NoInvalid between := by
        rcases addUser_cases added with ⟨_, same⟩ | ⟨_, _, _, _, _, _, same⟩
        · exact clean.of_same (same ▸ rfl)
        · exact clean.of_same (same ▸ rfl)
      rcases setUserToZone_cases moved with
        same | ⟨_, _, _, _, _, _, _, _, _, _, _, _, _, _, _, _, same⟩
      · exact same ▸ afterUser
      · exact afterUser.of_same (same ▸ rfl)
  | delUserRcvd =>
      rcases Option.bind_eq_some_iff.mp done with ⟨⟨between, _⟩, deleted, same⟩
      cases same
      rcases delUser_cases deleted with same | ⟨_, _, _, _, _, _, same⟩
      · exact same ▸ clean
      · exact clean.of_same (same ▸ rfl)
  | connectUserRcvd =>
      simp only [Instruction.exec, ConnectUserRcvd.exec, Option.bind_eq_bind,
        Option.bind_eq_some_iff, Option.pure_def, Option.some.injEq, Prod.mk.injEq] at done
      rcases done with ⟨between, connected, _, _, rfl, _⟩
      rcases connectUser_cases connected with ⟨_, same⟩ | ⟨_, middle, _, _, validated, done⟩
      · exact same ▸ clean
      · rcases userValidate_eq_some_iff.mp validated with ⟨_, _, _, _, same, _⟩
        have afterToken : NoInvalid middle := clean.of_same (same ▸ rfl)
        rcases done with same | attached
        · exact same ▸ afterToken
        · rcases userConnection_eq_some_iff.mp attached with ⟨_, _, _, _, _, same⟩
          exact afterToken.of_same (same ▸ rfl)

theorem NoInvalid.connectServer {idServer : Int} {c : Connection} {outputs : List Output}
    (clean : NoInvalid router)
    (done : router.connectServer idServer c = some (next, outputs)) : NoInvalid next := by
  rcases connectServer_cases done with same | ⟨_, _, _, _, _, _, _, same⟩
  · exact same ▸ clean
  · exact clean.of_same (same ▸ rfl)

namespace Station

/-- Nothing that arrives adds the invalid id. -/
theorem noInvalid_of_step {arrival : Arrival} (clean : NoInvalid station.network.router)
    (stepped : station.step arrival = some after) : NoInvalid after.network.router := by
  cases arrival with
  | onControl received c =>
      cases received with
      | none =>
          cases stepped
          exact clean
      | some received =>
          cases received with
          | instruction received =>
              rcases Option.bind_eq_some_iff.mp stepped with ⟨⟨router, sendings⟩, executed, same⟩
              cases same
              exact clean.exec executed
          | serverIp received behind outcome =>
              rcases Option.bind_eq_some_iff.mp stepped with ⟨⟨network, calls⟩, executed, same⟩
              cases same
              rcases exec_eq_some_iff.mp executed with ⟨_, _, _, _, _, _, _, attached, rfl, _⟩
              exact clean.connectServer attached
          | idle =>
              cases stepped
              exact clean
  | onClient received c =>
      cases received with
      | none =>
          cases stepped
          exact clean
      | some received =>
          rcases Option.bind_eq_some_iff.mp stepped with ⟨outputs, _, same⟩
          cases same
          exact clean

/-- What a client sends goes nowhere. -/
theorem step_onClient (clean : NoInvalid station.network.router) (received : Option Received)
    (c : Connection) : station.step (.onClient received c) = some station := by
  cases received with
  | none => rfl
  | some received =>
      have nobody : station.network.router.sendToServerUsers received.targetId
          received.transferable = some [] := by
        unfold sendToServerUsers
        rw [Received.targetId, clean]
      change (station.network.router.sendToServerUsers received.targetId
        received.transferable).bind _ = some station
      rw [nobody]
      exact congrArg some (congrArg (Station.mk station.network) (List.append_nil _))

end Station

end Router
end Pxc
