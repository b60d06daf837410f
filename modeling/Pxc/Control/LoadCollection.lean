import Pxc.General.Runs
import Pxc.Control.Servers

namespace Pxc
namespace Control

open General

/-!
# Collecting the loads

In every round, Control asks the game servers for the loads of their zones,
waits until a mask of servers is zero or a timer ends the wait, and balances.
A game server answers a request with one reply for each of its zones, and the
last reply carries the count zero, which clears the server's bit in the mask.
The replies are handled as they arrive, while Control asks, waits or sleeps.

Control and the game servers are parties that exchange messages over one
first-in first-out connection for each server, with any delay.  The zones
that a server hosts were sent to it on that connection before any request, in
the order in which Control added them to the server's distribution, which is
the increasing order in which the game server's own map yields them.  The
orders of a balancing use the same connections, and the game servers' handlers
of them are empty.

The rounds are numbered, and a message carries the number of its round.  The
program has neither: the numbers are labels for the statements, as is the
record of the servers asked and of the last answers, and no step reads them.
-/

variable {D : Type} [Zero D] [Add D] [Arithmetic D] [LT D] [DecidableLT D]

/-- `ServerLoadAnswerSend`, which arrives as `ServerLoadRcvd`, with the round
of the request it answers. -/
structure ServerLoad (D : Type) where
  idServer : Int
  idZone : Int
  zoneLoad : D
  remainingZones : Int
  round : Nat

/-- Where Control's main loop stands: asking the servers that are left and
then waiting, or sleeping until the next round. -/
inductive Phase where
  | asking (left : List Int)
  | sleeping
  deriving DecidableEq, Repr

end Control

/-- Control, the connections, and the game servers.  Connections and game
servers are known by the id of their server. -/
structure LoadCollection (D : Type) where
  control : Control D
  recievedConnectionMask : BitVec 32
  phase : Control.Phase
  requests : Int → List Nat
  replies : Int → List (Control.ServerLoad D)
  zones : Int → List Int
  round : Nat
  asked : List Int
  answered : Int → Option Nat

namespace Control

variable {D : Type} [Zero D] [Add D] [Arithmetic D] [LT D] [DecidableLT D]

/-- `(sizeof(int) * 8) - numberServers`, as an `unsigned int`. -/
def shift (numberServers : Int) : BitVec 32 :=
  BitVec.ofInt 32 (4 * 8 - numberServers)

/-- The mask that `main` starts with: a word of ones, shifted.  It is undefined
when the shift is not by a bit position. -/
def startMask (numberServers : Int) : Option (BitVec 32) :=
  if (shift numberServers).toNat < 32 then
    some (~~~(0 : BitVec 32) >>> (shift numberServers).toNat)
  else none

/-- The shift by a server's id is defined. -/
def HasBit (id : Int) : Prop :=
  0 ≤ id ∧ id < 32

theorem exists_startMask {numberServers : Int} (positive : 1 ≤ numberServers)
    (fits : numberServers ≤ 32) : ∃ mask, startMask numberServers = some mask := by
  have amount : (shift numberServers).toNat < 32 := by
    rw [shift, BitVec.toNat_ofInt]
    omega
  exact ⟨_, if_pos amount⟩

/-! ## The reply handler -/

section Handler

omit [Zero D] [Arithmetic D] [LT D] [DecidableLT D]

/-- The loop of the reply handler over one server's distribution. -/
def Server.report (server : Server D) (idZone : Int) (zoneLoad : D) : Server D :=
  { server with
    distribution := server.distribution.map fun entry =>
      if entry.zone = idZone then { entry with load := zoneLoad } else entry
    totalLoad := server.distribution.foldl
      (fun total entry => if entry.zone = idZone then total + zoneLoad else total)
      server.totalLoad }

/-- `recievedConnectionMask & ~(1 << idServer)`, undefined when the shift is
not by a bit position of an `int`. -/
def clearBit (mask : BitVec 32) (idServer : Int) : Option (BitVec 32) :=
  if 0 ≤ idServer ∧ idServer < 32 then some (mask &&& ~~~(1#32 <<< idServer.toNat)) else none

/-- `ServerLoadRcvd::exec`, from some server of the list on.  It returns after
the first server it finds if no zones remain. -/
def ServerLoadRcvd.exec (message : ServerLoad D) :
    List (Server D) → BitVec 32 → Option (List (Server D) × BitVec 32)
  | [], mask => some ([], mask)
  | server :: rest, mask =>
      if server.id = message.idServer then
        let reported := server.report message.idZone message.zoneLoad
        if message.remainingZones = 0 then
          (clearBit mask message.idServer).map fun mask => (reported :: rest, mask)
        else
          (ServerLoadRcvd.exec message rest mask).map fun (servers, mask) =>
            (reported :: servers, mask)
      else
        (ServerLoadRcvd.exec message rest mask).map fun (servers, mask) => (server :: servers, mask)

end Handler

/-- `GameServer::SendZoneLoads`: one reply for each zone that is left. -/
def sendZoneLoads (serverId : Int) (round : Nat) (getLoad : Int → D) :
    List Int → List (ServerLoad D)
  | [] => []
  | idZone :: rest =>
      { idServer := serverId, idZone, zoneLoad := getLoad idZone, remainingZones := rest.length,
        round } :: sendZoneLoads serverId round getLoad rest

omit [Zero D] [Add D] [Arithmetic D] [LT D] [DecidableLT D] in
theorem mem_sendZoneLoads {serverId : Int} {round : Nat} {getLoad : Int → D} {zones : List Int}
    {reply : ServerLoad D} (member : reply ∈ sendZoneLoads serverId round getLoad zones) :
    reply.idServer = serverId ∧ reply.round = round := by
  induction zones with
  | nil => cases member
  | cons idZone rest inductionHypothesis =>
      rcases List.mem_cons.mp member with rfl | later
      · exact ⟨rfl, rfl⟩
      · exact inductionHypothesis later

/-- What can happen next.  A game server's loads are those of its zones when
it handles the request. -/
inductive Happening (D : Type) where
  | ask
  | endByMask
  | endByTimeout
  | newRound
  | serve (id : Int) (getLoad : Int → D)
  | deliver (id : Int)
  | offline (id : Int)

end Control

namespace LoadCollection

open General Control

variable {D : Type} [Zero D] [Add D] [Arithmetic D] [LT D] [DecidableLT D]

/-- The server with the id has a connection that is online. -/
def Online (world : LoadCollection D) (id : Int) : Prop :=
  ∃ server ∈ world.control.servers, server.id = id ∧ server.online = true

instance (world : LoadCollection D) (id : Int) : Decidable (world.Online id) :=
  inferInstanceAs (Decidable (∃ server ∈ world.control.servers, _ ∧ _))

/-- The body of the asking loop for the server with the id: its total is set
to zero and a request is sent, if its connection is online. -/
def ask (world : LoadCollection D) (id : Int) : LoadCollection D :=
  if world.Online id then
    { world with
      control := { world.control with
        servers := world.control.servers.map fun server =>
          if server.id = id then { server with totalLoad := 0 } else server }
      requests := Function.update world.requests id (world.requests id ++ [world.round])
      asked := id :: world.asked }
  else world

/-- The end of a round's wait: the list is sorted and balanced. -/
def finish (world : LoadCollection D) : Option (LoadCollection D) :=
  let sorted := { world.control with servers := sortByLoad world.control.servers }
  (balance sorted).2.map fun control => { world with control, phase := .sleeping }

/-- A reply arrives and is handled. -/
def deliver (world : LoadCollection D) (id : Int) : Option (LoadCollection D) :=
  match world.replies id with
  | [] => none
  | reply :: later =>
      (ServerLoadRcvd.exec reply world.control.servers world.recievedConnectionMask).map
        fun (servers, recievedConnectionMask) =>
          { world with
            control := { world.control with servers }
            recievedConnectionMask
            replies := Function.update world.replies id later
            answered :=
              if reply.remainingZones = 0 then
                Function.update world.answered id (some reply.round)
              else world.answered }

/-- A game server handles a request. -/
def serve (world : LoadCollection D) (id : Int) (getLoad : Int → D) : Option (LoadCollection D) :=
  match world.requests id with
  | [] => none
  | round :: later => some { world with
      requests := Function.update world.requests id later
      replies := Function.update world.replies id
        (world.replies id ++ sendZoneLoads id round getLoad (world.zones id)) }

/-- One step.  A step that cannot be taken in a state is undefined there. -/
def step (world : LoadCollection D) : Happening D → Option (LoadCollection D)
  | .ask =>
      match world.phase with
      | .asking (id :: left) => some { world.ask id with phase := .asking left }
      | _ => none
  | .endByMask =>
      if world.phase = .asking [] ∧ world.recievedConnectionMask = 0 then world.finish else none
  | .endByTimeout =>
      if world.phase = .asking [] ∧ world.recievedConnectionMask ≠ 0 then world.finish else none
  | .newRound =>
      if world.phase = .sleeping then
        some { world with
          phase := .asking (world.control.servers.map Server.id)
          round := world.round + 1
          asked := [] }
      else none
  | .serve id getLoad => world.serve id getLoad
  | .deliver id => world.deliver id
  | .offline id => some { world with
      control := { world.control with
        servers := world.control.servers.map fun server =>
          if server.id = id then { server with online := false } else server } }

/-- The event sends a request to the server with the id. -/
def Requests (world : LoadCollection D) (event : Happening D) (id : Int) : Prop :=
  event = .ask ∧ (∃ left, world.phase = .asking (id :: left)) ∧ world.Online id

/-- No request to the server and no reply of it is on its way. -/
def Quiet (world : LoadCollection D) (id : Int) : Prop :=
  world.requests id = [] ∧ world.replies id = []

/-- The state in which `main` enters its loop, with the mask it has computed. -/
def initial (control : Control D) (mask : BitVec 32) : LoadCollection D where
  control := control
  recievedConnectionMask := mask
  phase := .asking (control.servers.map Server.id)
  requests _ := []
  replies _ := []
  zones id :=
    match control.servers.find? fun server => server.id = id with
    | some server => server.distribution.map ZoneLoad.zone
    | none => []
  round := 0
  asked := []
  answered _ := none

/-- One game server, to which all zones were assigned.  Its mask is 1. -/
def oneServer : Control ℚ where
  servers :=
    [{ address := 1, id := 0, distribution := [⟨0, 0⟩, ⟨1, 0⟩, ⟨2, 0⟩, ⟨3, 0⟩], totalLoad := 0,
       online := true }]
  numberServers := 1
  zoneServer _ := some 1

/-- A round in which the server gives its four answers. -/
def answeredRound : List (Happening ℚ) :=
  [.ask, .serve 0 fun _ => 1 / 8, .deliver 0, .deliver 0, .deliver 0, .deliver 0, .endByMask]

/-- The one request of the round is sent first, from the initial state. -/
theorem answeredRound_requests {before after : List (Happening ℚ)} {event : Happening ℚ}
    {world : LoadCollection ℚ} {id : Int} (split : answeredRound = before ++ event :: after)
    (reached : run step (initial oneServer 1) before = some world)
    (requests : world.Requests event id) : id = 0 ∧ world = initial oneServer 1 := by
  rcases requests with ⟨rfl, ⟨left, phase⟩, _⟩
  cases before with
  | nil =>
      cases reached
      cases phase
      exact ⟨rfl, rfl⟩
  | cons first before =>
      have later : Happening.ask ∈ answeredRound.tail := by
        rw [split]
        exact List.mem_append_right _ List.mem_cons_self
      simp [answeredRound] at later

end LoadCollection
end Pxc
