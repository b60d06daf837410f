import Mathlib.Algebra.Field.Rat
import Pxc.General.Dispatch
import Pxc.General.Runs
import Pxc.GameServer.Server

namespace Pxc
namespace GameServer

open General

/-!
# The instructions a game server receives

A received message is an object of its own class, which derives from
`Datagram<T>`, and through it from `Transferable` and `Instruction`.  The
listener of the control connection holds a `Transferable*`, and calls `exec`
on it virtually.

`Instruction` declares `exec(Connection*) const`, and `Datagram<T>` overrides
it with an empty body.  The classes declare an `exec` of their own; some of
them declare it without `const`, which is a different function.  Each class
below keeps the qualifier that its declaration has.
-/

/-- `ServerLoadAnswerSend`. -/
structure ServerLoadAnswer (D : Type) where
  mIdServer : Int
  mIdZone : Int
  mZoneLoad : D
  mRemainingZones : Int
  deriving DecidableEq, Repr

/-- The answers of `GameServer::SendZoneLoads` to a list of zones, with
`remaining` of them left. -/
def zoneLoads {D : Type} (serverId : Int) : List (Int × ZoneHandler D) → Int →
    List (ServerLoadAnswer D)
  | [], _ => []
  | (idZone, handler) :: rest, remaining =>
      ⟨serverId, idZone, handler.mLoad, remaining - 1⟩ :: zoneLoads serverId rest (remaining - 1)

/-- `GameServer::SendZoneLoads`. -/
def sendZoneLoads {D : Type} (gameServer : GameServer D) : List (ServerLoadAnswer D) :=
  zoneLoads gameServer.mServerId gameServer.mZones.toList gameServer.mZones.size

/-- The objects of the classes of received messages, with their fields. -/
inductive Received where
  | serverLoadOrder
  | setZoneOrder (idZone idServerDest : Int)
  | getZoneOrder (idZone idServerSource : Int)
  | setServerIp (mServerId : Int) (mIPServer mPortServer : List Char)
  | setZoneToServer (mIdZone mIdServer : Int)
  | addUser (mIdUser mIdZone : Int)
  | delUser (mIdUser mIdZone : Int)
  | addRouter
  deriving DecidableEq, Repr

/-- What a handler does to the game server, with the answers it sends on the
connection, undefined when a failed lookup is used. -/
abbrev Handler (D : Type) :=
  Connection → GameServer D → Option (GameServer D × List (ServerLoadAnswer D))

/-- The types of parameters. -/
inductive ParameterType where
  | connection
  deriving DecidableEq, Repr

/-- `exec(Connection*)`, with or without `const`. -/
def execSignature (isConst : Bool) : Signature ParameterType :=
  ⟨"exec", [.connection], isConst⟩

variable {D : Type} [Zero D]

/-- The body of `exec` in each class. -/
def Received.handler : Received → Handler D
  | .serverLoadOrder, _, gameServer => some (gameServer, gameServer.sendZoneLoads)
  | .setZoneOrder _ _, _, gameServer => some (gameServer, [])
  | .getZoneOrder _ _, _, gameServer => some (gameServer, [])
  | .setServerIp _ _ _, _, gameServer => some (gameServer, [])
  | .setZoneToServer mIdZone mIdServer, _, gameServer =>
      some (gameServer.execSetZoneToServer mIdZone mIdServer, [])
  | .addUser mIdUser mIdZone, _, gameServer => some (gameServer.addClient mIdUser mIdZone, [])
  | .delUser mIdUser _, _, gameServer => (gameServer.delClient mIdUser).map fun next => (next, [])
  | .addRouter, connection, gameServer => some (gameServer.addRouter connection, [])

/-- Whether the class declares its `exec` with `const`. -/
def Received.declaresConst : Received → Bool
  | .serverLoadOrder => true
  | .setZoneOrder _ _ => false
  | .getZoneOrder _ _ => false
  | .setServerIp _ _ _ => true
  | .setZoneToServer _ _ => true
  | .addUser _ _ => false
  | .delUser _ _ => false
  | .addRouter => false

/-- The empty body of `Datagram<T>::exec`. -/
def datagramHandler : Handler D :=
  fun _ gameServer => some (gameServer, [])

/-- The classes of an object: its own, `Datagram<T>`, `Transferable` and
`Instruction`. -/
def Received.lineage (received : Received) : List (List (Declaration ParameterType (Handler D))) :=
  [[⟨execSignature received.declaresConst, some received.handler⟩],
    [⟨execSignature true, some datagramHandler⟩],
    [],
    [⟨execSignature true, none⟩]]

/-- `GameServer::ControlListener::callbackFunction`, for a message that is not
null: the virtual call of `exec(Connection*) const`. -/
def callbackFunction (received : Received) (connection : Connection) (gameServer : GameServer D) :
    Option (GameServer D × List (ServerLoadAnswer D)) :=
  (finalOverrider (execSignature true) received.lineage).bind fun handler =>
    handler connection gameServer

/-- The call runs the body that the class defines, if it is declared with
`const`, and nothing otherwise. -/
theorem callbackFunction_eq (received : Received) (connection : Connection)
    (gameServer : GameServer D) :
    callbackFunction received connection gameServer =
      if received.declaresConst then received.handler connection gameServer
      else some (gameServer, []) := by
  unfold callbackFunction Received.lineage
  by_cases isConst : received.declaresConst = true
  · rw [if_pos isConst, isConst]
    exact congrArg (fun body => Option.bind body fun handler => handler connection gameServer)
      (finalOverrider_overrides ⟨execSignature true, some received.handler⟩ [] _)
  · have isPlain : received.declaresConst = false := Bool.eq_false_of_not_eq_true isConst
    have others : ∀ declaration ∈
        [(⟨execSignature received.declaresConst, some received.handler⟩ :
          Declaration ParameterType (Handler D))],
        declaration.signature ≠ execSignature true := by
      intro declaration member
      rw [List.mem_singleton.mp member, isPlain]
      intro same
      cases congrArg Signature.isConst same
    rw [if_neg isConst, finalOverrider_hides _ others]
    exact congrArg (fun body => Option.bind body fun handler => handler connection gameServer)
      (finalOverrider_overrides ⟨execSignature true, some datagramHandler⟩ [] _)

/-- The messages that are meant to keep the table of clients. -/
inductive UserMessage where
  | addUser (mIdUser mIdZone : Int)
  | delUser (mIdUser mIdZone : Int)
  deriving DecidableEq, Repr

namespace UserMessage

def received : UserMessage → Received
  | .addUser mIdUser mIdZone => .addUser mIdUser mIdZone
  | .delUser mIdUser mIdZone => .delUser mIdUser mIdZone

def mIdUser : UserMessage → Int
  | .addUser mIdUser _ => mIdUser
  | .delUser mIdUser _ => mIdUser

/-- The zone that a user is left in by a message about it. -/
def zone : UserMessage → Option Int
  | .addUser _ mIdZone => some mIdZone
  | .delUser _ _ => none

end UserMessage

/-- The zone that a user is left in by the last message about it, if that adds
the user. -/
def lastZone (idUser : Int) (messages : List UserMessage) : Option Int :=
  (messages.filter fun message => message.mIdUser = idUser).getLast?.bind UserMessage.zone

/-- The control connection delivers a message. -/
def receiveUser (gameServer : GameServer D) (delivered : Connection × UserMessage) :
    Option (GameServer D) :=
  (callbackFunction delivered.2.received delivered.1 gameServer).map Prod.fst

/-- The messages delivered reach the table of clients: it maps the users whose
last message adds them, each to the zone of that message. -/
def ReachTable (gameServer : GameServer D) (delivered : List (Connection × UserMessage)) : Prop :=
  ∃ final, run receiveUser gameServer delivered = some final ∧
    ∀ idUser, final.mClients[idUser]? = lastZone idUser (delivered.map Prod.snd)

theorem receiveUser_eq (gameServer : GameServer D) (delivered : Connection × UserMessage) :
    receiveUser gameServer delivered = some gameServer := by
  have plain : delivered.2.received.declaresConst = false := by
    cases delivered.2 <;> rfl
  rw [receiveUser, callbackFunction_eq, plain]
  rfl

theorem run_receiveUser (gameServer : GameServer D) (delivered : List (Connection × UserMessage)) :
    run receiveUser gameServer delivered = some gameServer := by
  induction delivered with
  | nil => rfl
  | cons first rest inductionHypothesis =>
      rw [run_cons, receiveUser_eq]
      exact inductionHypothesis

/-- The messages reach an empty table exactly when they leave it empty: each
user that is added is deleted by a later message. -/
theorem reachTable_iff (gameServer : GameServer D) (empty : gameServer.mClients = ∅)
    (delivered : List (Connection × UserMessage)) :
    ReachTable gameServer delivered ↔
      ∀ idUser, lastZone idUser (delivered.map Prod.snd) = none := by
  constructor
  · rintro ⟨final, ran, reached⟩ idUser
    rw [run_receiveUser, Option.some.injEq] at ran
    rw [← reached, ← ran, empty, Std.ExtTreeMap.getElem?_empty]
  · intro nobody
    refine ⟨gameServer, run_receiveUser gameServer delivered, ?_⟩
    intro idUser
    rw [nobody, empty, Std.ExtTreeMap.getElem?_empty]

theorem reachTable_addedAndDeleted :
    ReachTable (fresh : GameServer ℚ) [(7, .addUser 1 3), (7, .delUser 1 3)] := by
  refine (reachTable_iff fresh rfl _).mpr ?_
  intro idUser
  by_cases same : (1 : Int) = idUser
  · subst same
    rfl
  · have other : ∀ message ∈ [UserMessage.addUser 1 3, .delUser 1 3], message.mIdUser ≠ idUser := by
      intro message member
      simp only [List.mem_cons, List.not_mem_nil, or_false] at member
      rcases member with rfl | rfl <;> exact same
    have none : [UserMessage.addUser 1 3, .delUser 1 3].filter
        (fun message => message.mIdUser = idUser) = [] := by
      rw [List.filter_eq_nil_iff]
      intro message member equal
      exact other message member (of_decide_eq_true equal)
    exact congrArg (fun found => found.getLast?.bind UserMessage.zone) none

/-- One AddUser message: the user is not in the table afterwards. -/
theorem reachTable_fails :
    ¬ ∀ delivered, ReachTable (fresh : GameServer ℚ) delivered := by
  intro always
  rcases always [(7, .addUser 1 3)] with ⟨final, ran, reached⟩
  rw [run_receiveUser, Option.some.injEq] at ran
  have mapped : lastZone 1 [UserMessage.addUser 1 3] = some 3 := rfl
  have found := (reached 1).trans mapped
  rw [← ran, fresh, Std.ExtTreeMap.getElem?_empty] at found
  cases found

end GameServer
end Pxc
