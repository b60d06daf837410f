import Pxc.Router.Operations

namespace Pxc
namespace Router

open General

/-!
# The messages the router receives

A message is made from the type id of its frame and the 32-bit fields of its
body, and handed to the listener of the connection it came on.  The listener
for Control executes it; the listener for clients passes it on to the users of
one server and executes nothing.  A message is executed on the connection `c`
it came on, which may be used for an answer.
-/

/-- What the handlers of messages send, besides what the router's operations
send. -/
inductive Sending where
  | operation (output : Output)
  | getServerIpSend (connection : Connection) (mServerId : Int)
  | connectCLientSend (connection : Connection) (mIdClient mZone : Int)
  deriving DecidableEq, Repr

/-- The messages the router receives and acts on. -/
inductive Instruction where
  | setZoneToServerRcvd (mIdServer mIdZone : Int)
  | addUserRcvd (mIdUser mToken mZoneId : Int)
  | delUserRcvd (mUserId : Int)
  | connectUserRcvd (mUserId mToken : Int)
  deriving DecidableEq, Repr

namespace Instruction

/-- The creators of `RouterProfile`, for these messages. -/
def create : Int → List Int → Option Instruction
  | 7, [mIdServer, mIdZone] => some (.setZoneToServerRcvd mIdServer mIdZone)
  | 60, [mIdUser, mToken, mZoneId] => some (.addUserRcvd mIdUser mToken mZoneId)
  | 61, [mUserId] => some (.delUserRcvd mUserId)
  | 200, [mUserId, mToken] => some (.connectUserRcvd mUserId mToken)
  | _, _ => none

/-- The message as one that is passed on, known by its type id. -/
def transferable : Instruction → Transferable
  | .setZoneToServerRcvd _ _ => .given 7
  | .addUserRcvd _ _ _ => .given 60
  | .delUserRcvd _ => .given 61
  | .connectUserRcvd _ _ => .given 200

/-- `Datagram::targetId`, which no message of the router overrides. -/
def targetId (_received : Instruction) : Int := -1

end Instruction

/-- `c->sendAnswer(..)`: undefined when `c` was deleted. -/
def answer (router : Router) (c : Connection) (sending : Sending) : Option (List Sending) :=
  if c ∈ router.deletedConnections then none else some [sending]

/-- The first branch of `SetZoneToServerRcvd::exec`: a valid server is added,
and Control is asked for its address. -/
def SetZoneToServerRcvd.addAndAsk (mIdServer : Int) (router : Router) (c : Connection) :
    Option (Router × List Sending) :=
  if mIdServer ≠ -1 then do
    let router ← router.addServer mIdServer
    let sendings ← router.answer c (.getServerIpSend c mIdServer)
    return (router, sendings)
  else some (router, [])

/-- The second branch: a valid zone is added. -/
def SetZoneToServerRcvd.addValidZone (mIdZone : Int) (router : Router) : Option Router :=
  if mIdZone ≠ -1 then router.addZone mIdZone else some router

/-- `SetZoneToServerRcvd::exec`. -/
def SetZoneToServerRcvd.exec (mIdServer mIdZone : Int) (router : Router) (c : Connection) :
    Option (Router × List Sending) := do
  let (router, sendings) ← SetZoneToServerRcvd.addAndAsk mIdServer router c
  let router ← SetZoneToServerRcvd.addValidZone mIdZone router
  let router ← router.startZoneToServerTransfer mIdZone mIdServer
  let router ← router.endZoneToServerTransfer mIdZone
  return (router, sendings)

/-- `AddUserRcvd::exec`, which does not use its connection. -/
def AddUserRcvd.exec (mIdUser mToken mZoneId : Int) (router : Router) : Option Router := do
  let router ← router.addUser mIdUser mToken
  router.setUserToZone mIdUser mZoneId

/-- `DelUserRcvd::exec`. -/
def DelUserRcvd.exec (mUserId : Int) (router : Router) : Option (Router × List Sending) := do
  let (router, outputs) ← router.delUser mUserId
  return (router, outputs.map .operation)

/-- `ConnectUserRcvd::exec`, whose answer carries the token where the zone
is expected. -/
def ConnectUserRcvd.exec (mUserId mToken : Int) (router : Router) (c : Connection) :
    Option (Router × List Sending) := do
  let router ← router.connectUser mUserId mToken c
  let sendings ← router.answer c (.connectCLientSend c mUserId mToken)
  return (router, sendings)

/-- `exec` of a received message. -/
def Instruction.exec (received : Instruction) (router : Router) (c : Connection) :
    Option (Router × List Sending) :=
  match received with
  | .setZoneToServerRcvd mIdServer mIdZone => SetZoneToServerRcvd.exec mIdServer mIdZone router c
  | .addUserRcvd mIdUser mToken mZoneId =>
      (AddUserRcvd.exec mIdUser mToken mZoneId router).map fun router => (router, [])
  | .delUserRcvd mUserId => DelUserRcvd.exec mUserId router
  | .connectUserRcvd mUserId mToken => ConnectUserRcvd.exec mUserId mToken router c

/-- `Router::ControlListener::callbackFunction`, for a message that was made;
`received` is null otherwise. -/
def ControlListener.callbackFunction (router : Router) (received : Option Instruction)
    (c : Connection) : Option (Router × List Sending) :=
  match received with
  | some received => received.exec router c
  | none => some (router, [])

/-- `Router::ClientListener::callbackFunction`, which does not use its
connection. -/
def ClientListener.callbackFunction (router : Router) (received : Option Instruction)
    (_c : Connection) : Option (Router × List Sending) :=
  match received with
  | some received => do
      let outputs ← router.sendToServerUsers received.targetId received.transferable
      return (router, outputs.map .operation)
  | none => some (router, [])

end Router
end Pxc
