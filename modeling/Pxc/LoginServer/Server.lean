import Mathlib.Algebra.Group.Nat.Defs
import Pxc.General.Runs
import Pxc.General.FiniteMaps

namespace Pxc
namespace LoginServer

open General

/-!
# The login server

The login server keeps five maps about its sessions and edits them in three
handlers: a login request, a logout request, and the notice that a client's
connection was closed.  Each handler runs under `loginMutex`, so a run of the
server is a sequence of handler executions.

The definitions below follow the handlers statement by statement.  A
`find` whose result is dereferenced or erased is a checked lookup, and a
handler is undefined as soon as one of them fails: the program then works on
`end()`.  An `insert` into a map keeps an entry that is already there.  The
`int` values are integers, since the handlers only compare them; the two
`unsigned int` counters are natural numbers reduced modulo 2 ^ 32.

Sending is recorded, not performed.  A send that fails inside a handler
closes the connection from within it, which is a matter of the connection
layer and not of the maps.
-/

/-- A `Connection*`, known by its address. -/
abbrev Connection := Nat

def ROUTER_IP : String := "127.0.0.1"
def ROUTER_PORT : String := "3456"
def IP_LENGTH : Nat := 16
def PORT_LENGTH : Nat := 5

/-- The values that `unsigned int` arithmetic is reduced by. -/
def unsignedRange : Nat := 2 ^ 32

/-- The `int` that an `unsigned int` is converted to. -/
def intOfUnsigned (value : Nat) : Int :=
  if value < 2 ^ 31 then value else value - unsignedRange

theorem intOfUnsigned_of_lt {value : Nat} (small : value < 2 ^ 31) :
    intOfUnsigned value = value :=
  if_pos small

def charsOf (text : String) : List Char :=
  text.toList ++ ['\x00']

/-- `strcpy` into an array: what lies beyond the copied terminator stays. -/
def strcpy (destination : List Char) (text : String) : List Char :=
  charsOf text ++ destination.drop (charsOf text).length

/-- The messages the handlers send, with the fields of their classes. -/
inductive Message where
  | newClientSend (clientId token : Int)
  | clientDisconnectSend (clientId token : Int)
  | loginRequestSend (answerCode : Int) (routerIp routerPort : List Char) (clientId token : Int)
  | logoutRequestSend (answerCode : Int)
  deriving DecidableEq, Repr

structure Sent where
  connection : Connection
  message : Message
  deriving DecidableEq, Repr

/-- The values found in the uninitialised locals of one execution of the
login handler, and in the fresh message object it answers with. -/
structure Uninitialised where
  routerIp : List Char
  routerPort : List Char
  clientId : Int
  token : Int
  messagePort : List Char
  deriving Inhabited

/-- The session data of `Login`.  The pair `controlConnected`,
`controlConnection` is one optional connection: the only statement that sets
one of them sets both. -/
structure Login where
  controlConnection : Option Connection
  nextFreeToken : Nat
  userTokenMap : FiniteMap Int Int
  idToConnectionMap : FiniteMap Int Connection
  connectionToIdMap : FiniteMap Connection Int
  userToIdMap : FiniteMap String Int
  idToUserMap : FiniteMap Int String
  usersConnected : Nat

namespace Login

/-- The state that `initializeLogin` leaves. -/
def initializeLogin : Login where
  controlConnection := none
  nextFreeToken := 0
  userTokenMap := ∅
  idToConnectionMap := ∅
  connectionToIdMap := ∅
  userToIdMap := ∅
  idToUserMap := ∅
  usersConnected := 0

/-- `if (controlConnected) controlConnection->sendAnswer(message)`. -/
def sendControl (login : Login) (message : Message) : List Sent :=
  match login.controlConnection with
  | some control => [⟨control, message⟩]
  | none => []

end Login

open Login

/-- Characters up to and including the first terminator. -/
def throughTerminator : List Char → List Char
  | [] => []
  | character :: rest =>
      if character = '\x00' then [character] else character :: throughTerminator rest

/-- The port copy of the message's constructor, which returns at the
terminator and leaves the rest of the field as it was. -/
def copyPort (field port : List Char) : List Char :=
  let copied := throughTerminator (port.take PORT_LENGTH)
  copied ++ field.drop copied.length

/-- `LoginRequestSend::LoginRequestSend`. -/
def loginRequestSend (answer : Int) (ipRouter portRouter : List Char) (idClient idToken : Int)
    (unset : Uninitialised) : Message :=
  .loginRequestSend answer (ipRouter.take IP_LENGTH) (copyPort unset.messagePort portRouter)
    idClient idToken

/-! ## The handlers -/

/-- The block of the login handler that removes the session the user already
has.  The session's connection is found through its id. -/
def retireOldSession (login : Login) (user : String) (oldClientId : Int) :
    Option (Login × List Sent) := do
  let oldToken ← login.userTokenMap[oldClientId]?
  let userToIdMap ← login.userToIdMap.eraseFound user
  let idToUserMap ← login.idToUserMap.eraseFound oldClientId
  let oldConnection ← login.idToConnectionMap[oldClientId]?
  let connectionToIdMap ← login.connectionToIdMap.eraseFound oldConnection
  let idToConnectionMap ← login.idToConnectionMap.eraseFound oldClientId
  let userTokenMap ← login.userTokenMap.eraseFound oldClientId
  let usersConnected := (login.usersConnected + (unsignedRange - 1)) % unsignedRange
  return ({ login with
      userToIdMap, idToUserMap, connectionToIdMap, idToConnectionMap, userTokenMap,
      usersConnected },
    login.sendControl (.clientDisconnectSend oldClientId oldToken))

/-- The insertions at the end of an accepted login. -/
def registerSession (login : Login) (c : Connection) (user : String) (clientId : Int) : Login :=
  { login with
    connectionToIdMap := login.connectionToIdMap.insertIfNew c clientId
    idToConnectionMap := login.idToConnectionMap.insertIfNew clientId c
    userToIdMap := login.userToIdMap.insertIfNew user clientId
    idToUserMap := login.idToUserMap.insertIfNew clientId user
    nextFreeToken := (login.nextFreeToken + 1) % unsignedRange
    usersConnected := (login.usersConnected + 1) % unsignedRange }

/-- The session part of an accepted login, with the messages it causes. -/
def acceptLogin (login : Login) (c : Connection) (user : String) : Option (Login × List Sent) :=
  let clientId := intOfUnsigned login.nextFreeToken
  let token := intOfUnsigned login.nextFreeToken
  let entered := { login with userTokenMap := login.userTokenMap.insertIfNew clientId token }
  match login.userToIdMap[user]? with
  | some oldClientId => do
      let (retired, sent) ← retireOldSession entered user oldClientId
      return (registerSession retired c user clientId, sent)
  | none => some (registerSession entered c user clientId, [])

/-- `LoginRequestRcvd::exec`.  Whether the database accepts the user and the
password is given by `valid`.  A refused login still announces a client to
Control, with whatever the two locals hold. -/
def LoginRequestRcvd.exec (login : Login) (c : Connection) (user : String) (valid : Bool)
    (unset : Uninitialised) : Option (Login × List Sent) :=
  if valid then do
    let routerIp := strcpy unset.routerIp ROUTER_IP
    let routerPort := strcpy unset.routerPort ROUTER_PORT
    let clientId := intOfUnsigned login.nextFreeToken
    let token := intOfUnsigned login.nextFreeToken
    let (accepted, sent) ← acceptLogin login c user
    return (accepted, sent ++ accepted.sendControl (.newClientSend clientId token) ++
      [⟨c, loginRequestSend 0 routerIp routerPort clientId token unset⟩])
  else
    some (login, login.sendControl (.newClientSend unset.clientId unset.token) ++
      [⟨c, loginRequestSend 1 unset.routerIp unset.routerPort unset.clientId unset.token unset⟩])

/-- The successful branch of the logout handler.  The connection erased is
the one the request came on. -/
def endSession (login : Login) (c : Connection) (clientId : Int) : Option Login := do
  let username ← login.idToUserMap[clientId]?
  let userToIdMap ← login.userToIdMap.eraseFound username
  let idToUserMap ← login.idToUserMap.eraseFound clientId
  let idToConnectionMap ← login.idToConnectionMap.eraseFound clientId
  let connectionToIdMap ← login.connectionToIdMap.eraseFound c
  let userTokenMap ← login.userTokenMap.eraseFound clientId
  let usersConnected := (login.usersConnected + (unsignedRange - 1)) % unsignedRange
  return { login with
    userToIdMap, idToUserMap, idToConnectionMap, connectionToIdMap, userTokenMap, usersConnected }

/-- `LogoutRequestRcvd::exec`. -/
def LogoutRequestRcvd.exec (login : Login) (c : Connection) (clientId token : Int) :
    Option (Login × List Sent) :=
  match login.userTokenMap[clientId]? with
  | none => some (login, [⟨c, .logoutRequestSend 1⟩])
  | some stored =>
      if stored ≠ token then some (login, [⟨c, .logoutRequestSend 2⟩])
      else do
        let ended ← endSession login c clientId
        return (ended, ended.sendControl (.clientDisconnectSend clientId token) ++
          [⟨c, .logoutRequestSend 0⟩])

/-- The body of `callOnClose` for a connection that has an id. -/
def dropSession (login : Login) (c : Connection) (clientId : Int) : Option Login := do
  let username ← login.idToUserMap[clientId]?
  let userTokenMap ← login.userTokenMap.eraseFound clientId
  let connectionToIdMap ← login.connectionToIdMap.eraseFound c
  let idToConnectionMap ← login.idToConnectionMap.eraseFound clientId
  let userToIdMap ← login.userToIdMap.eraseFound username
  let idToUserMap ← login.idToUserMap.eraseFound clientId
  let usersConnected := (login.usersConnected + (unsignedRange - 1)) % unsignedRange
  return { login with
    userTokenMap, connectionToIdMap, idToConnectionMap, userToIdMap, idToUserMap, usersConnected }

/-- `ClientClosedConnection::callOnClose`.  Nothing is sent to Control. -/
def ClientClosedConnection.callOnClose (login : Login) (c : Connection) :
    Option (Login × List Sent) :=
  match login.connectionToIdMap[c]? with
  | none => some (login, [])
  | some clientId => do
      let dropped ← dropSession login c clientId
      return (dropped, [])

/-- `ControlConnectionRcvd::exec`. -/
def ControlConnectionRcvd.exec (login : Login) (c : Connection) : Option (Login × List Sent) :=
  some ({ login with controlConnection := some c }, [])

/-- What the login server reacts to. -/
inductive Event where
  | loginRequest (c : Connection) (user : String) (valid : Bool) (unset : Uninitialised)
  | logoutRequest (c : Connection) (clientId token : Int)
  | connectionClosed (c : Connection)
  | controlConnection (c : Connection)

/-- The session data together with everything sent so far. -/
structure World where
  login : Login
  sent : List Sent

def handle (login : Login) : Event → Option (Login × List Sent)
  | .loginRequest c user valid unset => LoginRequestRcvd.exec login c user valid unset
  | .logoutRequest c clientId token => LogoutRequestRcvd.exec login c clientId token
  | .connectionClosed c => ClientClosedConnection.callOnClose login c
  | .controlConnection c => ControlConnectionRcvd.exec login c

def step (world : World) (event : Event) : Option World :=
  (handle world.login event).map fun (login, sent) => ⟨login, world.sent ++ sent⟩

def Event.accepted : Event → Bool
  | .loginRequest _ _ valid _ => valid
  | _ => false

/-- The number of accepted logins among some events. -/
def acceptedLogins (events : List Event) : Nat :=
  events.countP Event.accepted

/-- The bound the token counter is good for: fewer than 2 ^ 31 accepted logins. -/
def FewLogins (events : List Event) : Prop :=
  acceptedLogins events < 2 ^ 31

instance (events : List Event) : Decidable (FewLogins events) :=
  inferInstanceAs (Decidable (acceptedLogins events < 2 ^ 31))

theorem acceptedLogins_append (first second : List Event) :
    acceptedLogins (first ++ second) = acceptedLogins first + acceptedLogins second :=
  List.countP_append

theorem fewLogins_prefixClosed : PrefixClosed FewLogins := by
  intro first second few
  unfold FewLogins at few ⊢
  rw [acceptedLogins_append] at few
  omega

def World.initial : World :=
  ⟨initializeLogin, []⟩

end LoginServer
end Pxc
