import Pxc.Control.Balance
import Pxc.Control.RouterNotices
import Pxc.General.Relays
import Pxc.LoginServer.ControlNotices
import Pxc.Router.Instructions
import Pxc.Router.UserOperations

namespace Pxc
namespace System

open General

/-!
# The way of a user from the login server to the router

The login server tells Control which users enter and leave, and Control tells
the router.  The three programs are a source, a relay and a sink: the handlers
of the login server send on its connection to Control, Control handles what
arrives there and sends to the router, and the router handles that.  In
between, a balancing may change Control's zone table, by which a new user is
looked up, and it tells the router of the zones it moves.

Control also tells a game server of a new user, on a connection of its own.
The game servers do nothing with that message, and it is not followed here.
-/

/-- What is said of a user: that it has entered, with a token, or that it has
left. -/
inductive Notice where
  | entered (idUser token : Int)
  | left (idUser : Int)
  deriving DecidableEq, Repr

/-- The type id and the fields of a message that the login server sends to
Control, and of no other. -/
def frame : LoginServer.Message → Int × List Int
  | .newClientSend clientId token => (50, [clientId, token])
  | .clientDisconnectSend clientId token => (52, [clientId, token])
  | .loginRequestSend _ _ _ _ _ => (101, [])
  | .logoutRequestSend _ => (103, [])

/-- What Control makes of a message. -/
def received (message : LoginServer.Message) : Option Control.UserNotice :=
  Control.UserNotice.create (frame message).1 (frame message).2

/-- What the router makes of a message.  The object it makes of a moved zone
has an empty `exec`, and is none here. -/
def instruction (message : Control.RouterMessage) : Option Router.Instruction :=
  Router.Instruction.create message.frame.1 message.frame.2

section Programs

variable {D : Type} [Zero D] [Add D] [Control.Arithmetic D] [LT D] [DecidableLT D]

/-- The servers, with their loads, when a balancing begins. -/
structure Round (D : Type) where
  servers : List (Control.Server D)
  numberServers : Int

/-- The messages among those sent that go to one connection. -/
def messagesOn (connection : LoginServer.Connection) (sent : List LoginServer.Sent) :
    List LoginServer.Message :=
  (sent.filter fun message => message.connection = connection).map LoginServer.Sent.message

/-- The login server handles an event.  It may send to Control, which is at the
other end of the connection `control`. -/
def emit (control : LoginServer.Connection) (world : LoginServer.World)
    (event : LoginServer.Event) : Option (LoginServer.World × List LoginServer.Message) :=
  (LoginServer.handle world.login event).map fun (login, sent) =>
    (⟨login, world.sent ++ sent⟩, messagesOn control sent)

/-- A balancing leaves a zone table, and sends to the router.  It is one act:
what is sent in between by another thread comes before or after. -/
def balanced (zoneServer : Fin Control.NZONES → Option Control.Address) (round : Round D) :
    Option ((Fin Control.NZONES → Option Control.Address) × List Control.RouterMessage) :=
  let (orders, left) := Control.balance ⟨round.servers, round.numberServers, zoneServer⟩
  left.map fun control => (control.zoneServer, orders.map Control.Order.toRouter)

/-- Control handles a message of the login server.  It has no creator for the
answers to clients. -/
def forward (players : Option (List Control.PlayerRow))
    (zoneServer : Fin Control.NZONES → Option Control.Address) (message : LoginServer.Message) :
    Option (List Control.RouterMessage) :=
  (received message).bind (Control.UserNotice.exec players zoneServer)

/-- The router handles a message of Control, which came on the connection `c`. -/
def receive (c : Router.Connection) (router : Router) (message : Control.RouterMessage) :
    Option Router :=
  (Router.ControlListener.callbackFunction router (instruction message) c).map Prod.fst

/-- Three programs that act on users. -/
abbrev Programs (D : Type) :=
  Parties LoginServer.World (Fin Control.NZONES → Option Control.Address) Router
    LoginServer.Message Control.RouterMessage LoginServer.Event (Round D)

/-- The three programs, with the rows of the database and the two connections
they have with Control. -/
def programs (players : Option (List Control.PlayerRow)) (control : LoginServer.Connection)
    (c : Router.Connection) : Programs D where
  emit := emit control
  change := balanced
  forward := forward players
  receive := receive c

/-- The three programs when they have been started, and nothing is on its way. -/
abbrev Path :=
  Line LoginServer.World (Fin Control.NZONES → Option Control.Address) Router
    LoginServer.Message Control.RouterMessage

/-- The line at the start of a login server. -/
def Path.opening (world : LoginServer.World)
    (zoneServer : Fin Control.NZONES → Option Control.Address) : Path :=
  ⟨world, [], zoneServer, [], Router.empty⟩

end Programs

/-- What a message from the login server to Control says. -/
def noticeOf : LoginServer.Message → List Notice
  | .newClientSend clientId token => [.entered clientId token]
  | .clientDisconnectSend clientId _ => [.left clientId]
  | _ => []

/-- What a message from Control to the router says. -/
def passedOn : Control.RouterMessage → List Notice
  | .changeZone _ => []
  | .newUser message => [.entered message.idUser message.token]
  | .deleteUser message => [.left message.idUser]

/-- What the messages say. -/
def speech : Speech LoginServer.Message Control.RouterMessage Notice :=
  ⟨noticeOf, passedOn⟩

/-- What the login server has said to Control. -/
def said (control : LoginServer.Connection) (sent : List LoginServer.Sent) : List Notice :=
  (messagesOn control sent).flatMap noticeOf

theorem messagesOn_append (control : LoginServer.Connection)
    (first second : List LoginServer.Sent) :
    messagesOn control (first ++ second) =
      messagesOn control first ++ messagesOn control second := by
  rw [messagesOn, List.filter_append, List.map_append]
  rfl

theorem said_append (control : LoginServer.Connection) (first second : List LoginServer.Sent) :
    said control (first ++ second) = said control first ++ said control second := by
  rw [said, messagesOn_append, List.flatMap_append]
  rfl

theorem said_singleton (control : LoginServer.Connection) (message : LoginServer.Sent) :
    said control [message] =
      if message.connection = control then noticeOf message.message else [] := by
  rw [said, messagesOn]
  by_cases same : message.connection = control
  · rw [List.filter_cons_of_pos (by exact decide_eq_true same), if_pos same]
    exact List.append_nil _
  · rw [List.filter_cons_of_neg (by exact (ne_of_eq_of_ne (decide_eq_false same)
      Bool.false_ne_true)), if_neg same]
    rfl

/-- Control says to the router what it was told. -/
theorem faithful {D : Type} [Zero D] [Add D] [Control.Arithmetic D] [LT D] [DecidableLT D]
    (players : Option (List Control.PlayerRow)) (control : LoginServer.Connection)
    (c : Router.Connection) :
    Line.Faithful (programs players control c : Programs D) speech where
  silent := by
    intro zoneServer round zoneServer' sent changed
    rcases Option.map_eq_some_iff.mp changed with ⟨left, _, same⟩
    cases same
    apply List.flatMap_eq_nil_iff.mpr
    intro message member
    rcases List.mem_map.mp member with ⟨order, _, rfl⟩
    rfl
  forwarded := by
    intro zoneServer message sent forwarded
    rcases Option.bind_eq_some_iff.mp forwarded with ⟨notice, made, executed⟩
    cases message with
    | newClientSend clientId token =>
        cases made
        rcases Control.newUserRcvd_exec_eq_some_iff.mp executed with ⟨_, _, _, _, _, rfl⟩
        rfl
    | clientDisconnectSend clientId token =>
        cases made
        cases executed
        rfl
    | loginRequestSend => cases made
    | logoutRequestSend => cases made

/-- Control passes a leaving user on in every state, and an entering user if
it has a zone with a server. -/
theorem exists_forward_iff {players : Option (List Control.PlayerRow)}
    {zoneServer : Fin Control.NZONES → Option Control.Address} {message : LoginServer.Message}
    (notice : message.isNotice = true) :
    (∃ sent, forward players zoneServer message = some sent) ↔
      ∀ idUser token, message = .newClientSend idUser token →
        Control.HasOwnedZone players zoneServer idUser := by
  cases message with
  | newClientSend clientId token =>
      constructor
      · rintro ⟨sent, forwarded⟩ idUser _ same
        cases same
        exact (Control.newUserRcvd_exec_eq_some_iff.mp forwarded).1
      · intro owned
        have owns := owned clientId token rfl
        rcases owns with ⟨rows, answers, zone, stored, _⟩
        exact ⟨_, Control.newUserRcvd_exec_eq_some_iff.mpr
          ⟨owned clientId token rfl, rows, _, answers, stored, rfl⟩⟩
  | clientDisconnectSend clientId token =>
      refine ⟨fun _ _ _ same => ?_, fun _ => ⟨_, rfl⟩⟩
      cases same
  | loginRequestSend => cases notice
  | logoutRequestSend => cases notice

end System
end Pxc
