import Pxc.General.Heap

namespace Pxc
namespace Router

open General

/-!
# The router's objects

The router keeps its users, zones and servers as objects on the heap and
refers to them by pointers in maps: its own three maps, the users of a zone,
and the zones of a server.  A pointer may outlive its object.  Reading
through such a pointer, through `end()`, or through a deleted connection has
no defined result, and the operation is then undefined.

The `int` values are integers: the code stores them, compares them, and tests
them against zero.  Sending and closing are recorded, not performed.
-/

/-- A `Connection*`, known by its address. -/
abbrev Connection := Nat

/-- What the operations send: the router's own announcement to a game server,
or a message handed to them. -/
inductive Transferable where
  | addRouterSend
  | given (message : Nat)
  deriving DecidableEq, Repr

/-- What an operation does to the connections. -/
inductive Output where
  | sent (connection : Connection) (transferable : Transferable)
  | closed (connection : Connection)
  deriving DecidableEq, Repr

/-- `Router::User`. -/
structure User where
  mId : Int
  mToken : Int
  mZone : Int
  mConnection : Option Connection

/-- `Router::Zone`. -/
structure Zone where
  mId : Int
  mServer : Int
  mNewServer : Int
  mUsers : FiniteMap Int Address
  mInTransfer : Bool

/-- `Router::Server`. -/
structure Server where
  mId : Int
  mZones : FiniteMap Int Address
  mConnection : Option Connection

namespace User

/-- `User::User`. -/
def create (id token : Int) : User where
  mId := id
  mToken := token
  mZone := -1
  mConnection := none

/-- `User::token`, the setter. -/
def token (user : User) (token : Int) : User :=
  { user with mToken := token }

/-- `User::validate`, whose body is `return mToken = token;`. -/
def validate (user : User) (token : Int) : User × Bool :=
  ({ user with mToken := token }, token ≠ 0)

/-- `User::zone`, the setter. -/
def zone (user : User) (idZone : Int) : User :=
  { user with mZone := idZone }

end User

namespace Zone

/-- `Zone::Zone`. -/
def create (id : Int) : Zone where
  mId := id
  mServer := -1
  mNewServer := -1
  mUsers := ∅
  mInTransfer := false

/-- `Zone::newServer`, the setter. -/
def newServer (zone : Zone) (newServer : Int) : Zone :=
  { zone with mNewServer := newServer, mInTransfer := true }

/-- `Zone::endTransfer`. -/
def endTransfer (zone : Zone) : Zone :=
  if zone.mInTransfer then
    { zone with mServer := zone.mNewServer, mNewServer := -1, mInTransfer := false }
  else zone

/-- `Zone::addUser`, for the user `usr` whose id is `id`. -/
def addUser (zone : Zone) (id : Int) (usr : Address) : Zone :=
  { zone with mUsers := zone.mUsers.insertIfNew id usr }

/-- `Zone::delUser`. -/
def delUser (zone : Zone) (idUser : Int) : Zone :=
  { zone with mUsers := zone.mUsers.erase idUser }

end Zone

namespace Server

/-- `Server::Server`. -/
def create (idServer : Int) : Server where
  mId := idServer
  mZones := ∅
  mConnection := none

/-- `Server::addZone`, for the zone `z` whose id is `idZone`. -/
def addZone (server : Server) (idZone : Int) (z : Address) : Server :=
  { server with mZones := server.mZones.insert idZone z }

/-- `Server::delZone`. -/
def delZone (server : Server) (idZone : Int) : Server :=
  { server with mZones := server.mZones.erase idZone }

end Server

end Router

/-- The singleton `Router`, with the heap its pointers lead to and the
connections that were deleted. -/
structure Router where
  servers : General.Heap Router.Server
  zones : General.Heap Router.Zone
  users : General.Heap Router.User
  mServers : General.FiniteMap Int General.Address
  mZones : General.FiniteMap Int General.Address
  mUsers : General.FiniteMap Int General.Address
  deletedConnections : List Router.Connection

namespace Router

open General

/-- `Router::Router`. -/
def empty : Router where
  servers := Heap.empty
  zones := Heap.empty
  users := Heap.empty
  mServers := ∅
  mZones := ∅
  mUsers := ∅
  deletedConnections := []

/-- `delete` of a connection: undefined when it was deleted before. -/
def deleteConnection (router : Router) (c : Connection) : Option Router :=
  if c ∈ router.deletedConnections then none
  else some { router with deletedConnections := c :: router.deletedConnections }

/-- `if (mConnection) delete mConnection;`. -/
def deleteOld (router : Router) (mConnection : Option Connection) : Option Router :=
  match mConnection with
  | none => some router
  | some c => router.deleteConnection c

/-- `if (mConnection) mConnection->send(*t);`. -/
def sendOn (router : Router) (mConnection : Option Connection) (t : Transferable) :
    Option (List Output) :=
  match mConnection with
  | none => some []
  | some c => if c ∈ router.deletedConnections then none else some [.sent c t]

/-- `if (mConnection) mConnection->close();`. -/
def closeOn (router : Router) (mConnection : Option Connection) : Option (List Output) :=
  match mConnection with
  | none => some []
  | some c => if c ∈ router.deletedConnections then none else some [.closed c]

/-- `User::connection`, the setter, through the pointer `user`. -/
def userConnection (router : Router) (user : Address) (c : Connection) : Option Router := do
  let object ← router.users.load user
  let router ← router.deleteOld object.mConnection
  let users ← router.users.store user { object with mConnection := some c }
  return { router with users }

/-- `User::validate` through the pointer `user`. -/
def userValidate (router : Router) (user : Address) (token : Int) : Option (Router × Bool) := do
  let object ← router.users.load user
  let users ← router.users.store user (object.validate token).1
  return ({ router with users }, (object.validate token).2)

/-- `Zone::sendToUsers` through the pointer `zone`. -/
def zoneSendToUsers (router : Router) (zone : Address) (t : Transferable) :
    Option (List Output) := do
  let object ← router.zones.load zone
  let outputs ← object.mUsers.toList.mapM fun entry => do
    let user ← router.users.load entry.2
    router.sendOn user.mConnection t
  return outputs.flatten

/-- `Server::sendToUsers` through the pointer `server`. -/
def serverSendToUsers (router : Router) (server : Address) (t : Transferable) :
    Option (List Output) := do
  let object ← router.servers.load server
  let outputs ← object.mZones.toList.mapM fun entry => router.zoneSendToUsers entry.2 t
  return outputs.flatten

/-! ## The router's operations -/

/-- `Router::addServer`. -/
def addServer (router : Router) (idServer : Int) : Option Router :=
  match router.mServers[idServer]? with
  | some _ => some router
  | none => some { router with
      servers := router.servers.alloc (Server.create idServer)
      mServers := router.mServers.insert idServer router.servers.next }

/-- `Router::connectServer`. -/
def connectServer (router : Router) (idServer : Int) (c : Connection) :
    Option (Router × List Output) :=
  match router.mServers[idServer]? with
  | none => some (router, [])
  | some server => do
      let object ← router.servers.load server
      let router ← router.deleteOld object.mConnection
      let servers ← router.servers.store server { object with mConnection := some c }
      let outputs ← router.sendOn (some c) .addRouterSend
      return ({ router with servers }, outputs)

/-- `Router::delServer`, with `Server::~Server`. -/
def delServer (router : Router) (idServer : Int) : Option (Router × List Output) :=
  match router.mServers[idServer]? with
  | none => some (router, [])
  | some server => do
      let object ← router.servers.load server
      let outputs ← router.closeOn object.mConnection
      let router ← router.deleteOld object.mConnection
      let servers ← router.servers.free server
      return ({ router with servers, mServers := router.mServers.erase idServer }, outputs)

/-- `Router::addZone`. -/
def addZone (router : Router) (idZone : Int) : Option Router :=
  match router.mZones[idZone]? with
  | some _ => some router
  | none => some { router with
      zones := router.zones.alloc (Zone.create idZone)
      mZones := router.mZones.insert idZone router.zones.next }

/-- `itServer->second->delZone(idZone)`, for the pointer `server`. -/
def serverDelZone (router : Router) (server : Address) (idZone : Int) : Option Router := do
  let object ← router.servers.load server
  let servers ← router.servers.store server (object.delZone idZone)
  return { router with servers }

/-- `serverDelZone` for the server found under `idServer`, if there is one. -/
def foundServerDelZone (router : Router) (idServer idZone : Int) : Option Router :=
  match router.mServers[idServer]? with
  | some server => router.serverDelZone server idZone
  | none => some router

/-- `Router::delZone`. -/
def delZone (router : Router) (idZone : Int) : Option Router :=
  match router.mZones[idZone]? with
  | none => some router
  | some zone => do
      let object ← router.zones.load zone
      let router ← router.foundServerDelZone object.mServer idZone
      let zones ← router.zones.free zone
      return { router with zones, mZones := router.mZones.erase idZone }

/-- `Router::startZoneToServerTransfer`. -/
def startZoneToServerTransfer (router : Router) (idZone newServer : Int) : Option Router :=
  match router.mZones[idZone]?, router.mServers[newServer]? with
  | some zone, some _ => do
      let object ← router.zones.load zone
      let zones ← router.zones.store zone (object.newServer newServer)
      return { router with zones }
  | _, _ => some router

/-- `Router::endZoneToServerTransfer`.  When one of the two servers is
unknown, the transfer stays open. -/
def endZoneToServerTransfer (router : Router) (idZone : Int) : Option Router :=
  match router.mZones[idZone]? with
  | none => some router
  | some zone => do
      let object ← router.zones.load zone
      if object.mInTransfer then
        match router.mServers[object.mServer]?, router.mServers[object.mNewServer]? with
        | some oldServer, some newServer => do
            let router ← router.serverDelZone oldServer idZone
            let entered ← router.servers.load newServer
            let servers ← router.servers.store newServer (entered.addZone object.mId zone)
            let zones ← router.zones.store zone object.endTransfer
            return { router with servers, zones }
        | _, _ => some router
      else some router

/-- `Router::addUser`. -/
def addUser (router : Router) (idUser token : Int) : Option Router :=
  match router.mUsers[idUser]? with
  | none => some { router with
      users := router.users.alloc (User.create idUser token)
      mUsers := router.mUsers.insert idUser router.users.next }
  | some user => do
      let object ← router.users.load user
      let users ← router.users.store user (object.token token)
      return { router with users }

/-- `Router::validateUser`. -/
def validateUser (router : Router) (idUser token : Int) : Option (Router × Bool) :=
  match router.mUsers[idUser]? with
  | none => some (router, false)
  | some user => router.userValidate user token

/-- `Router::connectUser`. -/
def connectUser (router : Router) (idUser token : Int) (c : Connection) : Option Router :=
  match router.mUsers[idUser]? with
  | none => some router
  | some user => do
      let (router, valid) ← router.userValidate user token
      if valid then router.userConnection user c else some router

/-- `itZone->second->delUser(idUser)` for the zone found under `idZone`, if
there is one. -/
def foundZoneDelUser (router : Router) (idZone idUser : Int) : Option (Heap Zone) :=
  match router.mZones[idZone]? with
  | some zone => do
      let object ← router.zones.load zone
      router.zones.store zone (object.delUser idUser)
  | none => some router.zones

/-- `Router::delUser`, with `User::~User`.  The pointer stays in `mUsers`. -/
def delUser (router : Router) (idUser : Int) : Option (Router × List Output) :=
  match router.mUsers[idUser]? with
  | none => some (router, [])
  | some user => do
      let object ← router.users.load user
      let zones ← router.foundZoneDelUser object.mZone idUser
      let outputs ← router.closeOn object.mConnection
      let users ← router.users.free user
      return ({ router with zones, users }, outputs)

/-- `Router::setUserToZone`.  The user's old zone is used without a check. -/
def setUserToZone (router : Router) (idUser idZone : Int) : Option Router :=
  match router.mUsers[idUser]?, router.mZones[idZone]? with
  | some user, some newZone => do
      let object ← router.users.load user
      let entered ← router.zones.load newZone
      let zones ← router.zones.store newZone (entered.addUser object.mId user)
      let oldZone ← router.mZones[object.mZone]?
      let left ← zones.load oldZone
      let zones ← zones.store oldZone (left.delUser idUser)
      let users ← router.users.store user (object.zone idZone)
      return { router with zones, users }
  | _, _ => some router

/-- `Router::sendToServer`. -/
def sendToServer (router : Router) (idServer : Int) (t : Transferable) : Option (List Output) :=
  match router.mServers[idServer]? with
  | none => some []
  | some server => do
      let object ← router.servers.load server
      router.sendOn object.mConnection t

/-- `Router::sendToServerUsers`. -/
def sendToServerUsers (router : Router) (idServer : Int) (t : Transferable) :
    Option (List Output) :=
  match router.mServers[idServer]? with
  | none => some []
  | some server => router.serverSendToUsers server t

/-- `Router::sendToZone`, which sends when the zone is not found. -/
def sendToZone (router : Router) (idZone : Int) (_t : Transferable) : Option (List Output) :=
  match router.mZones[idZone]? with
  | none => none
  | some _ => some []

/-- `Router::sendToUser`. -/
def sendToUser (router : Router) (idUser : Int) (t : Transferable) : Option (List Output) :=
  match router.mUsers[idUser]? with
  | none => some []
  | some user => do
      let object ← router.users.load user
      router.sendOn object.mConnection t

/-- A call of one of the router's operations.  Each holds the mutexes of the
maps it changes, so a run of the router is a sequence of calls. -/
inductive Event where
  | addServer (idServer : Int)
  | connectServer (idServer : Int) (c : Connection)
  | delServer (idServer : Int)
  | addZone (idZone : Int)
  | delZone (idZone : Int)
  | startZoneToServerTransfer (idZone newServer : Int)
  | endZoneToServerTransfer (idZone : Int)
  | addUser (idUser token : Int)
  | delUser (idUser : Int)
  | validateUser (idUser token : Int)
  | connectUser (idUser token : Int) (c : Connection)
  | setUserToZone (idUser idZone : Int)
  | sendToServer (idServer : Int) (t : Transferable)
  | sendToServerUsers (idServer : Int) (t : Transferable)
  | sendToZone (idZone : Int) (t : Transferable)
  | sendToUser (idUser : Int) (t : Transferable)

/-- The state after a call, which only some of the operations change. -/
def step (router : Router) : Event → Option Router
  | .addServer idServer => router.addServer idServer
  | .connectServer idServer c => (router.connectServer idServer c).map Prod.fst
  | .delServer idServer => (router.delServer idServer).map Prod.fst
  | .addZone idZone => router.addZone idZone
  | .delZone idZone => router.delZone idZone
  | .startZoneToServerTransfer idZone newServer =>
      router.startZoneToServerTransfer idZone newServer
  | .endZoneToServerTransfer idZone => router.endZoneToServerTransfer idZone
  | .addUser idUser token => router.addUser idUser token
  | .delUser idUser => (router.delUser idUser).map Prod.fst
  | .validateUser idUser token => (router.validateUser idUser token).map Prod.fst
  | .connectUser idUser token c => router.connectUser idUser token c
  | .setUserToZone idUser idZone => router.setUserToZone idUser idZone
  | .sendToServer idServer t => (router.sendToServer idServer t).map fun _ => router
  | .sendToServerUsers idServer t => (router.sendToServerUsers idServer t).map fun _ => router
  | .sendToZone idZone t => (router.sendToZone idZone t).map fun _ => router
  | .sendToUser idUser t => (router.sendToUser idUser t).map fun _ => router

end Router
end Pxc
