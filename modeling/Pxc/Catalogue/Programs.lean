import Mathlib.Algebra.GroupWithZero.Nat
import Pxc.General.Records
import Pxc.Messaging.Factory

namespace Pxc
namespace Catalogue

open General Messaging

/-!
# The message classes of the five programs

Every program declares the classes it sends and the classes it receives on its
own, and its profile gives them type ids.  A class is listed here with the
data members it adds to `Datagram`, in the order of their declaration.  Each
member says what it means, since the two sides of a message name their members
differently.

Only the classes that a profile mentions are listed.
-/

/-- What a data member is about. -/
inductive Meaning where
  | zone | server | sourceServer | destServer | load | remainingZones
  | user | token | answerCode | ip | port | username | password
  | destination | position | direction | speed
deriving DecidableEq

/-- A class derived from `Datagram`, under the name it gives its base class. -/
structure MessageClass where
  mType : String
  members : List (String × RecordField Meaning)
deriving DecidableEq

/-- What is transferred of an object. -/
def MessageClass.fields (messageClass : MessageClass) : List (RecordField Meaning) :=
  messageClass.members.map Prod.snd

/-- A member of type `int` or `int32_t`. -/
def int (name : String) (meaning : Meaning) : String × RecordField Meaning :=
  (name, ⟨meaning, 4, 1, by decide⟩)

/-- A member of type `double`. -/
def double (name : String) (meaning : Meaning) : String × RecordField Meaning :=
  (name, ⟨meaning, 8, 1, by decide⟩)

/-- An array of `double`. -/
def doubles (name : String) (meaning : Meaning) (count : Nat) [NeZero count] :
    String × RecordField Meaning :=
  (name, ⟨meaning, 8, count, Nat.mul_pos (by decide) (Nat.pos_of_neZero count)⟩)

/-- An array of `char` or `int8_t`. -/
def chars (name : String) (meaning : Meaning) (count : Nat) [NeZero count] :
    String × RecordField Meaning :=
  (name, ⟨meaning, 1, count, Nat.mul_pos (by decide) (Nat.pos_of_neZero count)⟩)

/-! ## The control server -/

namespace Control

def IPLENGTH : Nat := 16

def PORTLENGTH : Nat := 5

instance : NeZero IPLENGTH := ⟨by decide⟩

instance : NeZero PORTLENGTH := ⟨by decide⟩

def ServerLoadSend : MessageClass := ⟨"ServerLoadSend", []⟩

def ServerLoadRcvd : MessageClass :=
  ⟨"ServerLoadRcvd", [int "idServer" .server, int "idZone" .zone, double "zoneLoad" .load,
    int "remainingZones" .remainingZones]⟩

def IPServerSend : MessageClass :=
  ⟨"IPServerSend", [int "idServer" .server, chars "ipSourceServer" .ip IPLENGTH,
    chars "portSourceServer" .port PORTLENGTH]⟩

def IPServerRcvd : MessageClass := ⟨"IPServerRcvd", [int "idServer" .server]⟩

def NewUserRcvd : MessageClass :=
  ⟨"NewUserRcvd", [int "idUser" .user, int "token" .token]⟩

def DisconnectUserRcvd : MessageClass := ⟨"DisconnectUserRcvd", [int "idUser" .user]⟩

def RemoveZoneSend : MessageClass := ⟨"RemoveZoneSend", [int "idZone" .zone]⟩

def GetZoneSend : MessageClass :=
  ⟨"GetZoneSend", [int "idZone" .zone, int "idServerSource" .sourceServer]⟩

def SetZoneToServerSend : MessageClass :=
  ⟨"SetZoneToServerSend", [int "idZone" .zone, int "idServer" .server]⟩

def GameNewUserSend : MessageClass :=
  ⟨"GameNewUserSend", [int "idUser" .user, int "idZone" .zone]⟩

def GameDeleteUserSend : MessageClass := ⟨"GameDeleteUserSend", [int "idUser" .user]⟩

def LoginOnlineSend : MessageClass := ⟨"LoginOnlineSend", []⟩

def RouterChangeZoneSend : MessageClass :=
  ⟨"RouterChangeZoneSend", [int "idZone" .zone, int "idSourceServer" .sourceServer,
    int "idDestServer" .destServer]⟩

def RouterNewUserSend : MessageClass :=
  ⟨"RouterNewUserSend", [int "idUser" .user, int "token" .token, int "zonaUser" .zone]⟩

def RouterDeleteUserSend : MessageClass := ⟨"RouterDeleteUserSend", [int "idUser" .user]⟩

def ControlProfile : Profile MessageClass where
  mCreators := [(0, ServerLoadRcvd), (1, IPServerRcvd), (50, NewUserRcvd),
    (52, DisconnectUserRcvd)]
  mCreatorIds := [("ServerLoadSend", 2), ("RemoveZoneSend", 3), ("GetZoneSend", 4),
    ("IPServerSend", 6), ("SetZoneToServerSend", 7), ("GameNewUserSend", 8),
    ("GameDeleteUserSend", 9), ("LoginOnlineSend", 51), ("RouterChangeZoneSend", 5),
    ("RouterNewUserSend", 60), ("RouterDeleteUserSend", 61)]

end Control

/-! ## The game server -/

namespace Game

def ServerLoadAnswerSend : MessageClass :=
  ⟨"ServerLoadAnswerSend", [int "mIdServer" .server, int "mIdZone" .zone,
    double "mZoneLoad" .load, int "mRemainingZones" .remainingZones]⟩

def GetServerIpSend : MessageClass := ⟨"GetServerIpSend", [int "mServerId" .server]⟩

def ServerLoadOrderRcvd : MessageClass := ⟨"ServerLoadOrderRcvd", []⟩

def SetZoneOrderRcvd : MessageClass :=
  ⟨"SetZoneOrderRcvd", [int "idZone" .zone, int "idServerDest" .destServer]⟩

def GetZoneOrderRcvd : MessageClass :=
  ⟨"GetZoneOrderRcvd", [int "idZone" .zone, int "idServerSource" .sourceServer]⟩

def SetServerIpRvcd : MessageClass :=
  ⟨"SetServerIpRvcd", [int "mServerId" .server, chars "mIPServer" .ip 16,
    chars "mPortServer" .port 5]⟩

def SetZoneToServerRcvd : MessageClass :=
  ⟨"SetZoneToServerRcvd", [int "mIdZone" .zone, int "mIdServer" .server]⟩

def AddUserRcvd : MessageClass :=
  ⟨"AddUserRcvd", [int "mIdUser" .user, int "mIdZone" .zone]⟩

def DelUserRcvd : MessageClass :=
  ⟨"DelUserRcvd", [int "mIdUser" .user, int "mIdZone" .zone]⟩

def GameServerProfile : Profile MessageClass where
  mCreators := [(2, ServerLoadOrderRcvd), (3, SetZoneOrderRcvd), (4, GetZoneOrderRcvd),
    (6, SetServerIpRvcd), (7, SetZoneToServerRcvd), (8, AddUserRcvd), (9, DelUserRcvd)]
  mCreatorIds := [("ServerLoadAnswerSend", 0), ("GetServerIpSend", 1)]

end Game

/-! ## The login server -/

namespace Login

def LoginRequestSend : MessageClass :=
  ⟨"LoginRequestSend", [int "answerCode" .answerCode, chars "routerIp" .ip 16,
    chars "routerPort" .port 5, int "clientId" .user, int "token" .token]⟩

def LoginRequestRcvd : MessageClass :=
  ⟨"LoginRequestRcvd", [chars "username" .username 32, chars "password" .password 32]⟩

def LogoutRequestSend : MessageClass := ⟨"LogoutRequestSend", [int "answerCode" .answerCode]⟩

def LogoutRequestRcvd : MessageClass :=
  ⟨"LogoutRequestRcvd", [int "clientId" .user, int "token" .token]⟩

def NewClientSend : MessageClass :=
  ⟨"NewClientSend", [int "clientId" .user, int "token" .token]⟩

def ClientDisconnectSend : MessageClass :=
  ⟨"ClientDisconnectSend", [int "clientId" .user, int "token" .token]⟩

def ControlConnectionRcvd : MessageClass := ⟨"ControlConnectionRcvd", []⟩

def LoginProfile : Profile MessageClass where
  mCreators := [(100, LoginRequestRcvd), (102, LogoutRequestRcvd), (51, ControlConnectionRcvd)]
  mCreatorIds := [("LoginRequestSend", 101), ("LogoutRequestSend", 103), ("NewClientSend", 50),
    ("ClientDisconnectSend", 52)]

end Login

/-! ## The router -/

namespace Router

def GetServerIpSend : MessageClass := ⟨"GetServerIpSend", [int "mServerId" .server]⟩

def AddUserSend : MessageClass := ⟨"AddUserSend", []⟩

def DelUserSend : MessageClass := ⟨"DelUserSend", []⟩

def AddRouterSend : MessageClass := ⟨"AddRouterSend", []⟩

def ConnectCLientSend : MessageClass :=
  ⟨"ConnectCLientSend", [int "mIdClient" .user, int "mZone" .zone]⟩

def ChangeZoneRcvd : MessageClass :=
  ⟨"ChangeZoneRcvd", [int "mIdZone" .zone, int "mIdSourceServer" .sourceServer,
    int "mIdDestServer" .destServer]⟩

def GetServerIpRvcd : MessageClass :=
  ⟨"GetServerIpRvcd", [int "mServerId" .server, chars "mIpServer" .ip 16,
    chars "mPortServer" .port 5]⟩

def SetZoneToServerRcvd : MessageClass :=
  ⟨"SetZoneToServerRcvd", [int "mIdServer" .server, int "mIdZone" .zone]⟩

def AddUserRcvd : MessageClass :=
  ⟨"AddUserRcvd", [int "mIdUser" .user, int "mToken" .token, int "mZoneId" .zone]⟩

def DelUserRcvd : MessageClass := ⟨"DelUserRcvd", [int "mUserId" .user]⟩

def SetAddUserRcvd : MessageClass :=
  ⟨"SetAddUserRcvd", [int "idUser" .user, int "idZone" .zone]⟩

def SetDelUserRcvd : MessageClass :=
  ⟨"SetDelUserRcvd", [int "mIdUser" .user, int "mIdZone" .zone]⟩

def EndZoneTransferRcvd : MessageClass := ⟨"EndZoneTransferRcvd", [int "mZoneId" .zone]⟩

def ConnectUserRcvd : MessageClass :=
  ⟨"ConnectUserRcvd", [int "mUserId" .user, int "mToken" .token]⟩

def RouterProfile : Profile MessageClass where
  mCreators := [(5, ChangeZoneRcvd), (6, GetServerIpRvcd), (7, SetZoneToServerRcvd),
    (60, AddUserRcvd), (61, DelUserRcvd), (8, SetAddUserRcvd), (9, SetDelUserRcvd),
    (155, EndZoneTransferRcvd), (200, ConnectUserRcvd)]
  mCreatorIds := [("GetServerIpSend", 1), ("AddUserSend", 8), ("DelUserSend", 9),
    ("AddRouterSend", 150), ("ConnectCLientSend", 201)]

end Router

/-! ## The client -/

namespace Client

def LoginRequestSend : MessageClass :=
  ⟨"LoginRequestSend", [chars "mUsername" .username 32, chars "mPassword" .password 32]⟩

def LoginRequestRcvd : MessageClass :=
  ⟨"LoginRequestRcvd", [int "mAnswerCode" .answerCode, chars "mRouterIp" .ip 16,
    chars "mRouterPort" .port 5, int "mClientId" .user, int "mToken" .token]⟩

def ConnectClientSend : MessageClass :=
  ⟨"ConnectClientSend", [int "mIdClient" .user, int "mToken" .token]⟩

def ConnectCLientReceived : MessageClass :=
  ⟨"ConnectCLientReceived", [int "mIdClient" .user, int "mZone" .zone]⟩

def SetZoneSend : MessageClass :=
  ⟨"SetZoneSend", [int "mUserId" .user, int "mToken" .token, int "mZone" .zone]⟩

def SetDestinationSend : MessageClass :=
  ⟨"SetDestinationSend", [int "mUserId" .user, int "mToken" .token,
    doubles "mDestination" .destination 3]⟩

def SetUserStatusRcvd : MessageClass :=
  ⟨"SetUserStatusRcvd", [int "mUserId" .user, int "mZone" .zone, doubles "mPos" .position 3,
    doubles "mDir" .direction 3, double "mSpeed" .speed]⟩

def SetZoneRcvd : MessageClass :=
  ⟨"SetZoneRcvd", [int "mUserId" .user, int "mToken" .token, int "mZone" .zone]⟩

def ClientProfile : Profile MessageClass where
  mCreators := [(101, LoginRequestRcvd), (201, ConnectCLientReceived), (500, SetUserStatusRcvd),
    (501, SetZoneRcvd)]
  mCreatorIds := [("LoginRequestSend", 100), ("ConnectClientSend", 200), ("SetZoneSend", 501),
    ("SetDestinationSend", 502)]

end Client

/-! ## The programs -/

inductive Program where
  | control | game | login | router | client
deriving DecidableEq

def Program.profile : Program → Profile MessageClass
  | .control => Control.ControlProfile
  | .game => Game.GameServerProfile
  | .login => Login.LoginProfile
  | .router => Router.RouterProfile
  | .client => Client.ClientProfile

/-- The factory of a program that has set its profile and the protocol. -/
def Program.factory (program : Program) : TransferableFactory MessageClass :=
  (TransferableFactory.setProtocol ⟨some program.profile, NO_PROTOCOL, ∅, ∅⟩
    TRANSFERABLE_LAST_VERSION).1

/-- Members at multiples of their element's size, and classes of a size that
is a multiple of eight, as `Datagram` has a pointer in it. -/
def naturalAlignment : LayoutRule where
  start finish unit := finish + (unit - finish % unit) % unit
  total finish := finish + (8 - finish % 8) % 8
  le_start finish _ := Nat.le_add_right finish _
  le_total finish := Nat.le_add_right finish _

end Catalogue
end Pxc
