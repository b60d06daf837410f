import Pxc.Control.NewUsers

namespace Pxc
namespace Control

/-!
# What Control tells the router

The login server tells Control of every user that enters or leaves.  Control
makes an object from the type id and the 32-bit fields of a message and
executes it, and tells the router about the same user.  A message that has
more fields than the object keeps the first ones.

On the same connection Control tells the router of every zone that a
balancing moves.
-/

/-- `RouterChangeZoneSend`. -/
structure RouterChangeZone where
  idZone : Int
  idSourceServer : Int
  idDestServer : Int
  deriving DecidableEq, Repr

/-- `RouterDeleteUserSend`. -/
structure RouterDeleteUser where
  idUser : Int
  deriving DecidableEq, Repr

/-- The messages that Control sends to the router. -/
inductive RouterMessage where
  | changeZone (message : RouterChangeZone)
  | newUser (message : RouterNewUser)
  | deleteUser (message : RouterDeleteUser)
  deriving DecidableEq, Repr

/-- The type id of a message to the router and its fields. -/
def RouterMessage.frame : RouterMessage → Int × List Int
  | .changeZone message => (5, [message.idZone, message.idSourceServer, message.idDestServer])
  | .newUser message => (60, [message.idUser, message.token, message.zonaUser])
  | .deleteUser message => (61, [message.idUser])

/-- The messages that Control receives from the login server. -/
inductive UserNotice where
  | newUserRcvd (idUser token : Int)
  | disconnectUserRcvd (idUser : Int)
  deriving DecidableEq, Repr

/-- The creators of `ControlProfile`, for these messages. -/
def UserNotice.create : Int → List Int → Option UserNotice
  | 50, idUser :: token :: _ => some (.newUserRcvd idUser token)
  | 52, idUser :: _ => some (.disconnectUserRcvd idUser)
  | _, _ => none

/-- `DisconnectUserRcvd::exec`. -/
def DisconnectUserRcvd.exec (idUser : Int) : List RouterMessage :=
  [.deleteUser ⟨idUser⟩]

/-- The message of a new user that goes to the router. -/
def NewUserMessage.toRouter : NewUserMessage → Option RouterMessage
  | .router message => some (.newUser message)
  | .game _ _ => none

/-- `exec` of a message about a user: what it sends to the router. -/
def UserNotice.exec (players : Option (List PlayerRow))
    (zoneServer : Fin NZONES → Option Address) : UserNotice → Option (List RouterMessage)
  | .newUserRcvd idUser token =>
      (NewUserRcvd.exec players zoneServer idUser token).map fun sent =>
        sent.filterMap NewUserMessage.toRouter
  | .disconnectUserRcvd idUser => some (DisconnectUserRcvd.exec idUser)

/-- What `Control::zoneChange` sends to the router. -/
def Order.toRouter {D : Type} (order : Order D) : RouterMessage :=
  .changeZone ⟨order.changedZonePosition, order.sourceServer.id, order.destinationServer.id⟩

/-- A new user is passed on with the zone that is stored for it. -/
theorem newUserRcvd_exec_eq_some_iff {players : Option (List PlayerRow)}
    {zoneServer : Fin NZONES → Option Address} {idUser token : Int} {sent : List RouterMessage} :
    UserNotice.exec players zoneServer (.newUserRcvd idUser token) = some sent ↔
      HasOwnedZone players zoneServer idUser ∧
        ∃ rows zone, players = some rows ∧ storedZone rows idUser = some zone ∧
          sent = [.newUser ⟨idUser, token, zone⟩] := by
  simp only [UserNotice.exec, Option.map_eq_some_iff, exec_eq_some_iff]
  constructor
  · rintro ⟨_, ⟨rows, position, server, answers, stored, found, rfl⟩, rfl⟩
    rcases readZone_eq_some_iff.mp found with ⟨zone, rfl, owned⟩
    exact ⟨⟨rows, answers, zone, stored, owned ▸ Option.some_ne_none server⟩, rows, _, answers,
      stored, rfl⟩
  · rintro ⟨⟨rows, answers, zone, stored, owned⟩, rows', zone', answers', stored', rfl⟩
    have sameRows : rows = rows' := Option.some.inj (answers.symm.trans answers')
    subst sameRows
    have sameZone : zone' = ((zone : Nat) : Int) := Option.mem_unique stored' stored
    subst sameZone
    rcases Option.ne_none_iff_exists'.mp owned with ⟨server, found⟩
    exact ⟨_, ⟨rows, _, server, answers, stored, readZone_eq_some_iff.mpr ⟨zone, rfl, found⟩, rfl⟩,
      rfl⟩

end Control
end Pxc
