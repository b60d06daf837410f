import Pxc.Control.ZoneCoverage

namespace Pxc
namespace Control

/-!
# Users that log in

The login server tells Control of a user that has logged in.  Control looks up
the zone that is stored for the user, and sends the user to the router, and to
the game server that has the zone.

The look-up takes the first field of the first row of the answer, without a
test that there is one, and uses -1 for a query that fails.  The zone then
leads into the zone table, without a test that it is a zone, and the entry is
used without a test that it was written.  All of these are undefined, so that
the handler either sends both messages or does not return.
-/

/-- A row of the table PLAYERS. -/
structure PlayerRow where
  idUser : Int
  idZone : Int
  deriving DecidableEq, Repr

/-- The rows that the query for a user yields, if it succeeds.  The table is
`none` when the database does not answer. -/
def queryZone (players : Option (List PlayerRow)) (idUsuari : Int) : Option (List PlayerRow) :=
  players.map fun rows => rows.filter fun row => row.idUser = idUsuari

/-- `Control::getZoneDB`, undefined when an empty result is indexed. -/
def getZoneDB (players : Option (List PlayerRow)) (idUsuari : Int) : Option Int :=
  match queryZone players idUsuari with
  | some res => res.head?.map PlayerRow.idZone
  | none => some (-1)

/-- `zoneServer[position]`, undefined outside the array, and when the entry
that is used has not been written. -/
def readZone (zoneServer : Fin NZONES → Option Address) (position : Int) : Option Address :=
  if 0 ≤ position then
    if inside : position.toNat < NZONES then zoneServer ⟨position.toNat, inside⟩ else none
  else none

/-- `RouterNewUserSend`. -/
structure RouterNewUser where
  idUser : Int
  token : Int
  zonaUser : Int
  deriving DecidableEq, Repr

/-- `GameNewUserSend`. -/
structure GameNewUser where
  idUser : Int
  idZone : Int
  deriving DecidableEq, Repr

/-- A message that the handler sends: to the router, or to a game server. -/
inductive NewUserMessage where
  | router (message : RouterNewUser)
  | game (server : Address) (message : GameNewUser)
  deriving DecidableEq, Repr

/-- `NewUserRcvd::exec`: the messages it sends, if it returns. -/
def NewUserRcvd.exec (players : Option (List PlayerRow)) (zoneServer : Fin NZONES → Option Address)
    (idUser token : Int) : Option (List NewUserMessage) :=
  (getZoneDB players idUser).bind fun zone =>
    (readZone zoneServer zone).map fun gameServer =>
      [.router ⟨idUser, token, zone⟩, .game gameServer ⟨idUser, zone⟩]

/-- The zone that is stored for a user, in the first row that has one. -/
def storedZone (rows : List PlayerRow) (idUser : Int) : Option Int :=
  (rows.find? fun row => row.idUser = idUser).map PlayerRow.idZone

/-- The messages are those for the stored zone: one to the router, and one to
the server that owns it. -/
def ToOwner (players : Option (List PlayerRow)) (zoneServer : Fin NZONES → Option Address)
    (idUser token : Int) (sent : List NewUserMessage) : Prop :=
  ∃ rows zone server, players = some rows ∧ storedZone rows idUser = some zone ∧
    readZone zoneServer zone = some server ∧
    sent = [.router ⟨idUser, token, zone⟩, .game server ⟨idUser, zone⟩]

/-- The handler returns, and the user goes to the server that owns the stored
zone, or nowhere. -/
def SentToOwner (players : Option (List PlayerRow)) (zoneServer : Fin NZONES → Option Address)
    (idUser token : Int) : Prop :=
  ∃ sent, NewUserRcvd.exec players zoneServer idUser token = some sent ∧
    (sent = [] ∨ ToOwner players zoneServer idUser token sent)

/-- The database answers, it stores a zone for the user, the zone is one of the
game's, and it has a server. -/
def HasOwnedZone (players : Option (List PlayerRow)) (zoneServer : Fin NZONES → Option Address)
    (idUser : Int) : Prop :=
  ∃ rows, players = some rows ∧ ∃ zone : Fin NZONES,
    storedZone rows idUser = some ((zone : Nat) : Int) ∧ zoneServer zone ≠ none

/-- After an assignment of all zones, a zone that is stored has a server. -/
theorem hasOwnedZone_of_covers {D : Type} {final : Assignment D NZONES} {zone : Fin NZONES}
    (assigned : final.AssignsZone zone) {rows : List PlayerRow} {idUser : Int}
    (stored : storedZone rows idUser = some ((zone : Nat) : Int)) :
    HasOwnedZone (some rows) final.zoneServer idUser := by
  rcases assigned with ⟨server, _, _, _, entry, _⟩
  exact ⟨rows, rfl, zone, stored, entry ▸ Option.some_ne_none server.address⟩

theorem getZoneDB_some (rows : List PlayerRow) (idUser : Int) :
    getZoneDB (some rows) idUser = storedZone rows idUser := by
  rw [getZoneDB, queryZone, storedZone]
  simp only [Option.map_some, List.head?_filter]

/-- An entry is found for a zone that has a server. -/
theorem readZone_eq_some_iff {zoneServer : Fin NZONES → Option Address} {position : Int}
    {server : Address} :
    readZone zoneServer position = some server ↔
      ∃ zone : Fin NZONES, position = (zone : Nat) ∧ zoneServer zone = some server := by
  unfold readZone
  constructor
  · intro found
    split at found
    · next nonneg =>
      split at found
      · next inside =>
        exact ⟨⟨position.toNat, inside⟩, (Int.toNat_of_nonneg nonneg).symm, found⟩
      · cases found
    · cases found
  · rintro ⟨zone, rfl, found⟩
    have inside : ((zone : Nat) : Int).toNat < NZONES := zone.isLt
    rw [if_pos (Int.natCast_nonneg _), dif_pos inside]
    exact found

/-- What the handler does when it returns. -/
theorem exec_eq_some_iff {players : Option (List PlayerRow)}
    {zoneServer : Fin NZONES → Option Address} {idUser token : Int}
    {sent : List NewUserMessage} :
    NewUserRcvd.exec players zoneServer idUser token = some sent ↔
      ToOwner players zoneServer idUser token sent := by
  unfold NewUserRcvd.exec
  constructor
  · intro returned
    rcases Option.bind_eq_some_iff.mp returned with ⟨zone, looked, mapped⟩
    rcases Option.map_eq_some_iff.mp mapped with ⟨server, found, rfl⟩
    cases players with
    | none =>
        -- the zone of a failed query is outside of the table
        have failed : zone = -1 := (Option.some.inj looked).symm
        rw [failed] at found
        cases found
    | some rows => exact ⟨rows, zone, server, rfl, getZoneDB_some rows idUser ▸ looked, found, rfl⟩
  · rintro ⟨rows, zone, server, rfl, stored, found, rfl⟩
    rw [getZoneDB_some, stored]
    exact congrArg (Option.map _) found

/-- A new user goes to the server that owns the zone, or nowhere, if and only
if the user has a zone with a server. -/
theorem sentToOwner_iff (players : Option (List PlayerRow))
    (zoneServer : Fin NZONES → Option Address) (idUser token : Int) :
    SentToOwner players zoneServer idUser token ↔ HasOwnedZone players zoneServer idUser := by
  constructor
  · rintro ⟨sent, returned, _⟩
    rcases exec_eq_some_iff.mp returned with ⟨rows, position, server, answers, stored, found, _⟩
    rcases readZone_eq_some_iff.mp found with ⟨zone, rfl, owned⟩
    exact ⟨rows, answers, zone, stored, owned ▸ Option.some_ne_none server⟩
  · rintro ⟨rows, answers, zone, stored, owned⟩
    rcases Option.ne_none_iff_exists'.mp owned with ⟨server, found⟩
    have routed : ToOwner players zoneServer idUser token
        [.router ⟨idUser, token, (zone : Nat)⟩, .game server ⟨idUser, (zone : Nat)⟩] :=
      ⟨rows, _, server, answers, stored, readZone_eq_some_iff.mpr ⟨zone, rfl, found⟩, rfl⟩
    exact ⟨_, exec_eq_some_iff.mpr routed, Or.inr routed⟩

/-- A user without a row in the table. -/
theorem newUser_without_row : ¬ SentToOwner (some []) (fun _ => some 1) 7 1 := by
  rintro ⟨sent, returned, _⟩
  cases returned

end Control
end Pxc
