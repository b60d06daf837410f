import Pxc.Router.Operations

namespace Pxc
namespace Router

open General

/-!
# What a defined call can have done

An operation of the router is a chain of loads, stores and look-ups, each of
which may be undefined.  When a call is defined, all of them were, and the
state afterwards is the one before with a few objects and pointers changed.
This module says so once for each operation.  The frames and invariants of the
following modules are read off from it.
-/

variable {router next : Router} {idServer idZone idUser token : Int} {c : Connection}
  {outputs : List Output}

/-! ## Connections -/

/-- Deleting a connection that a user or server had, if it had one. -/
theorem deleteOld_eq_some_iff {old : Option Connection} :
    router.deleteOld old = some next ↔ (∀ c, old = some c → c ∉ router.deletedConnections) ∧
      next = { router with deletedConnections := old.toList ++ router.deletedConnections } := by
  cases old with
  | none =>
      simp only [deleteOld, Option.some.injEq, reduceCtorEq, false_implies, implies_true, true_and,
        Option.toList_none, List.nil_append]
      exact eq_comm
  | some c =>
      simp only [deleteOld, deleteConnection, Option.some.injEq, forall_eq', Option.toList_some,
        List.singleton_append]
      by_cases deleted : c ∈ router.deletedConnections
      · simp only [deleted, if_true, reduceCtorEq, not_true_eq_false, false_and]
      · simp only [deleted, if_false, Option.some.injEq, not_false_eq_true, true_and]
        exact eq_comm

/-! ## Servers -/

theorem addServer_cases (done : router.addServer idServer = some next) :
    next = router ∨ router.mServers[idServer]? = none ∧ next = { router with
      servers := router.servers.alloc (Server.create idServer)
      mServers := router.mServers.insert idServer router.servers.next } := by
  unfold addServer at done
  split at done
  · exact .inl (Option.some.inj done).symm
  · next absent => exact .inr ⟨absent, (Option.some.inj done).symm⟩

theorem connectServer_cases (done : router.connectServer idServer c = some (next, outputs)) :
    next = router ∨ ∃ address server servers deletedConnections,
      router.mServers[idServer]? = some address ∧
      router.servers.load address = some server ∧
      router.servers.store address { server with mConnection := some c } = some servers ∧
      next = { router with servers, deletedConnections } := by
  unfold connectServer at done
  split at done
  · cases done
    exact .inl rfl
  · next address pointer =>
    simp only [Option.bind_eq_bind, Option.bind_eq_some_iff, Option.pure_def, Option.some.injEq,
      Prod.mk.injEq] at done
    rcases done with ⟨server, loaded, released, deleted, servers, stored, _, _, same, _⟩
    have sameReleased := (deleteOld_eq_some_iff.mp deleted).2
    subst sameReleased
    exact .inr ⟨address, server, servers, _, pointer, loaded, stored, same.symm⟩

theorem delServer_cases (done : router.delServer idServer = some (next, outputs)) :
    next = router ∨ ∃ address servers deletedConnections,
      router.mServers[idServer]? = some address ∧ router.servers.free address = some servers ∧
      next = { router with
        servers, mServers := router.mServers.erase idServer, deletedConnections } := by
  unfold delServer at done
  split at done
  · cases done
    exact .inl rfl
  · next address pointer =>
    simp only [Option.bind_eq_bind, Option.bind_eq_some_iff, Option.pure_def, Option.some.injEq,
      Prod.mk.injEq] at done
    rcases done with ⟨server, _, _, _, released, deleted, servers, freed, same, _⟩
    have sameReleased := (deleteOld_eq_some_iff.mp deleted).2
    subst sameReleased
    exact .inr ⟨address, servers, _, pointer, freed, same.symm⟩

/-! ## Zones -/

theorem addZone_cases (done : router.addZone idZone = some next) :
    next = router ∨ router.mZones[idZone]? = none ∧ next = { router with
      zones := router.zones.alloc (Zone.create idZone)
      mZones := router.mZones.insert idZone router.zones.next } := by
  unfold addZone at done
  split at done
  · exact .inl (Option.some.inj done).symm
  · next absent => exact .inr ⟨absent, (Option.some.inj done).symm⟩

theorem serverDelZone_cases {server : Address}
    (done : router.serverDelZone server idZone = some next) :
    ∃ servers, next = { router with servers } := by
  simp only [serverDelZone, Option.bind_eq_bind, Option.bind_eq_some_iff, Option.pure_def,
    Option.some.injEq] at done
  rcases done with ⟨object, _, servers, _, same⟩
  exact ⟨servers, same.symm⟩

theorem foundServerDelZone_cases (done : router.foundServerDelZone idServer idZone = some next) :
    ∃ servers, next = { router with servers } := by
  unfold foundServerDelZone at done
  split at done
  · exact serverDelZone_cases done
  · cases done
    exact ⟨router.servers, rfl⟩

theorem delZone_cases (done : router.delZone idZone = some next) :
    next = router ∨ ∃ address servers zones, router.mZones[idZone]? = some address ∧
      router.zones.free address = some zones ∧
      next = { router with servers, zones, mZones := router.mZones.erase idZone } := by
  unfold delZone at done
  split at done
  · exact .inl (Option.some.inj done).symm
  · next address pointer =>
    simp only [Option.bind_eq_bind, Option.bind_eq_some_iff, Option.pure_def,
      Option.some.injEq] at done
    rcases done with ⟨object, _, emptied, left, zones, freed, same⟩
    rcases foundServerDelZone_cases left with ⟨servers, sameEmptied⟩
    subst sameEmptied
    exact .inr ⟨address, servers, zones, pointer, freed, same.symm⟩

theorem startZoneToServerTransfer_cases {newServer : Int}
    (done : router.startZoneToServerTransfer idZone newServer = some next) :
    next = router ∨ ∃ address zone zones, router.zones.load address = some zone ∧
      router.zones.store address (zone.newServer newServer) = some zones ∧
      next = { router with zones } := by
  unfold startZoneToServerTransfer at done
  split at done
  · next address _ _ _ =>
    simp only [Option.bind_eq_bind, Option.bind_eq_some_iff, Option.pure_def,
      Option.some.injEq] at done
    rcases done with ⟨zone, loaded, zones, stored, same⟩
    exact .inr ⟨address, zone, zones, loaded, stored, same.symm⟩
  · exact .inl (Option.some.inj done).symm

theorem endZoneToServerTransfer_cases
    (done : router.endZoneToServerTransfer idZone = some next) :
    next = router ∨ ∃ address zone servers zones, router.zones.load address = some zone ∧
      router.zones.store address zone.endTransfer = some zones ∧
      next = { router with servers, zones } := by
  unfold endZoneToServerTransfer at done
  split at done
  · exact .inl (Option.some.inj done).symm
  · next address _ =>
    simp only [Option.bind_eq_bind, Option.bind_eq_some_iff] at done
    rcases done with ⟨zone, loaded, done⟩
    split at done
    · split at done
      · simp only [Option.bind_eq_some_iff, Option.pure_def, Option.some.injEq] at done
        rcases done with ⟨emptied, left, entered, _, servers, _, zones, stored, same⟩
        rcases serverDelZone_cases left with ⟨_, sameEmptied⟩
        subst sameEmptied
        exact .inr ⟨address, zone, servers, zones, loaded, stored, same.symm⟩
      · exact .inl (Option.some.inj done).symm
    · exact .inl (Option.some.inj done).symm

/-! ## Users -/

theorem addUser_cases (done : router.addUser idUser token = some next) :
    (router.mUsers[idUser]? = none ∧ next = { router with
      users := router.users.alloc (User.create idUser token)
      mUsers := router.mUsers.insert idUser router.users.next }) ∨
    ∃ address user users, router.mUsers[idUser]? = some address ∧
      router.users.load address = some user ∧
      router.users.store address (user.token token) = some users ∧
      next = { router with users } := by
  unfold addUser at done
  split at done
  · next absent => exact .inl ⟨absent, (Option.some.inj done).symm⟩
  · next address pointer =>
    simp only [Option.bind_eq_bind, Option.bind_eq_some_iff, Option.pure_def,
      Option.some.injEq] at done
    rcases done with ⟨user, loaded, users, stored, same⟩
    exact .inr ⟨address, user, users, pointer, loaded, stored, same.symm⟩

theorem userValidate_eq_some_iff {user : Address} {valid : Bool} :
    router.userValidate user token = some (next, valid) ↔
      ∃ object users, router.users.load user = some object ∧
        router.users.store user { object with mToken := token } = some users ∧
        next = { router with users } ∧ valid = decide (token ≠ 0) := by
  simp only [userValidate, User.validate, Option.bind_eq_bind, Option.bind_eq_some_iff,
    Option.pure_def, Option.some.injEq, Prod.mk.injEq]
  constructor
  · rintro ⟨object, found, users, stored, rfl, rfl⟩
    exact ⟨object, users, found, stored, rfl, rfl⟩
  · rintro ⟨object, users, found, stored, rfl, rfl⟩
    exact ⟨object, found, users, stored, rfl, rfl⟩

theorem userConnection_eq_some_iff {user : Address} :
    router.userConnection user c = some next ↔
      ∃ object users, router.users.load user = some object ∧
        (∀ old, object.mConnection = some old → old ∉ router.deletedConnections) ∧
        router.users.store user { object with mConnection := some c } = some users ∧
        next = { router with
          users
          deletedConnections := object.mConnection.toList ++ router.deletedConnections } := by
  simp only [userConnection, Option.bind_eq_bind, Option.bind_eq_some_iff, Option.pure_def,
    Option.some.injEq, deleteOld_eq_some_iff]
  constructor
  · rintro ⟨object, found, released, ⟨alive, rfl⟩, users, stored, rfl⟩
    exact ⟨object, users, found, alive, stored, rfl⟩
  · rintro ⟨object, users, found, alive, stored, rfl⟩
    exact ⟨object, found, _, ⟨alive, rfl⟩, users, stored, rfl⟩

theorem validateUser_cases {valid : Bool}
    (done : router.validateUser idUser token = some (next, valid)) :
    (router.mUsers[idUser]? = none ∧ next = router) ∨ ∃ address,
      router.mUsers[idUser]? = some address ∧
      router.userValidate address token = some (next, valid) := by
  unfold validateUser at done
  split at done
  · next absent =>
    cases done
    exact .inl ⟨absent, rfl⟩
  · next address pointer => exact .inr ⟨address, pointer, done⟩

/-- A user that is connected is validated first. -/
theorem connectUser_cases (done : router.connectUser idUser token c = some next) :
    (router.mUsers[idUser]? = none ∧ next = router) ∨ ∃ address middle valid,
      router.mUsers[idUser]? = some address ∧
      router.userValidate address token = some (middle, valid) ∧
      (next = middle ∨ middle.userConnection address c = some next) := by
  unfold connectUser at done
  split at done
  · next absent => exact .inl ⟨absent, (Option.some.inj done).symm⟩
  · next address pointer =>
    simp only [Option.bind_eq_bind, Option.bind_eq_some_iff, Prod.exists] at done
    rcases done with ⟨middle, valid, validated, done⟩
    refine .inr ⟨address, middle, valid, pointer, validated, ?_⟩
    split at done
    · exact .inr done
    · exact .inl (Option.some.inj done).symm

/-- A user that is removed leaves the table of its zone, if that is there. -/
theorem delUser_cases (done : router.delUser idUser = some (next, outputs)) :
    next = router ∨ ∃ address zones users, router.mUsers[idUser]? = some address ∧
      (zones = router.zones ∨ ∃ zoneAddress zone, router.zones.load zoneAddress = some zone ∧
        router.zones.store zoneAddress (zone.delUser idUser) = some zones) ∧
      router.users.free address = some users ∧ next = { router with zones, users } := by
  unfold delUser at done
  split at done
  · cases done
    exact .inl rfl
  · next address pointer =>
    simp only [Option.bind_eq_bind, Option.bind_eq_some_iff, Option.pure_def, Option.some.injEq,
      Prod.mk.injEq] at done
    rcases done with ⟨user, _, zones, left, _, _, users, freed, same, _⟩
    refine .inr ⟨address, zones, users, pointer, ?_, freed, same.symm⟩
    unfold foundZoneDelUser at left
    split at left
    · next zoneAddress _ =>
      simp only [Option.bind_eq_bind, Option.bind_eq_some_iff] at left
      rcases left with ⟨zone, loaded, stored⟩
      exact .inr ⟨zoneAddress, zone, loaded, stored⟩
    · exact .inl (Option.some.inj left).symm

/-- A user that is moved enters one table, then leaves another. -/
theorem setUserToZone_cases (done : router.setUserToZone idUser idZone = some next) :
    next = router ∨ ∃ address user zoneAddress entered middle oldAddress left zones users,
      router.mUsers[idUser]? = some address ∧ router.users.load address = some user ∧
      router.zones.load zoneAddress = some entered ∧
      router.zones.store zoneAddress (entered.addUser user.mId address) = some middle ∧
      middle.load oldAddress = some left ∧
      middle.store oldAddress (left.delUser idUser) = some zones ∧
      router.users.store address (user.zone idZone) = some users ∧
      next = { router with zones, users } := by
  unfold setUserToZone at done
  split at done
  · next address zoneAddress pointer _ =>
    simp only [Option.bind_eq_bind, Option.bind_eq_some_iff, Option.pure_def,
      Option.some.injEq] at done
    rcases done with ⟨user, loaded, entered, loadedZone, middle, stored, oldAddress, _, left,
      loadedOld, zones, storedOld, users, storedUser, same⟩
    exact .inr ⟨address, user, zoneAddress, entered, middle, oldAddress, left, zones, users,
      pointer, loaded, loadedZone, stored, loadedOld, storedOld, storedUser, same.symm⟩
  · exact .inl (Option.some.inj done).symm

end Router
end Pxc
