import Pxc.Router.ServiceOperations

namespace Pxc
namespace Router

open General

/-!
# What the operations do to users

An operation on users is a change of which user, and which zones, are found
under an id.  The operations that attach or delete a connection record the
connection they delete.

What happens to a user that is found needs only that no two ids lead to one
living object.  The map of users has this in every run.  That it owns its
objects is more, and one operation breaks it: removing a user frees the object
and leaves the pointer.
-/

variable {router next : Router} {idUser idZone : Int} {token : Int} {user : User} {c : Connection}

/-- The user that the router finds under an id. -/
def findUser (router : Router) (idUser : Int) : Option User :=
  find router.mUsers router.users idUser

/-- The map of users owns its objects. -/
def OwnsUsers (router : Router) : Prop :=
  Owns User.mId router.mUsers router.users

/-- The pointers to users lead to users of those ids, or to freed objects. -/
def LabelsUsers (router : Router) : Prop :=
  Labels User.mId router.mUsers router.users

theorem addUser_new (owns : OwnsUsers router) (absent : router.mUsers[idUser]? = none)
    (token : Int) :
    ∃ users, router.addUser idUser token = some { router with
        users, mUsers := router.mUsers.insert idUser router.users.next } ∧
      Owns User.mId (router.mUsers.insert idUser router.users.next) users ∧
      ∀ other, find (router.mUsers.insert idUser router.users.next) users other =
        if idUser = other then some (User.create idUser token) else router.findUser other := by
  refine ⟨router.users.alloc (User.create idUser token), ?_, owns.alloc rfl,
    owns.find_alloc (User.create idUser token)⟩
  unfold addUser
  rw [absent]

section Found

variable (labels : LabelsUsers router) (found : router.findUser idUser = some user)

include labels found

theorem exists_storeUser (user' : User) :
    ∃ address users, router.mUsers[idUser]? = some address ∧
      router.users.load address = some user ∧ router.users.store address user' = some users ∧
      ∀ other, find router.mUsers users other =
        if idUser = other then some user' else router.findUser other := by
  rcases find_eq_some_iff.mp found with ⟨address, pointer, loaded⟩
  rcases Heap.exists_store loaded user' with ⟨users, stored⟩
  exact ⟨address, users, pointer, loaded, stored, labels.find_store pointer stored⟩

theorem addUser_found (token : Int) :
    ∃ users, router.addUser idUser token = some { router with users } ∧
      ∀ other, find router.mUsers users other =
        if idUser = other then some (user.token token) else router.findUser other := by
  rcases exists_storeUser labels found (user.token token) with
    ⟨address, users, pointer, loaded, stored, finds⟩
  refine ⟨users, ?_, finds⟩
  unfold addUser
  simp only [pointer, loaded, stored, Option.bind_eq_bind, Option.bind_some, Option.pure_def]

theorem userValidate_found (token : Int) :
    ∃ address users, router.mUsers[idUser]? = some address ∧
      router.userValidate address token = some ({ router with users }, decide (token ≠ 0)) ∧
      ∀ other, find router.mUsers users other =
        if idUser = other then some (user.token token) else router.findUser other := by
  rcases exists_storeUser labels found (user.token token) with
    ⟨address, users, pointer, loaded, stored, finds⟩
  refine ⟨address, users, pointer, ?_, finds⟩
  have validated : router.users.store address (user.validate token).1 = some users := stored
  simp only [userValidate, loaded, validated, Option.bind_eq_bind, Option.bind_some,
    Option.pure_def]
  rfl

/-- Token 0 is refused, and stored all the same. -/
theorem connectUser_refused (c : Connection) :
    ∃ users, router.connectUser idUser 0 c = some { router with users } ∧
      ∀ other, find router.mUsers users other =
        if idUser = other then some (user.token 0) else router.findUser other := by
  rcases userValidate_found labels found 0 with ⟨address, users, pointer, validated, finds⟩
  refine ⟨users, ?_, finds⟩
  unfold connectUser
  simp only [pointer, validated, ne_eq, not_true_eq_false, decide_false, Bool.false_eq_true,
    if_false, Option.bind_eq_bind, Option.bind_some]

/-- Every other token is accepted: the connection is attached, and the one it
replaces is deleted. -/
theorem connectUser_accepted (nonzero : token ≠ 0) (c : Connection)
    (alive : ∀ old, user.mConnection = some old → old ∉ router.deletedConnections) :
    ∃ users, router.connectUser idUser token c = some { router with
        users, deletedConnections := user.mConnection.toList ++ router.deletedConnections } ∧
      ∀ other, find router.mUsers users other =
        if idUser = other then some { user.token token with mConnection := some c }
        else router.findUser other := by
  rcases exists_storeUser labels found (user.token token) with
    ⟨address, validatedUsers, pointer, loaded, stored, _⟩
  rcases Heap.store_eq_some_iff.mp stored with ⟨_, _, loads⟩
  have loadedAgain : validatedUsers.load address = some (user.token token) :=
    (loads address).trans (if_pos rfl)
  rcases Heap.exists_store loadedAgain { user.token token with mConnection := some c } with
    ⟨users, storedAgain⟩
  rcases Heap.store_eq_some_iff.mp storedAgain with ⟨_, _, loadsAgain⟩
  have validated : router.userValidate address token =
      some ({ router with users := validatedUsers }, decide (token ≠ 0)) := by
    have validated : router.users.store address (user.validate token).1 = some validatedUsers :=
      stored
    simp only [userValidate, loaded, validated, Option.bind_eq_bind, Option.bind_some,
      Option.pure_def]
    rfl
  have released : deleteOld { router with users := validatedUsers } user.mConnection =
      some { router with
        users := validatedUsers
        deletedConnections := user.mConnection.toList ++ router.deletedConnections } :=
    deleteOld_eq_some_iff.mpr ⟨alive, rfl⟩
  have sameOld : (user.token token).mConnection = user.mConnection := rfl
  refine ⟨users, ?_, ?_⟩
  · unfold connectUser
    simp only [pointer, validated, ne_eq, nonzero, not_false_eq_true, decide_true, if_true,
      userConnection, loadedAgain, sameOld, released, storedAgain, Option.bind_eq_bind,
      Option.bind_some, Option.pure_def]
  · apply labels.find_changed pointer loaded
    intro other
    rw [loadsAgain, loads]
    split <;> rfl

end Found

theorem addUser_known (owns : OwnsUsers router) (found : router.findUser idUser = some user)
    (token : Int) :
    ∃ users, router.addUser idUser token = some { router with users } ∧
      Owns User.mId router.mUsers users ∧
      ∀ other, find router.mUsers users other =
        if idUser = other then some (user.token token) else router.findUser other := by
  rcases addUser_found owns.labels found token with ⟨users, added, finds⟩
  have carries : user.mId = idUser := owns.key_of_find found
  exact ⟨users, added, owns.of_finds finds carries, finds⟩

theorem validateUser_known (owns : OwnsUsers router) (found : router.findUser idUser = some user)
    (token : Int) :
    ∃ address users, router.mUsers[idUser]? = some address ∧
      router.userValidate address token = some ({ router with users }, decide (token ≠ 0)) ∧
      Owns User.mId router.mUsers users ∧
      ∀ other, find router.mUsers users other =
        if idUser = other then some (user.token token) else router.findUser other := by
  rcases userValidate_found owns.labels found token with
    ⟨address, users, pointer, validated, finds⟩
  have carries : user.mId = idUser := owns.key_of_find found
  exact ⟨address, users, pointer, validated, owns.of_finds finds carries, finds⟩

theorem validateUser_unknown (absent : router.mUsers[idUser]? = none) :
    router.validateUser idUser token = some (router, false) := by
  unfold validateUser
  rw [absent]

theorem connectUser_unknown (absent : router.mUsers[idUser]? = none) :
    router.connectUser idUser token c = some router := by
  unfold connectUser
  rw [absent]

theorem connectUser_zero (owns : OwnsUsers router) (found : router.findUser idUser = some user)
    (c : Connection) :
    ∃ users, router.connectUser idUser 0 c = some { router with users } ∧
      Owns User.mId router.mUsers users ∧
      ∀ other, find router.mUsers users other =
        if idUser = other then some (user.token 0) else router.findUser other := by
  rcases connectUser_refused owns.labels found c with ⟨users, refused, finds⟩
  have carries : user.mId = idUser := owns.key_of_find found
  exact ⟨users, refused, owns.of_finds finds carries, finds⟩

theorem connectUser_known (owns : OwnsUsers router) (found : router.findUser idUser = some user)
    (nonzero : token ≠ 0) (c : Connection)
    (alive : ∀ old, user.mConnection = some old → old ∉ router.deletedConnections) :
    ∃ users, router.connectUser idUser token c = some { router with
        users, deletedConnections := user.mConnection.toList ++ router.deletedConnections } ∧
      Owns User.mId router.mUsers users ∧
      ∀ other, find router.mUsers users other =
        if idUser = other then some { user.token token with mConnection := some c }
        else router.findUser other := by
  rcases connectUser_accepted owns.labels found nonzero c alive with ⟨users, accepted, finds⟩
  have carries : user.mId = idUser := owns.key_of_find found
  exact ⟨users, accepted, owns.of_finds finds carries, finds⟩

/-! ## Moving a user -/

theorem setUserToZone_unknown
    (unknown : router.mUsers[idUser]? = none ∨ router.mZones[idZone]? = none) :
    router.setUserToZone idUser idZone = some router := by
  unfold setUserToZone
  rcases unknown with absent | absent
  · rw [absent]
  · rw [absent]
    cases router.mUsers[idUser]? <;> rfl

/-- A user whose old zone is not found cannot be moved. -/
theorem setUserToZone_lost (owned : Owned router) (found : router.findUser idUser = some user)
    {pointer : Address} (pointed : router.mZones[idZone]? = some pointer)
    (lost : router.mZones[user.mZone]? = none) : router.setUserToZone idUser idZone = none := by
  rcases find_eq_some_iff.mp found with ⟨address, pointerUser, loaded⟩
  rcases owned.zone_of_pointer pointed with ⟨zone, loadedZone, _, _⟩
  rcases Heap.exists_store loadedZone (zone.addUser user.mId address) with ⟨zones, stored⟩
  unfold setUserToZone
  simp only [pointerUser, pointed, loaded, loadedZone, stored, lost, Option.bind_eq_bind,
    Option.bind_some, Option.bind_none]

/-- The user enters the new zone, then leaves the old one, which may be the
same. -/
theorem setUserToZone_found (owned : Owned router) (labels : LabelsUsers router)
    (found : router.findUser idUser = some user) {zone oldZone : Zone}
    (foundZone : router.findZone idZone = some zone)
    (foundOld : router.findZone user.mZone = some oldZone) :
    ∃ address zones users, router.mUsers[idUser]? = some address ∧
      router.setUserToZone idUser idZone = some { router with zones, users } ∧
      Owns Zone.mId router.mZones zones ∧
      (∀ other, find router.mZones zones other =
        if user.mZone = other then
          some ((if idZone = user.mZone then zone.addUser idUser address else oldZone).delUser
            idUser)
        else if idZone = other then some (zone.addUser idUser address)
        else router.findZone other) ∧
      ∀ other, find router.mUsers users other =
        if idUser = other then some (user.zone idZone) else router.findUser other := by
  rcases exists_storeUser labels found (user.zone idZone) with
    ⟨address, users, pointer, loaded, storedUser, finds⟩
  have idOf : user.mId = idUser := labels.key_of_find found
  rcases find_eq_some_iff.mp foundZone with ⟨zoneAddress, zonePointer, loadedZone⟩
  rcases find_eq_some_iff.mp foundOld with ⟨oldAddress, oldPointer, _⟩
  rcases Heap.exists_store loadedZone (zone.addUser idUser address) with ⟨middle, entered⟩
  have carries : zone.mId = idZone := owned.zones.key_of_find foundZone
  have ownsMiddle := owned.zones.store zonePointer entered carries
  have findsMiddle := owned.zones.find_store zonePointer entered
  have loadedOld : middle.load oldAddress =
      some (if idZone = user.mZone then zone.addUser idUser address else oldZone) := by
    rw [← find_of_pointer oldPointer, findsMiddle]
    by_cases same : idZone = user.mZone
    · rw [if_pos same, if_pos same]
    · rw [if_neg same, if_neg same]
      exact foundOld
  rcases Heap.exists_store loadedOld ((if idZone = user.mZone then zone.addUser idUser address
    else oldZone).delUser idUser) with ⟨zones, left⟩
  have carriesOld : ((if idZone = user.mZone then zone.addUser idUser address
      else oldZone).delUser idUser).mId = user.mZone := by
    split
    · next same => exact carries.trans same
    · have carriesLeft : oldZone.mId = user.mZone := owned.zones.key_of_find foundOld
      exact carriesLeft
  refine ⟨address, zones, users, pointer, ?_, ownsMiddle.store oldPointer left carriesOld, ?_,
    finds⟩
  · unfold setUserToZone
    simp only [pointer, zonePointer, loaded, loadedZone, idOf, entered, oldPointer, loadedOld, left,
      storedUser, Option.bind_eq_bind, Option.bind_some, Option.pure_def]
  · intro other
    rw [ownsMiddle.find_store oldPointer left, findsMiddle]
    rfl

theorem setUserToZone_known (owned : Owned router) (owns : OwnsUsers router)
    (found : router.findUser idUser = some user) {zone oldZone : Zone}
    (foundZone : router.findZone idZone = some zone)
    (foundOld : router.findZone user.mZone = some oldZone) :
    ∃ address zones users, router.mUsers[idUser]? = some address ∧
      router.setUserToZone idUser idZone = some { router with zones, users } ∧
      Owns Zone.mId router.mZones zones ∧ Owns User.mId router.mUsers users ∧
      (∀ other, find router.mZones zones other =
        if user.mZone = other then
          some ((if idZone = user.mZone then zone.addUser idUser address else oldZone).delUser
            idUser)
        else if idZone = other then some (zone.addUser idUser address)
        else router.findZone other) ∧
      ∀ other, find router.mUsers users other =
        if idUser = other then some (user.zone idZone) else router.findUser other := by
  rcases setUserToZone_found owned owns.labels found foundZone foundOld with
    ⟨address, zones, users, pointer, moved, ownsZones, findsZone, finds⟩
  have carries : user.mId = idUser := owns.key_of_find found
  exact ⟨address, zones, users, pointer, moved, ownsZones, owns.of_finds finds carries, findsZone,
    finds⟩

end Router
end Pxc
