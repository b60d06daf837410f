import Pxc.Router.UserRecords
import Pxc.Router.ZoneService

namespace Pxc
namespace Router

open General

/-!
# What the tables of servers and zones hold

A server's table holds pointers to zones, and a zone's table pointers to
users.  Both are taken from the router's own maps, and each stands under the
id that it has there.

Unlike the invariant that keeps the objects alive, this holds in every run.
A removed user leaves a pointer to a freed object in the map of users, and
whatever table still has the user holds that same pointer.
-/

variable {router next : Router}

/-- Every pointer in a table is the one that the router's map has. -/
structure Linked (router : Router) : Prop where
  servers : ∀ idServer server, router.findServer idServer = some server →
    Borrows server.mZones router.mZones
  zones : ∀ idZone zone, router.findZone idZone = some zone → Borrows zone.mUsers router.mUsers

/-- The pointers to users were handed out before and stand under the ids of
their objects, and the tables of all zones borrow them. -/
structure Borrowing (router : Router) : Prop where
  allocated : ∀ (idUser : Int) (address : Address), router.mUsers[idUser]? = some address →
    address < router.users.next
  carries : ∀ (idUser : Int) (address : Address) (user : User),
    router.mUsers[idUser]? = some address → router.users.load address = some user →
      user.mId = idUser
  tables : ∀ address zone, router.zones.load address = some zone →
    Borrows zone.mUsers router.mUsers

theorem Borrowing.empty : Borrowing Router.empty where
  allocated := by
    intro idUser address entry
    cases entry
  carries := by
    intro idUser address user entry
    cases entry
  tables := by
    intro address zone loaded
    cases loaded

/-- A user's pointer leads to the user of that id, or to a freed object. -/
theorem Borrowing.labels (borrowing : Borrowing router) :
    Labels User.mId router.mUsers router.users :=
  ⟨borrowing.allocated, borrowing.carries⟩

/-- Every zone that is there afterwards has an empty table, or was there
before with at least the same entries. -/
def ShrinksTables (before after : Heap Zone) : Prop :=
  ∀ address zone, after.load address = some zone → zone.mUsers = ∅ ∨
    ∃ previous, before.load address = some previous ∧ Borrows zone.mUsers previous.mUsers

namespace ShrinksTables

variable {before middle after : Heap Zone} {address : Address} {zone previous : Zone}

theorem refl (zones : Heap Zone) : ShrinksTables zones zones :=
  fun _ zone loaded => .inr ⟨zone, loaded, fun _ _ entry => entry⟩

theorem store (loaded : before.load address = some previous)
    (stored : before.store address zone = some after)
    (shrinks : Borrows zone.mUsers previous.mUsers) : ShrinksTables before after := by
  rcases Heap.store_eq_some_iff.mp stored with ⟨_, _, loads⟩
  intro other found loaded'
  rw [loads] at loaded'
  by_cases same : address = other
  · rw [if_pos same, Option.some.injEq] at loaded'
    subst loaded'
    exact .inr ⟨previous, same ▸ loaded, shrinks⟩
  · rw [if_neg same] at loaded'
    exact ShrinksTables.refl before other found loaded'

theorem alloc (zones : Heap Zone) (id : Int) :
    ShrinksTables zones (zones.alloc (Zone.create id)) := by
  intro other found loaded
  rw [Heap.load_alloc] at loaded
  split at loaded
  · cases loaded
    exact .inl rfl
  · exact ShrinksTables.refl zones other found loaded

theorem free (freed : before.free address = some after) : ShrinksTables before after := by
  rcases Heap.free_eq_some_iff.mp freed with ⟨_, _, loads⟩
  intro other found loaded
  rw [loads] at loaded
  split at loaded
  · cases loaded
  · exact ShrinksTables.refl before other found loaded

end ShrinksTables

/-- No user is created, and those that are left keep their ids. -/
structure KeepsIds (before after : Heap User) : Prop where
  next_address : after.next = before.next
  ids : ∀ address user, after.load address = some user →
    ∃ previous, before.load address = some previous ∧ user.mId = previous.mId

namespace KeepsIds

variable {before middle after : Heap User} {address : Address} {user previous : User}

theorem refl (users : Heap User) : KeepsIds users users :=
  ⟨rfl, fun _ user loaded => ⟨user, loaded, rfl⟩⟩

theorem trans (first : KeepsIds before middle) (second : KeepsIds middle after) :
    KeepsIds before after where
  next_address := second.next_address.trans first.next_address
  ids := by
    intro address user loaded
    rcases second.ids address user loaded with ⟨between, loadedBetween, same⟩
    rcases first.ids address between loadedBetween with ⟨previous, loadedBefore, same'⟩
    exact ⟨previous, loadedBefore, same.trans same'⟩

theorem store (loaded : before.load address = some previous)
    (stored : before.store address user = some after) (same : user.mId = previous.mId) :
    KeepsIds before after := by
  rcases Heap.store_eq_some_iff.mp stored with ⟨_, sameNext, loads⟩
  refine ⟨sameNext, ?_⟩
  intro other found loaded'
  rw [loads] at loaded'
  by_cases equal : address = other
  · rw [if_pos equal, Option.some.injEq] at loaded'
    subst loaded'
    exact ⟨previous, equal ▸ loaded, same⟩
  · rw [if_neg equal] at loaded'
    exact ⟨found, loaded', rfl⟩

theorem free (freed : before.free address = some after) : KeepsIds before after := by
  rcases Heap.free_eq_some_iff.mp freed with ⟨_, sameNext, loads⟩
  refine ⟨sameNext, ?_⟩
  intro other found loaded
  rw [loads] at loaded
  split at loaded
  · cases loaded
  · exact ⟨found, loaded, rfl⟩

end KeepsIds

/-- No pointer to a user appears anywhere. -/
structure Retains (router next : Router) : Prop where
  pointers : next.mUsers = router.mUsers
  users : KeepsIds router.users next.users
  zones : ShrinksTables router.zones next.zones

theorem Retains.refl (router : Router) : Retains router router :=
  ⟨rfl, KeepsIds.refl router.users, ShrinksTables.refl router.zones⟩

theorem SameUsers.retains (same : SameUsers router next)
    (zones : ShrinksTables router.zones next.zones) : Retains router next :=
  ⟨same.pointers, same.users ▸ KeepsIds.refl router.users, zones⟩

namespace Borrowing

theorem of_retains (borrowing : Borrowing router) (retains : Retains router next) :
    Borrowing next where
  allocated := by
    intro idUser address entry
    rw [retains.pointers] at entry
    rw [retains.users.next_address]
    exact borrowing.allocated idUser address entry
  carries := by
    intro idUser address user entry loaded
    rw [retains.pointers] at entry
    rcases retains.users.ids address user loaded with ⟨previous, loadedBefore, same⟩
    exact same.trans (borrowing.carries idUser address previous entry loadedBefore)
  tables := by
    intro address zone loaded
    rw [retains.pointers]
    rcases retains.zones address zone loaded with empty | ⟨previous, loadedBefore, shrinks⟩
    · exact empty ▸ Borrows.empty router.mUsers
    · intro idUser pointer entry
      exact borrowing.tables address previous loadedBefore idUser pointer
        (shrinks idUser pointer entry)

end Borrowing

/-! ## The operations one by one -/

variable {idServer idZone idUser token : Int} {c : Connection} {outputs : List Output}

theorem addServer_retains (done : router.addServer idServer = some next) : Retains router next := by
  apply (addServer_sameUsers done).retains
  rcases addServer_cases done with same | ⟨_, same⟩
  · exact same ▸ ShrinksTables.refl router.zones
  · exact same ▸ ShrinksTables.refl router.zones

theorem connectServer_retains (done : router.connectServer idServer c = some (next, outputs)) :
    Retains router next := by
  apply (connectServer_sameUsers done).retains
  rcases connectServer_cases done with same | ⟨_, _, _, _, _, _, _, same⟩
  · exact same ▸ ShrinksTables.refl router.zones
  · exact same ▸ ShrinksTables.refl router.zones

theorem delServer_retains (done : router.delServer idServer = some (next, outputs)) :
    Retains router next := by
  apply (delServer_sameUsers done).retains
  rcases delServer_cases done with same | ⟨_, _, _, _, _, same⟩
  · exact same ▸ ShrinksTables.refl router.zones
  · exact same ▸ ShrinksTables.refl router.zones

theorem addZone_retains (done : router.addZone idZone = some next) : Retains router next := by
  apply (addZone_sameUsers done).retains
  rcases addZone_cases done with same | ⟨_, same⟩
  · exact same ▸ ShrinksTables.refl router.zones
  · exact same ▸ ShrinksTables.alloc router.zones idZone

theorem delZone_retains (done : router.delZone idZone = some next) : Retains router next := by
  apply (delZone_sameUsers done).retains
  rcases delZone_cases done with same | ⟨_, _, zones, _, freed, same⟩
  · exact same ▸ ShrinksTables.refl router.zones
  · exact same ▸ ShrinksTables.free freed

theorem startZoneToServerTransfer_retains {newServer : Int}
    (done : router.startZoneToServerTransfer idZone newServer = some next) :
    Retains router next := by
  apply (startZoneToServerTransfer_sameUsers done).retains
  rcases startZoneToServerTransfer_cases done with same | ⟨_, _, zones, loaded, stored, same⟩
  · exact same ▸ ShrinksTables.refl router.zones
  · exact same ▸ ShrinksTables.store loaded stored fun _ _ entry => entry

theorem Zone.mUsers_endTransfer (zone : Zone) : zone.endTransfer.mUsers = zone.mUsers := by
  unfold Zone.endTransfer
  split <;> rfl

theorem endZoneToServerTransfer_retains
    (done : router.endZoneToServerTransfer idZone = some next) : Retains router next := by
  apply (endZoneToServerTransfer_sameUsers done).retains
  rcases endZoneToServerTransfer_cases done with same | ⟨_, zone, _, zones, loaded, stored, same⟩
  · exact same ▸ ShrinksTables.refl router.zones
  · subst same
    apply ShrinksTables.store loaded stored
    rw [Zone.mUsers_endTransfer]
    exact fun _ _ entry => entry

theorem delUser_retains (done : router.delUser idUser = some (next, outputs)) :
    Retains router next := by
  rcases delUser_cases done with same | ⟨_, zones, users, _, left, freed, same⟩
  · exact same ▸ Retains.refl router
  · subst same
    refine ⟨rfl, KeepsIds.free freed, ?_⟩
    rcases left with sameZones | ⟨_, _, loaded, stored⟩
    · exact sameZones ▸ ShrinksTables.refl router.zones
    · apply ShrinksTables.store loaded stored
      exact Borrows.erase (fun _ _ entry => entry) idUser

theorem userValidate_retains {user : Address} {valid : Bool}
    (done : router.userValidate user token = some (next, valid)) : Retains router next := by
  rcases userValidate_eq_some_iff.mp done with ⟨object, users, loaded, stored, same, _⟩
  exact same ▸ ⟨rfl, KeepsIds.store loaded stored rfl, ShrinksTables.refl router.zones⟩

theorem validateUser_retains {valid : Bool}
    (done : router.validateUser idUser token = some (next, valid)) : Retains router next := by
  rcases validateUser_cases done with ⟨_, same⟩ | ⟨_, _, validated⟩
  · exact same ▸ Retains.refl router
  · exact userValidate_retains validated

theorem connectUser_retains (done : router.connectUser idUser token c = some next) :
    Retains router next := by
  rcases connectUser_cases done with ⟨_, same⟩ | ⟨_, _, _, _, validated, done⟩
  · exact same ▸ Retains.refl router
  · have first := userValidate_retains validated
    rcases done with same | connected
    · exact same ▸ first
    · rcases userConnection_eq_some_iff.mp connected with ⟨_, users, loaded, _, stored, same⟩
      subst same
      exact ⟨first.pointers, first.users.trans (KeepsIds.store loaded stored rfl), first.zones⟩

namespace Borrowing

/-- A user that is enrolled gets a pointer of its own; no table has it. -/
theorem addUser (borrowing : Borrowing router) (done : router.addUser idUser token = some next) :
    Borrowing next := by
  rcases addUser_cases done with ⟨absent, same⟩ | ⟨_, _, _, _, loaded, stored, same⟩
  · subst same
    refine ⟨?_, ?_, ?_⟩
    · intro other address entry
      rw [Std.ExtTreeMap.getElem?_insert] at entry
      rw [Heap.next_alloc]
      split at entry
      · cases entry
        exact Nat.lt_succ_self router.users.next
      · exact Nat.lt_succ_of_lt (borrowing.allocated other address entry)
    · intro other address user entry loaded
      rw [Std.ExtTreeMap.getElem?_insert] at entry
      rw [Heap.load_alloc] at loaded
      split at entry
      · next same =>
        cases entry
        rw [if_pos rfl, Option.some.injEq] at loaded
        rw [Std.compare_eq_iff_eq] at same
        exact loaded ▸ same
      · rw [if_neg (Nat.ne_of_gt (borrowing.allocated other address entry))] at loaded
        exact borrowing.carries other address user entry loaded
    · intro address zone loaded
      exact (borrowing.tables address zone loaded).owner_insert absent router.users.next
  · subst same
    exact borrowing.of_retains
      ⟨rfl, KeepsIds.store loaded stored rfl, ShrinksTables.refl router.zones⟩

/-- A user that is moved enters a table with the pointer the router has. -/
theorem setUserToZone (borrowing : Borrowing router)
    (done : router.setUserToZone idUser idZone = some next) : Borrowing next := by
  rcases setUserToZone_cases done with same | ⟨address, user, zoneAddress, entered, middle, _, _,
    zones, users, pointer, loaded, loadedZone, stored, loadedOld, storedOld, storedUser, same⟩
  · exact same ▸ borrowing
  · subst same
    have entry : router.mUsers[user.mId]? = some address := by
      rw [borrowing.carries idUser address user pointer loaded]
      exact pointer
    have middleBorrowing : Borrowing { router with zones := middle } := by
      refine ⟨borrowing.allocated, borrowing.carries, ?_⟩
      rcases Heap.store_eq_some_iff.mp stored with ⟨_, _, loads⟩
      intro other zone loadedMiddle
      change middle.load other = some zone at loadedMiddle
      rw [loads] at loadedMiddle
      split at loadedMiddle
      · cases loadedMiddle
        exact (borrowing.tables zoneAddress entered loadedZone).insertIfNew entry
      · exact borrowing.tables other zone loadedMiddle
    apply middleBorrowing.of_retains
    refine ⟨rfl, KeepsIds.store loaded storedUser rfl, ShrinksTables.store loadedOld storedOld ?_⟩
    exact Borrows.erase (fun _ _ entry => entry) idUser

/-- Every operation of the router keeps the tables in order. -/
theorem step (borrowing : Borrowing router) {event : Event}
    (stepped : Router.step router event = some next) : Borrowing next := by
  have sent : ∀ {outputs : Option (List Output)},
      (outputs.map fun _ => router) = some next → Borrowing next := by
    intro outputs done
    rcases Option.map_eq_some_iff.mp done with ⟨_, _, same⟩
    exact same ▸ borrowing
  cases event with
  | addServer => exact borrowing.of_retains (addServer_retains stepped)
  | connectServer =>
      rcases Option.map_eq_some_iff.mp stepped with ⟨⟨_, _⟩, done, same⟩
      exact same ▸ borrowing.of_retains (connectServer_retains done)
  | delServer =>
      rcases Option.map_eq_some_iff.mp stepped with ⟨⟨_, _⟩, done, same⟩
      exact same ▸ borrowing.of_retains (delServer_retains done)
  | addZone => exact borrowing.of_retains (addZone_retains stepped)
  | delZone => exact borrowing.of_retains (delZone_retains stepped)
  | startZoneToServerTransfer =>
      exact borrowing.of_retains (startZoneToServerTransfer_retains stepped)
  | endZoneToServerTransfer => exact borrowing.of_retains (endZoneToServerTransfer_retains stepped)
  | addUser => exact borrowing.addUser stepped
  | delUser =>
      rcases Option.map_eq_some_iff.mp stepped with ⟨⟨_, _⟩, done, same⟩
      exact same ▸ borrowing.of_retains (delUser_retains done)
  | validateUser =>
      rcases Option.map_eq_some_iff.mp stepped with ⟨⟨_, _⟩, done, same⟩
      exact same ▸ borrowing.of_retains (validateUser_retains done)
  | connectUser => exact borrowing.of_retains (connectUser_retains stepped)
  | setUserToZone => exact borrowing.setUserToZone stepped
  | sendToServer => exact sent stepped
  | sendToServerUsers => exact sent stepped
  | sendToZone => exact sent stepped
  | sendToUser => exact sent stepped

end Borrowing

/-- Whatever the router was told to do, its tables hold the pointers it has. -/
theorem linked_of_run {events : List Event}
    (reached : run Router.step Router.empty events = some router) : Linked router := by
  have borrowing : Borrowing router :=
    run_invariant_of_step (fun _ => True) (fun _ router => Borrowing router) (fun _ _ _ => trivial)
      Borrowing.empty (fun _ _ _ _ _ borrowing stepped => borrowing.step stepped) trivial reached
  refine ⟨fun idServer server found => (servesZones_of_run reached).borrowed found, ?_⟩
  intro idZone zone found
  rcases find_eq_some_iff.mp found with ⟨address, _, loaded⟩
  exact borrowing.tables address zone loaded

end Router
end Pxc
