import Pxc.Router.Inversions

namespace Pxc
namespace Router

open General

/-!
# What the operations do to the users

Four operations are about one user: enrolling, validating, connecting and
removing it.  Every other operation leaves the users' objects as they are,
except that moving a user to another zone writes the zone in its object.
This module says so once, operation by operation, as a frame: which pointers
`mUsers` holds, and which objects keep their tokens.
-/

variable {router next : Router}

/-- The objects of the users and the pointers to them are the same. -/
structure SameUsers (router next : Router) : Prop where
  users : next.users = router.users
  pointers : next.mUsers = router.mUsers

theorem SameUsers.refl (router : Router) : SameUsers router router :=
  ⟨rfl, rfl⟩

theorem SameUsers.trans {middle : Router} (first : SameUsers router middle)
    (second : SameUsers middle next) : SameUsers router next :=
  ⟨second.users.trans first.users, second.pointers.trans first.pointers⟩

/-- The pointers to the users are the same, and so are the tokens of all
objects but the subject's. -/
structure LeavesOthers (subject : Option Int) (router next : Router) : Prop where
  pointers : next.mUsers = router.mUsers
  next_address : next.users.next = router.users.next
  tokens : ∀ address, (∀ idUser, subject = some idUser → router.mUsers[idUser]? ≠ some address) →
    (next.users.load address).map User.mToken = (router.users.load address).map User.mToken

theorem SameUsers.leavesOthers (same : SameUsers router next) (subject : Option Int) :
    LeavesOthers subject router next where
  pointers := same.pointers
  next_address := by rw [same.users]
  tokens := fun address _ => by rw [same.users]

theorem LeavesOthers.of_store {idUser : Int} {address : Address} {object : User}
    {users : Heap User} (pointer : router.mUsers[idUser]? = some address)
    (stored : router.users.store address object = some users) (samePointers :
      next.mUsers = router.mUsers) (sameHeap : next.users = users) :
    LeavesOthers (some idUser) router next := by
  rcases Heap.store_eq_some_iff.mp stored with ⟨_, sameNext, loads⟩
  refine ⟨samePointers, sameHeap ▸ sameNext, ?_⟩
  intro other elsewhere
  have different : address ≠ other := fun same => elsewhere idUser rfl (same ▸ pointer)
  rw [sameHeap, loads other, if_neg different]

/-! ## Servers -/

theorem addServer_sameUsers {idServer : Int} (done : router.addServer idServer = some next) :
    SameUsers router next := by
  rcases addServer_cases done with same | ⟨_, same⟩
  · exact same ▸ SameUsers.refl router
  · exact same ▸ ⟨rfl, rfl⟩

theorem connectServer_sameUsers {idServer : Int} {c : Connection} {outputs : List Output}
    (done : router.connectServer idServer c = some (next, outputs)) : SameUsers router next := by
  rcases connectServer_cases done with same | ⟨_, _, _, _, _, _, _, same⟩
  · exact same ▸ SameUsers.refl router
  · exact same ▸ ⟨rfl, rfl⟩

theorem delServer_sameUsers {idServer : Int} {outputs : List Output}
    (done : router.delServer idServer = some (next, outputs)) : SameUsers router next := by
  rcases delServer_cases done with same | ⟨_, _, _, _, _, same⟩
  · exact same ▸ SameUsers.refl router
  · exact same ▸ ⟨rfl, rfl⟩

/-! ## Zones -/

theorem addZone_sameUsers {idZone : Int} (done : router.addZone idZone = some next) :
    SameUsers router next := by
  rcases addZone_cases done with same | ⟨_, same⟩
  · exact same ▸ SameUsers.refl router
  · exact same ▸ ⟨rfl, rfl⟩

theorem delZone_sameUsers {idZone : Int} (done : router.delZone idZone = some next) :
    SameUsers router next := by
  rcases delZone_cases done with same | ⟨_, _, _, _, _, same⟩
  · exact same ▸ SameUsers.refl router
  · exact same ▸ ⟨rfl, rfl⟩

theorem startZoneToServerTransfer_sameUsers {idZone newServer : Int}
    (done : router.startZoneToServerTransfer idZone newServer = some next) :
    SameUsers router next := by
  rcases startZoneToServerTransfer_cases done with same | ⟨_, _, _, _, _, same⟩
  · exact same ▸ SameUsers.refl router
  · exact same ▸ ⟨rfl, rfl⟩

theorem endZoneToServerTransfer_sameUsers {idZone : Int}
    (done : router.endZoneToServerTransfer idZone = some next) : SameUsers router next := by
  rcases endZoneToServerTransfer_cases done with same | ⟨_, _, _, _, _, _, same⟩
  · exact same ▸ SameUsers.refl router
  · exact same ▸ ⟨rfl, rfl⟩

/-- Moving a user writes the zone in its object and keeps every token. -/
theorem setUserToZone_leavesOthers {idUser idZone : Int}
    (done : router.setUserToZone idUser idZone = some next) : LeavesOthers none router next := by
  rcases setUserToZone_cases done with
    same | ⟨address, user, _, _, _, _, _, zones, users, _, loaded, _, _, _, _, stored, same⟩
  · exact same ▸ (SameUsers.refl router).leavesOthers none
  · subst same
    have sameNext := (Heap.store_eq_some_iff.mp stored).2.1
    exact ⟨rfl, sameNext, fun other _ => Heap.map_load_store loaded stored rfl other⟩

/-! ## Users -/

theorem validateUser_leavesOthers {idUser token : Int} {valid : Bool}
    (done : router.validateUser idUser token = some (next, valid)) :
    LeavesOthers (some idUser) router next := by
  rcases validateUser_cases done with ⟨_, same⟩ | ⟨address, pointer, validated⟩
  · exact same ▸ (SameUsers.refl router).leavesOthers (some idUser)
  · rcases userValidate_eq_some_iff.mp validated with ⟨object, users, _, stored, same, _⟩
    subst same
    exact .of_store pointer stored rfl rfl

theorem LeavesOthers.trans {middle : Router} {subject : Option Int}
    (first : LeavesOthers subject router middle) (second : LeavesOthers subject middle next) :
    LeavesOthers subject router next where
  pointers := second.pointers.trans first.pointers
  next_address := second.next_address.trans first.next_address
  tokens := by
    intro address elsewhere
    rw [second.tokens address (first.pointers.symm ▸ elsewhere), first.tokens address elsewhere]

theorem connectUser_leavesOthers {idUser token : Int} {c : Connection}
    (done : router.connectUser idUser token c = some next) :
    LeavesOthers (some idUser) router next := by
  rcases connectUser_cases done with ⟨_, same⟩ | ⟨address, middle, _, pointer, validated, done⟩
  · exact same ▸ (SameUsers.refl router).leavesOthers (some idUser)
  · rcases userValidate_eq_some_iff.mp validated with ⟨_, users, _, stored, sameMiddle, _⟩
    subst sameMiddle
    have first : LeavesOthers (some idUser) router { router with users } :=
      .of_store pointer stored rfl rfl
    rcases done with same | attached
    · exact same ▸ first
    · rcases userConnection_eq_some_iff.mp attached with ⟨_, _, _, _, storedAgain, same⟩
      subst same
      exact first.trans (.of_store pointer storedAgain rfl rfl)

theorem delUser_leavesOthers {idUser : Int} {outputs : List Output}
    (done : router.delUser idUser = some (next, outputs)) :
    LeavesOthers (some idUser) router next := by
  rcases delUser_cases done with same | ⟨address, zones, users, pointer, _, freed, same⟩
  · exact same ▸ (SameUsers.refl router).leavesOthers (some idUser)
  · subst same
    rcases Heap.free_eq_some_iff.mp freed with ⟨_, sameNext, loads⟩
    refine ⟨rfl, sameNext, fun other elsewhere => ?_⟩
    have different : address ≠ other := fun same => elsewhere idUser rfl (same ▸ pointer)
    change (users.load other).map User.mToken = _
    rw [loads other, if_neg different]

/-- The user whose token an event is about. -/
def Event.subject : Event → Option Int
  | .addUser idUser _ => some idUser
  | .delUser idUser => some idUser
  | .validateUser idUser _ => some idUser
  | .connectUser idUser _ _ => some idUser
  | _ => none

/-- Enrolling a new user adds a pointer; every other step keeps the pointers
and, but for its subject's, all tokens. -/
theorem step_cases {event : Event} (stepped : step router event = some next) :
    (∃ idUser token, event = .addUser idUser token ∧ router.mUsers[idUser]? = none ∧
      next.users = router.users.alloc (User.create idUser token) ∧
      next.mUsers = router.mUsers.insert idUser router.users.next) ∨
    LeavesOthers event.subject router next := by
  have unchanged : ∀ {outputs : Option (List Output)} {subject : Option Int},
      (outputs.map fun _ => router) = some next → LeavesOthers subject router next := by
    intro outputs subject sent
    rcases Option.map_eq_some_iff.mp sent with ⟨_, _, rfl⟩
    exact (SameUsers.refl router).leavesOthers subject
  cases event with
  | addServer => exact .inr ((addServer_sameUsers stepped).leavesOthers _)
  | connectServer =>
      rcases Option.map_eq_some_iff.mp stepped with ⟨⟨_, _⟩, done, rfl⟩
      exact .inr ((connectServer_sameUsers done).leavesOthers _)
  | delServer =>
      rcases Option.map_eq_some_iff.mp stepped with ⟨⟨_, _⟩, done, rfl⟩
      exact .inr ((delServer_sameUsers done).leavesOthers _)
  | addZone => exact .inr ((addZone_sameUsers stepped).leavesOthers _)
  | delZone => exact .inr ((delZone_sameUsers stepped).leavesOthers _)
  | startZoneToServerTransfer =>
      exact .inr ((startZoneToServerTransfer_sameUsers stepped).leavesOthers _)
  | endZoneToServerTransfer =>
      exact .inr ((endZoneToServerTransfer_sameUsers stepped).leavesOthers _)
  | addUser idUser token =>
      rcases addUser_cases stepped with ⟨unknown, same⟩ | ⟨_, _, _, pointer, _, stored, same⟩
      · subst same
        exact .inl ⟨idUser, token, rfl, unknown, rfl, rfl⟩
      · subst same
        exact .inr (.of_store pointer stored rfl rfl)
  | delUser =>
      rcases Option.map_eq_some_iff.mp stepped with ⟨⟨_, _⟩, done, rfl⟩
      exact .inr (delUser_leavesOthers done)
  | validateUser =>
      rcases Option.map_eq_some_iff.mp stepped with ⟨⟨_, _⟩, done, rfl⟩
      exact .inr (validateUser_leavesOthers done)
  | connectUser => exact .inr (connectUser_leavesOthers stepped)
  | setUserToZone => exact .inr (setUserToZone_leavesOthers stepped)
  | sendToServer => exact .inr (unchanged stepped)
  | sendToServerUsers => exact .inr (unchanged stepped)
  | sendToZone => exact .inr (unchanged stepped)
  | sendToUser => exact .inr (unchanged stepped)

end Router
end Pxc
