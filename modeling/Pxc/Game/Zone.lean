import Mathlib.Data.Fin.VecNotation
import Pxc.GameServer.Server
import Pxc.General.Numbers
import Pxc.General.Ownership
import Pxc.General.Runs

namespace Pxc
namespace Game

open General

/-!
# The zone of the game

`PXCZone` is compiled into the game server and into the client, from two files
of the same text.  A zone has a set of users, and a map of pointers to what it
knows about each of them: the position, the direction, the destination and the
speed.  A step of the game moves every user in the map.

What a user's numbers are is left open, since most of the code only passes
them on.
-/

universe u

theorem neZero_three : NeZero 3 :=
  ⟨Nat.succ_ne_zero 2⟩

attribute [local instance] neZero_three

/-- `PXCZone::User`, with its three arrays. -/
structure User (D : Type u) where
  mPosition : Fin 3 → D
  mDirection : Fin 3 → D
  mDestination : Fin 3 → D
  mSpeed : D

variable {D : Type u} [Floating D]

namespace User

/-- `PXCZone::User::normalizeDirection`, which works on the destination. -/
def normalizeDirection (user : User D) : User D :=
  let length := Floating.sqrt (user.mDestination 0 * user.mDestination 0
    + user.mDestination 1 * user.mDestination 1
    + user.mDestination 2 * user.mDestination 2)
  if length != 0 then { user with mDestination := fun i => user.mDestination i / length }
  else user

/-- The constructor. -/
def create (x y z dx dy dz : D) : User D :=
  normalizeDirection
    { mPosition := ![x, y, z]
      mDirection := ![dx, dy, dz]
      mDestination := ![0, 0, 0]
      mSpeed := 0 }

/-- `PXCZone::User::update`. -/
def update (user : User D) (step : D) : User D :=
  let dest := fun i => user.mPosition i + user.mDirection i * user.mSpeed * step
  let length := Floating.sqrt (dest 0 - user.mPosition 0
    + dest 1 - user.mPosition 1
    + dest 2 - user.mPosition 2)
  let maxLength := Floating.sqrt (user.mDestination 0 - user.mPosition 0
    + user.mDestination 1 - user.mPosition 1
    + user.mDestination 2 - user.mPosition 2)
  -- If we've gone further than our destination
  if length > maxLength then { user with mPosition := user.mDestination }
  else { user with mPosition := dest }

/-- `PXCZone::User::setDestination`. -/
def setDestination (user : User D) (x y z : D) : User D :=
  let mDestination := ![x, y, z]
  normalizeDirection
    { user with mDestination, mDirection := fun i => mDestination i - user.mPosition i }

end User

/-- `PXCZone`, with the users that have been created and not deleted. -/
structure PXCZone (D : Type u) where
  mZoneId : Int
  mUsers : Finset Int
  mUserData : FiniteMap Int Address
  users : Heap (User D)

namespace PXCZone

omit [Floating D] in
/-- The constructor. -/
def create (id : Int) : PXCZone D :=
  ⟨id, ∅, ∅, Heap.empty⟩

/-- What the zone knows about a user. -/
def userData (zone : PXCZone D) (idUser : Int) : Option (User D) :=
  find zone.mUserData zone.users idUser

/-- `PXCZone::addUser`. -/
def addUser (zone : PXCZone D) (idUser : Int) : PXCZone D :=
  if idUser ∈ zone.mUsers then zone
  else
    { zone with
      mUsers := insert idUser zone.mUsers
      users := zone.users.alloc (User.create 0 0 0 1 0 0)
      mUserData := zone.mUserData.insert idUser zone.users.next }

/-- `PXCZone::delUser`, undefined for a user without data. -/
def delUser (zone : PXCZone D) (idUser : Int) : Option (PXCZone D) :=
  if idUser ∈ zone.mUsers then
    match zone.mUserData[idUser]? with
    | none => none
    | some address =>
        (zone.users.free address).map fun users =>
          { zone with
            mUsers := zone.mUsers.erase idUser
            users
            mUserData := zone.mUserData.erase idUser }
  else some zone

/-- `PXCGame::gameStep` of the server, and `PXCGame::logic` of the client. -/
def gameStep (zone : PXCZone D) (stepTime : D) : Option (PXCZone D) :=
  (changeAll (fun user => user.update stepTime) zone.mUserData zone.users).map fun users =>
    { zone with users }

/-- The set and the map have the same users, and each pointer of the map is
that of one user, which is alive. -/
structure Sound (zone : PXCZone D) : Prop where
  users : ∀ idUser, idUser ∈ zone.mUsers ↔ idUser ∈ zone.mUserData
  holds : Holds zone.mUserData zone.users

variable {zone : PXCZone D} {idUser : Int}

theorem addUser_new (unknown : idUser ∉ zone.mUsers) : zone.addUser idUser =
    { zone with
      mUsers := insert idUser zone.mUsers
      users := zone.users.alloc (User.create 0 0 0 1 0 0)
      mUserData := zone.mUserData.insert idUser zone.users.next } :=
  if_neg unknown

theorem addUser_mZoneId (zone : PXCZone D) (idUser : Int) :
    (zone.addUser idUser).mZoneId = zone.mZoneId := by
  unfold addUser
  split <;> rfl

theorem addUser_mUsers (zone : PXCZone D) (idUser : Int) :
    (zone.addUser idUser).mUsers = insert idUser zone.mUsers := by
  unfold addUser
  split
  · next known => exact (Finset.insert_eq_of_mem known).symm
  · rfl

omit [Floating D] in
theorem delUser_unknown (unknown : idUser ∉ zone.mUsers) : zone.delUser idUser = some zone :=
  if_neg unknown

namespace Sound

omit [Floating D] in
theorem create (id : Int) : Sound (PXCZone.create id : PXCZone D) where
  users := by
    intro idUser
    exact iff_of_false (Finset.notMem_empty idUser) Std.ExtTreeMap.not_mem_empty
  holds := Holds.empty

omit [Floating D] in
theorem mem_iff (sound : Sound zone) :
    idUser ∈ zone.mUsers ↔ ∃ user, zone.userData idUser = some user :=
  (sound.users idUser).trans sound.holds.mem_iff

theorem addUser (sound : Sound zone) (idUser : Int) : Sound (zone.addUser idUser) := by
  by_cases known : idUser ∈ zone.mUsers
  · rw [PXCZone.addUser, if_pos known]
    exact sound
  · rw [addUser_new known]
    refine ⟨?_, sound.holds.alloc idUser _⟩
    intro other
    rw [Finset.mem_insert, Std.ExtTreeMap.mem_insert, Std.compare_eq_iff_eq, sound.users]
    exact or_congr eq_comm Iff.rfl

theorem userData_addUser (sound : Sound zone) (unknown : idUser ∉ zone.mUsers) (other : Int) :
    (zone.addUser idUser).userData other =
      if idUser = other then some (User.create 0 0 0 1 0 0) else zone.userData other := by
  rw [addUser_new unknown]
  exact sound.holds.find_alloc _ other

omit [Floating D] in
theorem delUser_known (sound : Sound zone) (known : idUser ∈ zone.mUsers) :
    ∃ address users, zone.mUserData[idUser]? = some address ∧
      zone.users.free address = some users ∧
      zone.delUser idUser = some { zone with
        mUsers := zone.mUsers.erase idUser
        users
        mUserData := zone.mUserData.erase idUser } := by
  rcases FiniteMap.exists_of_mem ((sound.users idUser).mp known) with ⟨address, pointer⟩
  rcases sound.holds.alive pointer with ⟨user, loaded⟩
  rcases Heap.exists_free loaded with ⟨users, freed⟩
  refine ⟨address, users, pointer, freed, ?_⟩
  simp only [PXCZone.delUser, if_pos known, pointer, freed, Option.map_some]

omit [Floating D] in
/-- Deleting a user is defined, and changes nothing about the others. -/
theorem exists_delUser (sound : Sound zone) (idUser : Int) :
    ∃ next, zone.delUser idUser = some next ∧ Sound next ∧ next.mZoneId = zone.mZoneId ∧
      next.mUsers = zone.mUsers.erase idUser ∧
      ∀ other, next.userData other = if idUser = other then none else zone.userData other := by
  by_cases known : idUser ∈ zone.mUsers
  · rcases sound.delUser_known known with ⟨address, users, pointer, freed, done⟩
    refine ⟨_, done, ⟨?_, sound.holds.free pointer freed⟩, rfl, rfl, ?_⟩
    · intro other
      rw [Finset.mem_erase, FiniteMap.mem_erase_iff, sound.users]
      exact and_congr ne_comm Iff.rfl
    · exact sound.holds.find_free pointer freed
  · refine ⟨zone, delUser_unknown known, sound, rfl, (Finset.erase_eq_of_notMem known).symm, ?_⟩
    intro other
    split
    · next same =>
      subst same
      cases found : zone.userData idUser with
      | none => rfl
      | some user => exact absurd (sound.mem_iff.mpr ⟨user, found⟩) known
    · rfl

theorem storesAll_addUser (sound : Sound zone) (stores : StoresAll zone.mUserData zone.users)
    (idUser : Int) :
    StoresAll (zone.addUser idUser).mUserData (zone.addUser idUser).users := by
  by_cases known : idUser ∈ zone.mUsers
  · rw [PXCZone.addUser, if_pos known]
    exact stores
  · rw [addUser_new known]
    have absent : idUser ∉ zone.mUserData := mt (sound.users idUser).mpr known
    exact stores.alloc (FiniteMap.getElem?_eq_none_iff.mpr absent) _

omit [Floating D] in
theorem storesAll_delUser (sound : Sound zone) (stores : StoresAll zone.mUserData zone.users)
    {next : PXCZone D} (done : zone.delUser idUser = some next) :
    StoresAll next.mUserData next.users := by
  by_cases known : idUser ∈ zone.mUsers
  · rcases sound.delUser_known known with ⟨address, users, pointer, freed, deleted⟩
    rw [deleted, Option.some.injEq] at done
    rw [← done]
    exact stores.free pointer freed
  · rw [delUser_unknown known, Option.some.injEq] at done
    exact done ▸ stores

/-- A step of the game moves every user. -/
theorem exists_gameStep (sound : Sound zone) (stepTime : D) :
    ∃ next, zone.gameStep stepTime = some next ∧ Sound next ∧ next.mUsers = zone.mUsers ∧
      ∀ idUser, next.userData idUser =
        (zone.userData idUser).map fun user => user.update stepTime := by
  rcases sound.holds.exists_changeAll fun user => user.update stepTime with
    ⟨users, changed, holds, finds⟩
  refine ⟨{ zone with users }, ?_, ⟨sound.users, holds⟩, rfl, finds⟩
  rw [gameStep, changed, Option.map_some]

/-- Steps of the game move each user as if it were alone. -/
theorem exists_run (sound : Sound zone) (steps : List D) :
    ∃ next, run gameStep zone steps = some next ∧ Sound next ∧ next.mUsers = zone.mUsers ∧
      ∀ idUser, next.userData idUser =
        (zone.userData idUser).map fun user => steps.foldl User.update user := by
  induction steps generalizing zone with
  | nil => exact ⟨zone, rfl, sound, rfl, fun idUser => Option.map_id'.symm⟩
  | cons stepTime rest inductionHypothesis =>
      rcases sound.exists_gameStep stepTime with ⟨middle, stepped, soundMiddle, same, moved⟩
      rcases inductionHypothesis soundMiddle with ⟨next, onwards, soundNext, sameNext, movedNext⟩
      refine ⟨next, ?_, soundNext, sameNext.trans same, fun idUser => ?_⟩
      · rw [run_cons, stepped, Option.bind_some]
        exact onwards
      · rw [movedNext, moved, Option.map_map]
        rfl

end Sound

/-! ## The keys alone

What a user's numbers are does not matter to the game server, whose model keeps
the keys of the map only.
-/

/-- The zone as the game server sees it. -/
structure Represents (zone : PXCZone D) (keys : GameServer.Zone) : Prop where
  id : keys.mZoneId = zone.mZoneId
  users : keys.mUsers = zone.mUsers
  data : ∀ idUser, idUser ∈ keys.mUserData ↔ idUser ∈ zone.mUserData

namespace Represents

variable {keys : GameServer.Zone}

theorem addUser (represents : Represents zone keys) (idUser : Int) :
    Represents (zone.addUser idUser) (keys.addUser idUser) := by
  unfold PXCZone.addUser GameServer.Zone.addUser
  rw [represents.users]
  split
  · exact represents
  · refine ⟨represents.id, rfl, fun other => ?_⟩
    rw [Finset.mem_insert, Std.ExtTreeMap.mem_insert, Std.compare_eq_iff_eq, represents.data]
    exact or_congr eq_comm Iff.rfl

omit [Floating D] in
theorem delUser (represents : Represents zone keys) (sound : Sound zone) (idUser : Int) :
    ∃ next keys', zone.delUser idUser = some next ∧ keys.delUser idUser = some keys' ∧
      Represents next keys' := by
  by_cases known : idUser ∈ zone.mUsers
  · rcases sound.delUser_known known with ⟨address, users, pointer, freed, done⟩
    have data : idUser ∈ keys.mUserData :=
      (represents.data idUser).mpr (FiniteMap.mem_of_getElem? pointer)
    have erased : keys.delUser idUser = some { keys with
        mUsers := keys.mUsers.erase idUser
        mUserData := keys.mUserData.erase idUser } := by
      rw [GameServer.Zone.delUser, represents.users, if_pos known, if_pos data]
    have users := congrArg (Finset.erase · idUser) represents.users
    refine ⟨_, _, done, erased, represents.id, users, ?_⟩
    intro other
    rw [Finset.mem_erase, FiniteMap.mem_erase_iff, represents.data]
    exact and_congr ne_comm Iff.rfl
  · refine ⟨zone, keys, delUser_unknown known, ?_, represents⟩
    rw [GameServer.Zone.delUser, represents.users, if_neg known]

end Represents

end PXCZone

end Game
end Pxc
