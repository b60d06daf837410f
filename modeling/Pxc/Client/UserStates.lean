import Pxc.Game.Zone
import Pxc.General.Histories

namespace Pxc
namespace Client

open General Game

/-!
# What the client knows about the users

The server reports the state of a user with `SetUserStatusRcvd`.  The client
writes it into the map of its zone when the user is known there.  For a user
that is not, it creates an object with the reported state and keeps no pointer
to it: the user remains unknown, and the object stays alive.

Users become known by `addUser` only, so what the map holds is what was
reported last exactly when every report is about a user that has been added.
-/

universe u

attribute [local instance] neZero_three

/-- The fields of `SetUserStatusRcvd`. -/
structure SetUserStatus (D : Type u) where
  mUserId : Int
  mZone : Int
  mPos : Fin 3 → D
  mDir : Fin 3 → D
  mSpeed : D

variable {D : Type u}

/-- `PXCGame::setUserState`.  The new user of the second branch has the first
coordinate of the direction three times, and is not put into the map. -/
def setUserState [Floating D] (zone : PXCZone D) (idUser : Int) (pos dir : Fin 3 → D)
    (speed : D) : Option (PXCZone D) :=
  match zone.mUserData[idUser]? with
  | some it =>
      (zone.users.changeAt
          (fun user => { user with mPosition := pos, mDirection := dir, mSpeed := speed }) it).map
        fun users => { zone with users }
  | none =>
      let usr := User.create (pos 0) (pos 1) (pos 2) (dir 0) (dir 0) (dir 0)
      some { zone with users := zone.users.alloc { usr with mSpeed := speed } }

/-- `SetUserStatusRcvd::exec`, with the zone of the client's game.  A client
that is in no zone has no game, and does nothing. -/
def SetUserStatus.exec [Floating D] (message : SetUserStatus D) (zone : PXCZone D) :
    Option (PXCZone D) :=
  if zone.mZoneId = message.mZone then
    setUserState zone message.mUserId message.mPos message.mDir message.mSpeed
  else some zone

/-- A message that is executed, or a call. -/
inductive ZoneEvent (D : Type u) where
  | setUserStatus (message : SetUserStatus D)
  | addUser (idUser : Int)
  | delUser (idUser : Int)

/-- What an event does to the zone. -/
def zoneStep [Floating D] (zone : PXCZone D) : ZoneEvent D → Option (PXCZone D)
  | .setUserStatus message => message.exec zone
  | .addUser idUser => some (zone.addUser idUser)
  | .delUser idUser => zone.delUser idUser

/-- The message is the last one about its user in the zone, and the user has
not been deleted since. -/
def LastReport (zoneId : Int) (history : List (ZoneEvent D)) (message : SetUserStatus D) : Prop :=
  message.mZone = zoneId ∧
    Since (fun _ event => event = .setUserStatus message)
      (fun _ event => event ≠ .delUser message.mUserId ∧
        ∀ other, event = .setUserStatus other → other.mZone = zoneId →
          other.mUserId ≠ message.mUserId)
      history

/-- The user has been added, and not deleted since. -/
def Added (history : List (ZoneEvent D)) (idUser : Int) : Prop :=
  Since (fun _ event => event = .addUser idUser) (fun _ event => event ≠ .delUser idUser) history

/-- The map holds what was reported last, its keys are the users, and every
object that is alive is in it. -/
structure ShowsLast (zoneId : Int) (history : List (ZoneEvent D)) (zone : PXCZone D) : Prop where
  data : ∀ message, LastReport zoneId history message →
    ∃ user, zone.userData message.mUserId = some user ∧ user.mPosition = message.mPos ∧
      user.mDirection = message.mDir ∧ user.mSpeed = message.mSpeed
  users : ∀ idUser, idUser ∈ zone.mUsers ↔ idUser ∈ zone.mUserData
  stored : StoresAll zone.mUserData zone.users

/-- Every report for the zone is about a user that has been added before. -/
def ReportsAdded (zoneId : Int) (events : List (ZoneEvent D)) : Prop :=
  ∀ before message later, events = before ++ .setUserStatus message :: later →
    message.mZone = zoneId → Added before message.mUserId

theorem ReportsAdded.prefixClosed (zoneId : Int) :
    PrefixClosed (ReportsAdded zoneId : List (ZoneEvent D) → Prop) := by
  intro first second added before message later split here
  refine added before message (later ++ second) ?_ here
  rw [split, List.append_assoc, List.cons_append]

variable {zoneId : Int} {history : List (ZoneEvent D)} {idUser : Int}

theorem added_setUserStatus (message : SetUserStatus D) :
    Added (history ++ [ZoneEvent.setUserStatus message]) idUser ↔ Added history idUser := by
  simp only [Added, since_concat_iff, reduceCtorEq, false_or, ne_eq, not_false_eq_true, and_true]

theorem added_addUser (added : Int) :
    Added (history ++ [ZoneEvent.addUser added]) idUser ↔
      added = idUser ∨ Added history idUser := by
  simp only [Added, since_concat_iff, ZoneEvent.addUser.injEq, reduceCtorEq, ne_eq,
    not_false_eq_true, and_true]

theorem added_delUser (deleted : Int) :
    Added (history ++ [ZoneEvent.delUser deleted]) idUser ↔
      Added history idUser ∧ deleted ≠ idUser := by
  simp only [Added, since_concat_iff, ZoneEvent.delUser.injEq, reduceCtorEq, false_or, ne_eq]

variable {message : SetUserStatus D}

theorem lastReport_setUserStatus (other : SetUserStatus D) :
    LastReport zoneId (history ++ [.setUserStatus other]) message ↔
      message.mZone = zoneId ∧ other = message ∨
        LastReport zoneId history message ∧
          (other.mZone = zoneId → other.mUserId ≠ message.mUserId) := by
  simp only [LastReport, since_concat_iff, ZoneEvent.setUserStatus.injEq, reduceCtorEq, ne_eq,
    not_false_eq_true, true_and, forall_eq', and_or_left, and_assoc]

theorem lastReport_addUser (added : Int) :
    LastReport zoneId (history ++ [.addUser added]) message ↔
      LastReport zoneId history message := by
  simp only [LastReport, since_concat_iff, reduceCtorEq, ne_eq, not_false_eq_true, false_or,
    false_implies, implies_true, and_true]

theorem lastReport_delUser (deleted : Int) :
    LastReport zoneId (history ++ [.delUser deleted]) message ↔
      LastReport zoneId history message ∧ deleted ≠ message.mUserId := by
  simp only [LastReport, since_concat_iff, ZoneEvent.delUser.injEq, reduceCtorEq, ne_eq, false_or,
    false_implies, implies_true, and_true, and_assoc]

variable [Floating D] {zone next : PXCZone D} {pos dir : Fin 3 → D} {speed : D}

/-- The state of a known user is overwritten. -/
theorem setUserState_known (sound : zone.Sound) (known : idUser ∈ zone.mUsers) :
    ∃ (user : User D) (address : Address) (users : Heap (User D)),
      zone.mUserData[idUser]? = some address ∧
      zone.users.store address { user with mPosition := pos, mDirection := dir, mSpeed := speed } =
        some users ∧
      setUserState zone idUser pos dir speed = some { zone with users } := by
  rcases FiniteMap.exists_of_mem ((sound.users idUser).mp known) with ⟨address, pointer⟩
  rcases sound.holds.alive pointer with ⟨user, loaded⟩
  rcases Heap.exists_store loaded
    { user with mPosition := pos, mDirection := dir, mSpeed := speed } with ⟨users, stored⟩
  refine ⟨user, address, users, pointer, stored, ?_⟩
  simp only [setUserState, pointer, Heap.changeAt, loaded, Option.bind_some, stored,
    Option.map_some]

/-- The state of an unknown user gets lost. -/
theorem setUserState_unknown (sound : zone.Sound) (unknown : idUser ∉ zone.mUsers) :
    ∃ user, setUserState zone idUser pos dir speed =
      some { zone with users := zone.users.alloc user } := by
  have absent : zone.mUserData[idUser]? = none :=
    FiniteMap.getElem?_eq_none_iff.mpr fun member => unknown ((sound.users idUser).mpr member)
  simp only [setUserState, absent]
  exact ⟨_, rfl⟩

/-- The zone has the users that the history has added. -/
structure Tracks (zoneId : Int) (history : List (ZoneEvent D)) (zone : PXCZone D) : Prop where
  id : zone.mZoneId = zoneId
  sound : zone.Sound
  known : ∀ idUser, idUser ∈ zone.mUsers ↔ Added history idUser

namespace Tracks

omit [Floating D] in
theorem create (zoneId : Int) : Tracks zoneId [] (PXCZone.create zoneId : PXCZone D) where
  id := rfl
  sound := PXCZone.Sound.create zoneId
  known := by
    intro idUser
    exact iff_of_false (Finset.notMem_empty idUser) not_since_nil

/-- Every step is defined, also the ones that lose an object. -/
theorem exists_step (tracks : Tracks zoneId history zone) (event : ZoneEvent D) :
    ∃ next, zoneStep zone event = some next ∧ Tracks zoneId (history ++ [event]) next := by
  cases event with
  | setUserStatus message =>
      have same : ∀ idUser, idUser ∈ zone.mUsers ↔
          Added (history ++ [ZoneEvent.setUserStatus message]) idUser := by
        intro idUser
        rw [added_setUserStatus, tracks.known]
      rw [zoneStep, SetUserStatus.exec]
      split
      · by_cases known : message.mUserId ∈ zone.mUsers
        · rcases setUserState_known tracks.sound known with
            ⟨user, address, users, pointer, stored, done⟩
          exact ⟨_, done, tracks.id, ⟨tracks.sound.users, tracks.sound.holds.store stored⟩, same⟩
        · rcases setUserState_unknown tracks.sound known with ⟨user, done⟩
          exact ⟨_, done, tracks.id,
            ⟨tracks.sound.users, tracks.sound.holds.alloc_unstored user⟩, same⟩
      · exact ⟨zone, rfl, tracks.id, tracks.sound, same⟩
  | addUser idUser =>
      refine ⟨zone.addUser idUser, rfl, (zone.addUser_mZoneId idUser).trans tracks.id,
        tracks.sound.addUser idUser, ?_⟩
      intro other
      rw [zone.addUser_mUsers, Finset.mem_insert, added_addUser, tracks.known]
      exact or_congr eq_comm Iff.rfl
  | delUser idUser =>
      rcases tracks.sound.exists_delUser idUser with ⟨next, done, sound, sameId, users, _⟩
      refine ⟨next, done, sameId.trans tracks.id, sound, ?_⟩
      intro other
      rw [users, Finset.mem_erase, added_delUser, tracks.known, and_comm]
      exact and_congr Iff.rfl ne_comm

/-- What a report does if it is about a user that has been added. -/
theorem cases_of_added {message : SetUserStatus D} (tracks : Tracks zoneId history zone)
    (added : message.mZone = zoneId → Added history message.mUserId)
    (stepped : zoneStep zone (.setUserStatus message) = some next) :
    (message.mZone ≠ zoneId ∧ next = zone) ∨
      message.mZone = zoneId ∧ ∃ (user : User D) (address : Address) (users : Heap (User D)),
        zone.mUserData[message.mUserId]? = some address ∧
        zone.users.store address { user with
          mPosition := message.mPos
          mDirection := message.mDir
          mSpeed := message.mSpeed } = some users ∧
        next = { zone with users } := by
  rw [zoneStep, SetUserStatus.exec, tracks.id] at stepped
  split at stepped
  · next here =>
    have known := (tracks.known _).mpr (added here.symm)
    rcases setUserState_known tracks.sound known with
      ⟨user, address, users, pointer, stored, done⟩
    exact .inr ⟨here.symm, user, address, users, pointer, stored, Option.mem_unique stepped done⟩
  · next elsewhere => exact .inl ⟨Ne.symm elsewhere, (Option.some.inj stepped).symm⟩

theorem of_run {zoneId : Int} {history : List (ZoneEvent D)} {zone : PXCZone D}
    (reached : run zoneStep (PXCZone.create zoneId) history = some zone) :
    Tracks zoneId history zone := by
  refine run_invariant_of_step (fun _ => True) (Tracks zoneId) (fun _ _ _ => trivial)
    (Tracks.create zoneId) ?_ trivial reached
  intro before state event next _ tracks stepped
  rcases tracks.exists_step event with ⟨after, stepped', followed⟩
  cases Option.mem_unique stepped' stepped
  exact followed

end Tracks

/-! ## What the client shows -/

namespace ShowsLast

omit [Floating D] in
theorem create (zoneId : Int) : ShowsLast zoneId [] (PXCZone.create zoneId : PXCZone D) where
  data := by
    intro message last
    exact absurd last.2 not_since_nil
  users := (PXCZone.Sound.create zoneId).users
  stored := StoresAll.empty

/-- After a step, the map holds what was reported last. -/
theorem data_step {event : ZoneEvent D} (shows : ShowsLast zoneId history zone)
    (tracks : Tracks zoneId history zone)
    (added : ∀ message, event = .setUserStatus message → message.mZone = zoneId →
      Added history message.mUserId)
    (stepped : zoneStep zone event = some next) (message : SetUserStatus D)
    (last : LastReport zoneId (history ++ [event]) message) :
    ∃ user, next.userData message.mUserId = some user ∧ user.mPosition = message.mPos ∧
      user.mDirection = message.mDir ∧ user.mSpeed = message.mSpeed := by
  cases event with
  | setUserStatus other =>
      rw [lastReport_setUserStatus] at last
      rcases tracks.cases_of_added (added other rfl) stepped with
        ⟨elsewhere, rfl⟩ | ⟨here, user, address, users, pointer, stored, rfl⟩
      · rcases last with ⟨here, rfl⟩ | ⟨earlier, _⟩
        · exact absurd here elsewhere
        · exact shows.data message earlier
      · have finds := tracks.sound.holds.find_store pointer stored
        rcases last with ⟨_, rfl⟩ | ⟨earlier, different⟩
        · exact ⟨_, (finds other.mUserId).trans (if_pos rfl), rfl, rfl, rfl⟩
        · rcases shows.data message earlier with ⟨user', found, reported⟩
          exact ⟨user', ((finds _).trans (if_neg (different here))).trans found, reported⟩
  | addUser idUser =>
      rw [lastReport_addUser] at last
      cases stepped
      rcases shows.data message last with ⟨user, found, reported⟩
      refine ⟨user, ?_, reported⟩
      by_cases known : idUser ∈ zone.mUsers
      · rw [PXCZone.addUser, if_pos known, found]
      · rw [tracks.sound.userData_addUser known, if_neg, found]
        intro same
        subst same
        exact known (tracks.sound.mem_iff.mpr ⟨user, found⟩)
  | delUser idUser =>
      rw [lastReport_delUser] at last
      rcases tracks.sound.exists_delUser idUser with ⟨next', done, _, _, _, finds⟩
      cases Option.mem_unique done stepped
      rcases shows.data message last.1 with ⟨user, found, reported⟩
      exact ⟨user, (finds _).trans ((if_neg last.2).trans found), reported⟩

/-- After a step, no object is alive without a pointer. -/
theorem stored_step {event : ZoneEvent D} (shows : ShowsLast zoneId history zone)
    (tracks : Tracks zoneId history zone)
    (added : ∀ message, event = .setUserStatus message → message.mZone = zoneId →
      Added history message.mUserId)
    (stepped : zoneStep zone event = some next) : StoresAll next.mUserData next.users := by
  cases event with
  | setUserStatus message =>
      rcases tracks.cases_of_added (added message rfl) stepped with
        ⟨_, rfl⟩ | ⟨_, user, address, users, pointer, stored, rfl⟩
      · exact shows.stored
      · exact shows.stored.store pointer stored
  | addUser idUser =>
      cases stepped
      exact tracks.sound.storesAll_addUser shows.stored idUser
  | delUser idUser => exact tracks.sound.storesAll_delUser shows.stored stepped

/-- A report about a user that was not added loses an object. -/
theorem added_of_step {message : SetUserStatus D} (tracks : Tracks zoneId history zone)
    (here : message.mZone = zoneId) (stepped : zoneStep zone (.setUserStatus message) = some next)
    (shows : ShowsLast zoneId (history ++ [.setUserStatus message]) next) :
    Added history message.mUserId := by
  rw [← tracks.known]
  by_contra unknown
  rw [zoneStep, SetUserStatus.exec, if_pos (tracks.id.trans here.symm)] at stepped
  rcases setUserState_unknown tracks.sound unknown with ⟨user, done⟩
  cases Option.mem_unique done stepped
  exact StoresAll.not_alloc_unstored tracks.sound.holds user shows.stored

/-- While reports are about users that have been added, the client shows what
was reported last. -/
theorem exists_run_of_added {events : List (ZoneEvent D)} (added : ReportsAdded zoneId events) :
    ∃ zone, run zoneStep (PXCZone.create zoneId) events = some zone ∧
      Tracks zoneId events zone ∧ ShowsLast zoneId events zone := by
  refine exists_run (ReportsAdded zoneId)
    (fun history zone => Tracks zoneId history zone ∧ ShowsLast zoneId history zone)
    (ReportsAdded.prefixClosed zoneId) ⟨Tracks.create zoneId, ShowsLast.create zoneId⟩ ?_ added
  intro history zone event within _ both
  rcases both with ⟨tracks, shows⟩
  rcases tracks.exists_step event with ⟨next, stepped, tracksNext⟩
  have known : ∀ message, event = .setUserStatus message → message.mZone = zoneId →
      Added history message.mUserId := by
    intro message same here
    subst same
    exact within history message [] rfl here
  exact ⟨next, stepped, tracksNext, shows.data_step tracks known stepped,
    tracksNext.sound.users, shows.stored_step tracks known stepped⟩

end ShowsLast

/-- After every part of a history, the client shows what was reported last if
and only if each report was about a user that had been added. -/
theorem showsLast_iff (zoneId : Int) (events : List (ZoneEvent D)) :
    (∀ before later, events = before ++ later →
        ∃ zone, run zoneStep (PXCZone.create zoneId) before = some zone ∧
          ShowsLast zoneId before zone) ↔
      ReportsAdded zoneId events := by
  constructor
  · intro shows before message later split here
    have regrouped : events = (before ++ [.setUserStatus message]) ++ later := by
      rw [split, List.append_assoc, List.singleton_append]
    rcases shows _ later regrouped with ⟨next, reached, showsNext⟩
    rcases (run_concat_eq_some_iff _ _ _ _).mp reached with ⟨zone, reachedBefore, stepped⟩
    exact ShowsLast.added_of_step (Tracks.of_run reachedBefore) here stepped showsNext
  · intro added before later split
    rcases ShowsLast.exists_run_of_added (ReportsAdded.prefixClosed zoneId _ later (split ▸ added))
      with ⟨zone, reached, _, shows⟩
    exact ⟨zone, reached, shows⟩

/-- The first report about a user loses the object that it creates. -/
theorem new_user_lost :
    ¬ ∀ before later, [ZoneEvent.setUserStatus (⟨1, 3, ![5, 5, 0], ![1, 0, 0], 2⟩ :
        SetUserStatus Float)] = before ++ later →
      ∃ zone, run zoneStep (PXCZone.create 3) before = some zone ∧ ShowsLast 3 before zone := by
  intro shows
  rcases shows _ [] (List.append_nil _).symm with ⟨next, reached, showsNext⟩
  rcases (run_concat_eq_some_iff _ _ [] _).mp reached with ⟨zone, nothing, stepped⟩
  exact not_since_nil (ShowsLast.added_of_step (Tracks.of_run nothing) rfl stepped showsNext)

end Client
end Pxc
